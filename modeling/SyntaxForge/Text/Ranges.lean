/-!
# Sets of code points

A set of code points is a list of inclusive ranges in ascending order.  `Ranges.contains` stops at
the first range that starts above the code point, so that the common characters, which come first
in every table, are found at once.
-/

namespace SyntaxForge.Text

/-- A set of code points: inclusive ranges in ascending order. -/
abbrev Ranges := List (Nat × Nat)

/-- Whether `code` lies in one of the ranges. -/
def Ranges.contains : Ranges → Nat → Bool
  | [], _ => false
  | (low, high) :: rest, code =>
    if code < low then false else code ≤ high || Ranges.contains rest code

end SyntaxForge.Text
