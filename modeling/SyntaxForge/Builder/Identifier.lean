import SyntaxForge.Text.Affix
import SyntaxForge.Text.CharClass

/-!
# Identifiers

A plain identifier starts with a letter or an underscore and goes on with letters, digits and
underscores, of any script.  A pair of backticks around an identifier gives an identifier again.
A dollar identifier is a dollar sign and at least one such character, as in `$0`.
-/

namespace SyntaxForge.Identifier

/-- May start a plain identifier. -/
def isStart (c : Char) : Bool :=
  c = '_' || Text.isAlphabetic c

/-- May stand inside an identifier. -/
def isPart (c : Char) : Bool :=
  c = '_' || Text.isAlphanumeric c

/-- Whether a text is an identifier without backticks. -/
def isPlain : List Char → Bool
  | [] => false
  | c :: rest => isStart c && rest.all isPart

/-- The text between a backtick at the start and another one at the end. -/
def unquote? (text : List Char) : Option (List Char) :=
  (Text.stripStart? ['\x60'] text).bind (Text.stripEnd? ['\x60'])

/-- What stands between two backticks is shorter by two. -/
theorem length_of_unquote? {text inner : List Char} (h : unquote? text = some inner) :
    text.length = inner.length + 2 := by
  obtain ⟨tail, h₁, h₂⟩ := Option.bind_eq_some_iff.1 h
  rw [Text.stripStart?_eq_some_iff.1 h₁, Text.stripEnd?_eq_some_iff.1 h₂]
  simp

/-- Whether a text is an identifier. -/
def isIdentifier (text : List Char) : Bool :=
  match _ : unquote? text with
  | some inner => isIdentifier inner
  | none => isPlain text
termination_by text.length
decreasing_by
  have := length_of_unquote? (by assumption)
  omega

/-- Whether a text is a dollar identifier. -/
def isDollar : List Char → Bool
  | '$' :: c :: rest => (c :: rest).all isPart
  | _ => false

end SyntaxForge.Identifier
