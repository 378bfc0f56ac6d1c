import SyntaxForge.Tree.Trivia

/-!
# Formats

A format says how wide a level of indentation is and how many levels deep the current line
stands.
-/

namespace SyntaxForge

/-- The indentation of the current line. -/
structure Format where
  /-- Spaces per level. -/
  width : Nat := 4
  /-- Levels. -/
  depth : Nat := 0
  deriving DecidableEq, Repr

namespace Format

/-- The format one level deeper. -/
def indented (format : Format) : Format :=
  { format with depth := format.depth + 1 }

/-- The whitespace at the start of a line. -/
def indent (format : Format) : Trivia :=
  Trivia.spaces (format.depth * format.width)

/-- The start of a new line. -/
def newLine (format : Format) : Trivia :=
  Trivia.newline ++ format.indent

end Format

end SyntaxForge
