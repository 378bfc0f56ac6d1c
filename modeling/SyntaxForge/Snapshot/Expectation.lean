import SyntaxForge.Snapshot.Edits
import SyntaxForge.Snapshot.Indent
import SyntaxForge.Snapshot.Literal

/-!
# Expectations

An expectation is a snapshot literal in a test file: the text that is expected, and the place in the
file where it is written.  When the actual text differs, the literal can be replaced.
-/

namespace SyntaxForge.Snapshot

/-- A snapshot literal and where it is written. -/
structure Expectation where
  position : Position
  data : String
  deriving DecidableEq, Repr

/-- A literal in a test file. -/
structure Located where
  /-- The spaces at the start of the line that the literal is on. -/
  indent : Nat
  /-- The range of the literal with its mark. -/
  span : Span
  deriving DecidableEq, Repr

namespace Expectation

/-- The expected text.  Only a literal of several lines is indented. -/
def expected? (expectation : Expectation) : Option String :=
  let data := expectation.data.toList
  if '\n' ∈ data then (trimIndent? data).map String.ofList else some expectation.data

/-- Finds the literal in the text of its file: it follows the first mark on its line, from its
column on. -/
def locate (expectation : Expectation) (text : List Char) : Except SnapshotError Located :=
  let position := expectation.position
  let above := (Text.lines text).take (position.line - 1)
  let line := (Text.lines text).getD (position.line - 1) []
  let below := (Text.lines text).drop position.line
  let front := line.take (position.column - 1)
  let (gap, marked) := (line.drop (position.column - 1)).span (· ≠ '@')
  match marked with
  | [] => .error (.noMark position)
  | _ :: rest =>
    match literal? (rest ++ below.flatten) with
    | none => .error (.unterminated position)
    | some (literal, _) =>
      .ok
        { indent := (line.takeWhile (· = ' ')).length
          span :=
            { start := Text.byteLength (above.flatten ++ front ++ gap)
              length := 1 + Text.byteLength literal } }

/-- The file with the actual text in place of the literal. -/
def update (expectation : Expectation) (file : EditedFile) (actual : String) :
    Except SnapshotError EditedFile := do
  let located ← expectation.locate file.initial
  match file.replace? located.span (formatLiteral located.indent actual.toList) with
  | some updated => return updated
  | none => .error .offBoundary

end Expectation

end SyntaxForge.Snapshot
