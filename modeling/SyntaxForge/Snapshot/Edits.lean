import SyntaxForge.Text.Bytes

/-!
# Edited files

Snapshots are located in a file as it was first read, and replaced one by one.  The edits made so
far, in order of their place in the first text, say where a place of that text is now.
-/

namespace SyntaxForge.Snapshot

/-- A range of bytes in the text as it was first read. -/
structure Span where
  start : Nat
  length : Nat
  deriving DecidableEq, Repr

/-- A replaced range, and the number of bytes that replaced it. -/
structure Edit where
  span : Span
  newLength : Nat
  deriving DecidableEq, Repr

/-- How much longer an edit makes the text. -/
def Edit.growth (edit : Edit) : Int := (edit.newLength : Int) - edit.span.length

/-- How much longer edits make the text together. -/
def totalGrowth : List Edit → Int
  | [] => 0
  | edit :: rest => edit.growth + totalGrowth rest

/-- A file while its snapshots are replaced. -/
structure EditedFile where
  /-- The text as it was first read. -/
  initial : List Char
  current : List Char
  /-- The edits so far, by their start. -/
  edits : List Edit
  deriving DecidableEq, Repr

namespace EditedFile

/-- A file that has just been read. -/
def ofText (text : List Char) : EditedFile where
  initial := text
  current := text
  edits := []

/-- The edits that start in front of a place. -/
def before (file : EditedFile) (start : Nat) : List Edit :=
  file.edits.takeWhile (·.span.start < start)

/-- The edits that do not start in front of a place. -/
def behind (file : EditedFile) (start : Nat) : List Edit :=
  file.edits.dropWhile (·.span.start < start)

/-- How far a place has moved. -/
def shift (file : EditedFile) (start : Nat) : Int :=
  totalGrowth (file.before start)

/-- Replaces a range of the first text.  This fails if the range, where it is now, is not one of
whole characters. -/
def replace? (file : EditedFile) (span : Span) (text : List Char) : Option EditedFile := do
  let start := span.start + file.shift span.start
  if start < 0 then none
  else
    let (front, rest) ← Text.splitBytes? start.toNat file.current
    let (_, back) ← Text.splitBytes? span.length rest
    return { file with
      current := front ++ text ++ back
      edits := file.before span.start
        ++ { span, newLength := Text.byteLength text } :: file.behind span.start }

end EditedFile

end SyntaxForge.Snapshot
