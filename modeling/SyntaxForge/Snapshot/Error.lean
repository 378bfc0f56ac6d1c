/-!
# What can be wrong with a snapshot

Each constructor of `SnapshotError` is a reason why a snapshot cannot be checked or replaced;
`SnapshotError.message?` words it, with the `Position` of the snapshot.
-/

namespace SyntaxForge.Snapshot

/-- A place in a file.  Lines and columns are counted from one; columns count characters. -/
structure Position where
  file : String
  line : Nat
  column : Nat
  deriving DecidableEq, Repr

/-- A position as it is written in messages. -/
def Position.display (position : Position) : String :=
  s!"{position.file}:{position.line}:{position.column}"

/-- A reason why a snapshot cannot be checked or replaced. -/
inductive SnapshotError where
  /-- A range does not consist of whole characters of the text. -/
  | offBoundary
  /-- No literal is marked on the line. -/
  | noMark (position : Position)
  /-- The literal has no end. -/
  | unterminated (position : Position)
  /-- The file cannot be read. -/
  | unreadable (path : String)
  /-- The file cannot be written. -/
  | unwritable (path : String)
  deriving DecidableEq, Repr

/-- The wording of an error; a bad range has none. -/
def SnapshotError.message? : SnapshotError → Option String
  | .offBoundary => none
  | .noMark position => some s!"no `@` after `expect!` at {position.display}"
  | .unterminated position =>
    some s!"couldn't find the end of the literal at {position.display}"
  | .unreadable path => some s!"can't read {path}"
  | .unwritable path => some s!"can't write {path}"

end SyntaxForge.Snapshot
