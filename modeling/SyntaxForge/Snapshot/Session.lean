import SyntaxForge.Files.Disk
import SyntaxForge.Snapshot.Expectation

/-!
# Replacing snapshots

A test run checks one expectation after the other and replaces the snapshots that differ.  The file
is read when the first one differs; later ones are located in the text that was read then.
-/

namespace SyntaxForge.Snapshot

open Files

/-- The file that marks the directory of a package. -/
def manifestName : String := "Cargo.toml"

/-- The directory that the paths of test files are relative to: the outermost package around a
directory, or that directory itself. -/
def workspaceRoot (disk : Disk) (directory : Path) : Path :=
  (directory.ancestors.filter fun path =>
    (disk.find? (path.join [manifestName])).isSome).getLast?.getD directory

/-- The path of a test file that is given relative to its workspace. -/
def workspacePath (disk : Disk) (directory file : Path) : Path :=
  (workspaceRoot disk directory).join file

/-- A test file during a run. -/
structure Session where
  disk : Disk
  /-- Where the file is. -/
  path : Path
  /-- The file, once a snapshot in it has differed. -/
  opened : Option EditedFile := none
  deriving DecidableEq, Repr

namespace Session

/-- The file, read unless it has been read before. -/
def file (session : Session) : Except SnapshotError EditedFile :=
  match session.opened, session.disk.text? session.path with
  | some file, _ => .ok file
  | none, some text => .ok (.ofText text.toList)
  | none, none => .error (.unreadable session.path.text)

/-- Puts the edited file on the disk. -/
def save (session : Session) (updated : EditedFile) : Except SnapshotError Session :=
  let text := String.ofList updated.current
  match (Disk.write session.path (some text)).run.run session.disk with
  | (.ok (), disk) => .ok { session with disk, opened := some updated }
  | (.error _, _) => .error (.unwritable session.path.text)

/-- Checks an expectation, and replaces its snapshot if the actual text differs. -/
def check (session : Session) (expectation : Expectation) (actual : String) :
    Except SnapshotError Session :=
  match expectation.expected? with
  | none => .error .offBoundary
  | some expected =>
    if expected = actual then .ok session
    else do session.save (← expectation.update (← session.file) actual)

end Session

end SyntaxForge.Snapshot
