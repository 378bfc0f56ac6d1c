import SyntaxForge.Files.Path
import SyntaxForge.Text.Lines

/-!
# Files

A disk holds directories and files.  Paths start from one directory, and are followed part by part:
every part needs a directory to start from.

`Disk.ensure` brings a file up to date: it writes the file only if its text differs from what it
should be, where the form of line breaks makes no difference.
-/

namespace SyntaxForge.Files

/-- Where something is on a disk: the names that lead to it from the starting directory, after one
`..` for each level above that directory. -/
abbrev Place := List String

/-- Whether a place is the starting directory or one of those above it. -/
def Place.isAtOrAbove (place : Place) : Bool := place.all (· = "..")

/-- The place of the directory that a place is in. -/
def Place.up (place : Place) : Place :=
  if place.isAtOrAbove then ".." :: place else place.dropLast

/-- What stands at a place. -/
inductive Entry where
  | directory
  /-- A file, with its text unless its bytes are none. -/
  | file (text : Option String)
  deriving DecidableEq, Repr

/-- A reason why a path leads nowhere, or a file or directory cannot be written. -/
inductive DiskError where
  | unusablePath (path : Path)
  | nameTooLong (name : String)
  | missing (place : Place)
  | notDirectory (place : Place)
  | isDirectory (place : Place)
  deriving DecidableEq, Repr

/-- The entries of a disk, each place once. -/
structure Disk where
  entries : List (Place × Entry) := []
  deriving DecidableEq, Repr

namespace Disk

/-- The entry at a place; the starting directory and those above it are always there. -/
def get? (disk : Disk) (place : Place) : Option Entry :=
  if place.isAtOrAbove then some .directory else disk.entries.lookup place

/-- Puts an entry at a place, instead of what is there. -/
def put (disk : Disk) (place : Place) (entry : Entry) : Disk where
  entries := (place, entry) :: disk.entries.filter (·.1 ≠ place)

/-- Goes on from a directory by one part of a path, to where there need not be anything. -/
def step (disk : Disk) (place : Place) (part : String) : Except DiskError Place :=
  match disk.get? place with
  | none => .error (.missing place)
  | some (.file _) => .error (.notDirectory place)
  | some .directory =>
    if isIdle part then .ok place
    else if part = ".." then .ok place.up
    else if Path.nameLimit < part.utf8ByteSize then .error (.nameTooLong part)
    else .ok (place ++ [part])

/-- The place that a path leads to, where there need not be anything. -/
def follow (disk : Disk) (path : Path) : Except DiskError Place :=
  if path.isUsable then path.foldlM disk.step [] else .error (.unusablePath path)

/-- The entry that a path leads to. -/
def find? (disk : Disk) (path : Path) : Option Entry :=
  (disk.follow path).toOption.bind disk.get?

/-- The text of a file. -/
def text? (disk : Disk) (path : Path) : Option String :=
  match disk.find? path with
  | some (.file text) => text
  | some .directory | none => none

/-- An operation on a disk.  What it did before it failed stays done. -/
abbrev Action := ExceptT DiskError (StateM Disk)

/-- Goes on from a directory by one part of a path, and makes the directory that it names unless
there is one. -/
def enter (place : Place) (part : String) : Action Place := do
  let next ← (← get).step place part
  match (← get).get? next with
  | some .directory => return next
  | some (.file _) => throw (.notDirectory next)
  | none =>
    modify (·.put next .directory)
    return next

/-- Follows a path and makes the directories on it that are missing. -/
def enterAll (path : Path) : Action Unit := do
  if path.isUsable then
    let _ ← path.foldlM enter []
  else
    throw (.unusablePath path)

/-- Makes a directory and all those that it is in.  No directory is made under the name `.`: if the
path ends in one, what it names has to be there. -/
def makeDirectories (path : Path) : Action Unit := do
  if path.endsInDot then
    enterAll path.parent
    let _ ← (← get).follow path
  else
    enterAll path

/-- Writes a file into a directory that is there. -/
def write (path : Path) (text : Option String) : Action Unit := do
  let place ← (← get).follow path
  if (← get).get? place = some .directory then
    throw (.isDirectory place)
  modify (·.put place (.file text))

/-- Writes a file and makes the directories that it is in. -/
def create (path : Path) (text : Option String) : Action Unit := do
  makeDirectories path.parent
  write path text

/-- Whether two texts differ at most in the form of their line breaks. -/
def sameText (left right : String) : Bool :=
  Text.unifyBreaks left.toList = Text.unifyBreaks right.toList

/-- Whether a file has a text already. -/
def isUpToDate (disk : Disk) (path : Path) (text : String) : Bool :=
  (disk.text? path).any fun old => sameText old text

/-- Brings a file up to date, and says whether it had to be written. -/
def ensure (path : Path) (text : String) : Action Bool := do
  if (← get).isUpToDate path text then
    return false
  create path (some text)
  return true

/-- Brings files up to date one after the other, up to the first that fails. -/
def ensureAll (files : List (Path × String)) : Action Unit :=
  files.forM fun (path, text) => discard (ensure path text)

/-- The files in a directory, with their names and texts. -/
def filesIn (disk : Disk) (path : Path) : List (String × Option String) :=
  match disk.follow path with
  | .error _ => []
  | .ok directory =>
    let files := disk.entries.filterMap fun (place, entry) =>
      match entry, place.getLast? with
      | .file text, some name => if place = directory ++ [name] then some (name, text) else none
      | _, _ => none
    files.mergeSort fun left right => left.1 ≤ right.1

end Disk

end SyntaxForge.Files
