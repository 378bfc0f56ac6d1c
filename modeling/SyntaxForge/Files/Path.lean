/-!
# Paths

A path is a text with slashes, taken apart at them and not simplified: whether `a/../b` is the same
as `b` depends on what `a` is.  Empty parts and `.` lead nowhere, `..` leads up, and any other part
is a name.
-/

namespace SyntaxForge.Files

/-- A path, as the parts of its text between slashes. -/
abbrev Path := List String

/-- The parts of a text between slashes, as lists of characters. -/
def splitSlashes : List Char → List (List Char)
  | [] => [[]]
  | c :: rest =>
    if c = '/' then [] :: splitSlashes rest
    else
      match splitSlashes rest with
      | [] => [[c]]
      | part :: parts => (c :: part) :: parts

/-- Whether a part of a path leads nowhere. -/
def isIdle (part : String) : Bool := part = "" || part = "."

namespace Path

/-- The path that a text spells. -/
def ofText (text : String) : Path := (splitSlashes text.toList).map String.ofList

/-- The text of a path. -/
def text (path : Path) : String := "/".intercalate path

/-- A path without the parts at its end that lead nowhere. -/
def trimmed (path : Path) : Path := (path.reverse.dropWhile isIdle).reverse

/-- The directory that a path is in, by its text alone. -/
def parent (path : Path) : Path := trimmed path.trimmed.dropLast

/-- The path itself, then what is before each of its parts that leads somewhere, from the last to
the first. -/
def ancestors (path : Path) : List Path :=
  path :: (List.range path.length).reverse.filterMap fun n =>
    if path[n]?.any isIdle then none else some (trimmed (path.take n))

/-- A path below a directory.  A slash at the end of the directory is enough to divide them. -/
def join (directory path : Path) : Path :=
  (if directory.getLast? = some "" then directory.dropLast else directory) ++ path

/-- Whether the last part, slashes aside, is a `.`. -/
def endsInDot (path : Path) : Bool :=
  (path.reverse.dropWhile (· = "")).head? = some "."

/-- The most bytes that a name may have. -/
def nameLimit : Nat := 255

/-- The most bytes that the text of a path may have. -/
def textLimit : Nat := 4095

/-- Whether a path can be looked up at all: it is not too long and has no null character. -/
def isUsable (path : Path) : Bool :=
  path.text.utf8ByteSize ≤ textLimit && path.all fun part => !part.toList.contains '\x00'

end Path

end SyntaxForge.Files
