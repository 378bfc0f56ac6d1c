import SyntaxForge.Text.Affix
import SyntaxForge.Text.Bytes
import SyntaxForge.Text.Lines

/-!
# Indentation of snapshots

A snapshot of several lines is indented together with the code around it.  Its text is what remains
without the first line break and without the indentation that all of its lines share.  The shared
indentation is counted in bytes.
-/

namespace SyntaxForge.Snapshot

/-- The bytes of white space at the start of a line. -/
def lineMargin (line : List Char) : Nat :=
  Text.byteLength (line.takeWhile Text.isBlank)

/-- The least indentation of the lines that are not blank. -/
def margin (lines : List (List Char)) : Nat :=
  ((lines.filter fun line => !Text.isBlankLine line).map lineMargin).min?.getD 0

/-- A line without its first bytes.  A line that is not longer is blank, and loses the spaces at its
start. -/
def cutLine? (bytes : Nat) (line : List Char) : Option (List Char) :=
  if Text.byteLength line ≤ bytes then some (line.dropWhile (· = ' '))
  else (Text.splitBytes? bytes line).map Prod.snd

/-- The text without its first line break and without shared indentation.  There is none if the
indentation ends inside a character of another line. -/
def trimIndent? (text : List Char) : Option (List Char) :=
  let lines := Text.lines ((Text.stripStart? ['\n'] text).getD text)
  (lines.mapM (cutLine? (margin lines))).map List.flatten

end SyntaxForge.Snapshot
