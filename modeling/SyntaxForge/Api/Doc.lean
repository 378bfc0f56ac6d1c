import SyntaxForge.Api.Phrase
import SyntaxForge.Text.Lines

/-!
# Documentation

The documentation of an item is written as a comment in front of it, and what a reader gets back
from the comment is its text as `writtenDoc` gives it:

* one line becomes a line comment, which does not keep the spaces at its end;
* several lines become a block comment, which does not keep the spaces before a line break;
* a text that would end a block comment too early or too late is written as a string, and is kept
  as it is.
-/

namespace SyntaxForge.Api

/-- A text without the spaces at its end. -/
def dropEndSpaces (text : List Char) : List Char :=
  (text.reverse.dropWhile (· = ' ')).reverse

/-- Whether the marks of block comments in a text pair up, inside of `depth` comments that are to be
ended in it. -/
def commentsPair : Nat → List Char → Bool
  | depth, '/' :: '*' :: rest => commentsPair (depth + 1) rest
  | 0, '*' :: '/' :: _ => false
  | depth + 1, '*' :: '/' :: rest => commentsPair depth rest
  | depth, _ :: rest => commentsPair depth rest
  | depth, [] => depth = 0

/-- Whether a text can stand in a block comment.  A slash at its end would start another one
together with the mark that ends the comment. -/
def fitsBlockComment (text : List Char) : Bool :=
  commentsPair 0 text && text.getLast? ≠ some '/'

/-- The text of a line comment.  A carriage return at its end is part of the line break. -/
def lineComment (text : List Char) : List Char :=
  let kept := dropEndSpaces text
  (Text.stripEnd? ['\r'] kept).getD kept

/-- The text of a block comment. -/
def blockComment (text : List Char) : List Char :=
  (Text.lines text).flatMap fun line =>
    match Text.stripEnd? ['\n'] line with
    | some content => dropEndSpaces content ++ ['\n']
    | none => line

/-- The text of a piece of documentation once it is written. -/
def writtenDoc (text : List Char) : List Char :=
  if '\n' ∉ text then lineComment text
  else if fitsBlockComment text then blockComment text
  else text

/-- Documentation in front of an item. -/
def docAttribute (doc : String) : Phrase :=
  [.text "#[doc=", .quoted (String.ofList (writtenDoc (' ' :: doc.toList))), .text "]"]

end SyntaxForge.Api
