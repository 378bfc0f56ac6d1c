import SyntaxForge.Tree.Kind

/-!
# Trivia

Trivia is the whitespace and the comments around a token, as a list of pieces.  Runs of spaces,
tabs and newlines are counted; a count may be zero, and such a piece is still a piece.

`Trivia.respaced` indents every line that starts without whitespace like the closest indented line
above it.  It is what keeps comments and declarations aligned when trivia from several sources is
put together.
-/

namespace SyntaxForge

/-- A run of whitespace, or a comment. -/
inductive Piece where
  | spaces (count : Nat)
  | tabs (count : Nat)
  | newlines (count : Nat)
  /-- A `//` comment, slashes included. -/
  | lineComment (text : String)
  /-- A `///` comment, slashes included. -/
  | docLineComment (text : String)
  /-- Text that belongs to nothing. -/
  | unexpectedText (text : String)
  deriving DecidableEq, Repr

namespace Piece

/-- The kind of the token that holds the piece. -/
def kind : Piece → TriviaKind
  | .spaces _ => .spaces
  | .tabs _ => .tabs
  | .newlines _ => .newlines
  | .lineComment _ => .lineComment
  | .docLineComment _ => .docLineComment
  | .unexpectedText _ => .unexpectedText

/-- The text of the piece. -/
def text : Piece → String
  | .spaces count => String.ofList (List.replicate count ' ')
  | .tabs count => String.ofList (List.replicate count '\t')
  | .newlines count => String.ofList (List.replicate count '\n')
  | .lineComment text | .docLineComment text | .unexpectedText text => text

/-- The piece that a token of this kind of trivia holds.  A run is as long as its text has
bytes. -/
def ofText (text : String) : TriviaKind → Piece
  | .spaces => .spaces text.utf8ByteSize
  | .tabs => .tabs text.utf8ByteSize
  | .newlines => .newlines text.utf8ByteSize
  | .lineComment => .lineComment text
  | .docLineComment => .docLineComment text
  | .unexpectedText => .unexpectedText text

/-- The piece that a token holds, if it is trivia. -/
def ofToken? (kind : Kind) (text : String) : Option Piece :=
  match kind with
  | .trivia kind => some (ofText text kind)
  | .tombstone | .token _ | .node _ => none

/-- Whether the piece is a run of newlines. -/
def isNewline : Piece → Bool
  | .newlines _ => true
  | _ => false

/-- Whether the piece is a run of spaces or tabs. -/
def isSpaceOrTab : Piece → Bool
  | .spaces _ | .tabs _ => true
  | _ => false

end Piece

/-- An ordered run of pieces. -/
abbrev Trivia := List Piece

namespace Trivia

/-- A run of spaces, or nothing at all for none of them. -/
def spaces (count : Nat) : Trivia := if count = 0 then [] else [.spaces count]

/-- A run of tabs, or nothing at all for none of them. -/
def tabs (count : Nat) : Trivia := if count = 0 then [] else [.tabs count]

/-- A run of newlines, or nothing at all for none of them. -/
def newlines (count : Nat) : Trivia := if count = 0 then [] else [.newlines count]

/-- One newline. -/
def newline : Trivia := newlines 1

/-- The texts of the pieces, one after the other. -/
def text (trivia : Trivia) : String :=
  String.join (trivia.map Piece.text)

/-- Indents every line that starts without whitespace with `indent`, the whitespace of the closest
indented line so far. -/
def respacedFrom (indent : Option Piece) : Trivia → Trivia
  | [] => []
  | piece :: rest =>
    if piece.isNewline then
      match rest.head? with
      | some next =>
        if next.isSpaceOrTab then piece :: respacedFrom (some next) rest
        else if next.isNewline then piece :: respacedFrom indent rest
        else piece :: (indent.toList ++ respacedFrom indent rest)
      | none => piece :: indent.toList
    else piece :: respacedFrom indent rest

/-- Indents every line after a newline like the closest indented line above it, unless the line
already starts with whitespace. -/
def respaced (trivia : Trivia) : Trivia :=
  respacedFrom none trivia

end Trivia

end SyntaxForge
