import SyntaxForge.Text.Case

/-!
# Token kinds

A token kind is a keyword, a punctuation mark, a literal or a piece of trivia.  Keywords and
punctuation have a fixed text; every kind says which spaces it usually carries around itself.
-/

namespace SyntaxForge

/-- The spaces a token carries around itself unless it is given other trivia. -/
inductive Spacing where
  | none
  | leading
  | trailing
  | both
  deriving DecidableEq, Repr

namespace Spacing

/-- Whether a space stands in front of the token. -/
def hasLeading : Spacing → Bool
  | .leading | .both => true
  | .none | .trailing => false

/-- Whether a space stands behind the token. -/
def hasTrailing : Spacing → Bool
  | .trailing | .both => true
  | .none | .leading => false

end Spacing

/-- What a token is. -/
inductive TokenClass where
  | keyword
  | punctuation
  | literal
  | trivia
  deriving DecidableEq, Repr

/-- A kind of token, as a grammar declares it. -/
structure TokenKind where
  /-- Pascal case name; slots refer to it as `<name>Token`. -/
  name : String
  /-- The fixed text, if every token of the kind reads the same. -/
  text : Option String
  spacing : Spacing
  tokenClass : TokenClass
  deriving DecidableEq, Repr

namespace TokenKind

/-- The name the kind goes by in trees: `STRUCT_KW`, `LEFT_BRACE`. -/
def kindName (kind : TokenKind) : String :=
  match kind.tokenClass with
  | .keyword => Text.upperSnake kind.name ++ "_KW"
  | _ => Text.upperSnake kind.name

/-- A keyword is named after its text: `Struct` is `struct`. -/
def keyword (text : String) (spacing : Spacing) : TokenKind where
  name := Text.capitalized text
  text := some text
  spacing := spacing
  tokenClass := .keyword

/-- A punctuation mark. -/
def punctuation (name text : String) (spacing : Spacing) : TokenKind where
  name := name
  text := some text
  spacing := spacing
  tokenClass := .punctuation

/-- A literal, whose text differs from token to token. -/
def literal (name : String) (spacing : Spacing) : TokenKind where
  name := name
  text := Option.none
  spacing := spacing
  tokenClass := .literal

/-- Whitespace or a comment. -/
def trivia (name : String) : TokenKind where
  name := name
  text := Option.none
  spacing := .none
  tokenClass := .trivia

end TokenKind

end SyntaxForge
