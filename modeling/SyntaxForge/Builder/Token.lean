import SyntaxForge.Builder.Identifier
import SyntaxForge.Grammar.Builtin
import SyntaxForge.Tree.Basic

/-!
# Tokens

A token has a kind, a text, and trivia on both sides.  It starts out with the spaces that its kind
usually carries.  Making a token can fail: an identifier has to be one, and only some kinds have a
fixed text.
-/

namespace SyntaxForge

/-- A reason why a token cannot be made. -/
inductive TokenError where
  | notIdentifier (text : String)
  | notDollarIdentifier (text : String)
  | noFixedText (kind : Kind)
  deriving DecidableEq, Repr

/-- The wording of an error. -/
def TokenError.message : TokenError → String
  | .notIdentifier text => s!"`{text}` is not a valid identifier"
  | .notDollarIdentifier text => s!"`{text}` is not a valid dollar identifier"
  | .noFixedText kind => kind.name ++ " has no fixed text"

/-- A token and the trivia around it. -/
structure Token where
  kind : Kind
  text : String
  leading : Trivia
  trailing : Trivia
  deriving DecidableEq, Repr

namespace Token

/-- A token of a kind, with the spaces that the kind carries. -/
def withText (kind : Kind) (text : String) : Token where
  kind := kind
  text := text
  leading := if kind.spacing.hasLeading then Trivia.spaces 1 else []
  trailing := if kind.spacing.hasTrailing then Trivia.spaces 1 else []

/-- The keyword or punctuation mark of a token kind. -/
def ofKind (kind : TokenKind) : Token :=
  withText (.ofTokenKind kind) (kind.text.getD "")

/-- The keyword or punctuation mark of a kind. -/
def fixed (kind : Kind) : Except TokenError Token :=
  match kind.text? with
  | some text => .ok (withText kind text)
  | none => .error (.noFixedText kind)

/-- A name, which is not checked. -/
def name (text : String) : Token :=
  withText (.token Builtin.identifier) text

/-- A dollar name, which is not checked. -/
def dollarName (text : String) : Token :=
  withText (.token Builtin.dollarIdentifier) text

/-- An identifier. -/
def identifier (text : String) : Except TokenError Token :=
  if Identifier.isIdentifier text.toList then .ok (name text) else .error (.notIdentifier text)

/-- An identifier such as `$0`. -/
def dollarIdentifier (text : String) : Except TokenError Token :=
  if Identifier.isDollar text.toList then .ok (dollarName text)
  else .error (.notDollarIdentifier text)

/-- A whole number. -/
def integer (value : Int) : Token :=
  withText (.token Builtin.integerLiteral) (toString value)

/-- The text between two string quotes. -/
def stringSegment (text : String) : Token :=
  withText (.token Builtin.stringSegment) text

/-- A binary operator with a space on each side. -/
def operator (text : String) : Token :=
  withText (.token Builtin.spacedBinaryOperator) text

/-- The token between its trivia.  Trivia that is supplied replaces the leading trivia. -/
def elements (token : Token) (supplied : Option Trivia) : List Element :=
  (supplied.getD token.leading).toElements ++ [.token token.kind token.text]
    ++ token.trailing.toElements

end Token

end SyntaxForge
