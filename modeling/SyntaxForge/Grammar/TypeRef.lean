import SyntaxForge.Text.Affix

/-!
# Type references

A slot or the element of a collection is typed by a reference: a node kind, one kind of token
(written `<name>Token`), or any token at all (written `Token`).
-/

namespace SyntaxForge

/-- What may stand in a slot. -/
inductive TypeRef where
  | node (name : String)
  | token (name : String)
  | anyToken
  deriving DecidableEq, Repr

namespace TypeRef

/-- Reads a reference as it is written in a grammar. -/
def parse (text : String) : TypeRef :=
  if text = "Token" then .anyToken
  else
    match Text.stripEnd? "Token".toList text.toList with
    | some name => .token (String.ofList name)
    | none => .node text

/-- Writes a reference the way `parse` reads it. -/
def display : TypeRef → String
  | .node name => name
  | .token name => name ++ "Token"
  | .anyToken => "Token"

/-- Whether the reference is to a token. -/
def isToken : TypeRef → Bool
  | .node _ => false
  | .token _ | .anyToken => true

/-- The node kind referred to, if it is one. -/
def node? : TypeRef → Option String
  | .node name => some name
  | .token _ | .anyToken => none

end TypeRef

end SyntaxForge
