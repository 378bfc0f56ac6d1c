import SyntaxForge.Code.Name

/-!
# Types in code

A type is a name, an optional type, or an array type.
-/

namespace SyntaxForge.Code

/-- A type as it is written in code. -/
inductive TypeExpr where
  | named (name : String)
  | optional (wrapped : TypeExpr)
  | array (element : TypeExpr)
  deriving DecidableEq, Repr

namespace TypeExpr

/-- The type that a text spells, given from its end. -/
def ofReversed : List Char → TypeExpr
  | '?' :: rest => .optional (ofReversed rest)
  | text => .named (String.ofList text.reverse)

/-- The type that a text spells: every question mark at the end makes it optional once. -/
def ofText (text : String) : TypeExpr := ofReversed text.toList.reverse

/-- The names in a type. -/
def names : TypeExpr → List NameUse
  | .named name => [.declared name]
  | .optional wrapped => wrapped.names
  | .array element => element.names

/-- The node of a type. -/
def node : TypeExpr → Node
  | .named name => Shorthand.nameType (Token.name name)
  | .optional wrapped =>
    Shorthand.asType (Node.make Builtin.optionalType
      [.node wrapped.node, .token (.ofKind Builtin.postfixQuestionMark)])
  | .array element =>
    Shorthand.asType (Node.make Builtin.arrayType
      [.token (.ofKind Builtin.leftSquareBracket), .node element.node,
       .token (.ofKind Builtin.rightSquareBracket)])

end TypeExpr

end SyntaxForge.Code
