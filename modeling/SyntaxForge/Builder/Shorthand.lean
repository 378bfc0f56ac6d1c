import SyntaxForge.Builder.Conversion

/-!
# Shorthands for Swift

Names, literals and common shapes of the Swift grammar, written without spelling out their slots.
Shorthands that take a name check it.
-/

namespace SyntaxForge.Shorthand

/-- The node as an expression. -/
def asExpr (node : Node) : Node := .upcast "Expr" node

/-- The node as a statement. -/
def asStmt (node : Node) : Node := .upcast "Stmt" node

/-- The node as a declaration. -/
def asDecl (node : Node) : Node := .upcast "Decl" node

/-- The node as a type. -/
def asType (node : Node) : Node := .upcast "Type" node

/-- The node as a pattern. -/
def asPattern (node : Node) : Node := .upcast "Pattern" node

/-! ## Names -/

/-- An expression that is a name. -/
def nameExpr (name : Token) : Node :=
  asExpr (Node.make Builtin.identifierExpr [.token name])

/-- A type by its name. -/
def nameType (name : Token) : Node :=
  asType (Node.make Builtin.simpleTypeIdentifier [.token name])

/-- A pattern that is a name. -/
def namePattern (name : Token) : Node :=
  asPattern (Node.make Builtin.identifierPattern [.token name])

/-- A name as it stands in an expression: one that starts with a dollar sign is a dollar
identifier. -/
def exprName (text : String) : Except TokenError Token :=
  if text.toList.head? = some '$' then Token.dollarIdentifier text else Token.identifier text

/-- The expression of a name. -/
def expr (text : String) : Except TokenError Node := do
  return nameExpr (← exprName text)

/-- The type of a name. -/
def type (text : String) : Except TokenError Node := do
  return nameType (← Token.identifier text)

/-- The pattern of a name. -/
def pattern (text : String) : Except TokenError Node := do
  return namePattern (← Token.identifier text)

/-- A node that a token makes up on its own, as a modifier. -/
def modifier (token : Token) : Node :=
  Node.make Builtin.declModifier [.token token]

/-! ## Dotted paths -/

/-- The parts of a text between dots; there is always at least one. -/
def splitDots : List Char → List (List Char)
  | [] => [[]]
  | c :: rest =>
    if c = '.' then [] :: splitDots rest
    else
      match splitDots rest with
      | [] => [[c]]
      | part :: parts => (c :: part) :: parts

/-- The components of a path: every name but the last has a dot behind it. -/
def pathComponents : List Token → List Node
  | [] => []
  | [name] => [Node.make Builtin.accessPathComponent [.token name]]
  | name :: rest =>
    Node.make Builtin.accessPathComponent [.token name, .token (.ofKind Builtin.period)]
      :: pathComponents rest

/-- A dotted path of names. -/
def path (names : List Token) : Node :=
  .list (Builtin.declarations.listLayout Builtin.accessPath) (pathComponents names)

/-- The path that a text spells. -/
def accessPath (text : String) : Except TokenError Node := do
  let names ← (splitDots text.toList).mapM fun part => Token.identifier (String.ofList part)
  return path names

/-! ## Literals and operators -/

/-- The literal `true` or `false`. -/
def boolean (value : Bool) : Node :=
  let keyword := if value then Builtin.trueKeyword else Builtin.falseKeyword
  Node.make Builtin.booleanLiteralExpr [.token (.ofKind keyword)]

/-- An integer literal. -/
def integer (value : Int) : Node :=
  Node.make Builtin.integerLiteralExpr [.token (.integer value)]

/-- A string literal. -/
def string (text : String) : Node :=
  Node.make Builtin.stringLiteralExpr
    [.token (.ofKind Builtin.stringQuote), .token (.stringSegment text),
     .token (.ofKind Builtin.stringQuote)]

/-- A binary operator. -/
def operator (text : String) : Node :=
  Node.make Builtin.binaryOperatorExpr [.token (.operator text)]

/-! ## Common shapes -/

/-- A call with its arguments, a list, between parentheses. -/
def call (called arguments : Node) : Node :=
  Node.make Builtin.functionCallExpr
    [.node called, .token (.ofKind Builtin.leftParen), .node arguments,
     .token (.ofKind Builtin.rightParen)]

/-- A member of the value of an expression. -/
def access (base : Node) (name : Token) : Node :=
  Node.make Builtin.memberAccessExpr [.node base, .token (.ofKind Builtin.period), .token name]

/-- An argument with a label. -/
def labeled (label : Token) (value : Node) : Node :=
  Node.make Builtin.tupleExprElement [.token label, .token (.ofKind Builtin.colon), .node value]

/-- A parameter with a name and a type. -/
def parameter (name : Token) (type : Node) : Node :=
  Node.make Builtin.functionParameter
    [.token name, .none, .token (.ofKind Builtin.colon), .node type]

/-- An `if` with an `else` branch. -/
def withElse (statement body : Node) : Node :=
  (statement.set "ElseKeyword" (.token (.ofKind Builtin.elseKeyword))).set "ElseBody" (.node body)

end SyntaxForge.Shorthand
