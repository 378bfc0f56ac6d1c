import SyntaxForge.Code.TypeExpr

/-!
# Expressions in code

The expressions that generated code is made of.  An expression is laid out as the sequence of its
operands and operators (`Expr.operands`); most consist of a single operand.
-/

namespace SyntaxForge.Code

mutual

/-- An expression as it is written in code. -/
inductive Expr where
  | name (text : String)
  | nil
  /-- `base.name` -/
  | member (base : Expr) (name : String)
  /-- `.name`, a member of the type that the context gives. -/
  | implicitMember (name : String)
  /-- `base?`, the start of an optional chain. -/
  | chained (base : Expr)
  /-- `callee(arguments)` -/
  | call (callee : Expr) (arguments : Arguments)
  /-- `callee` followed by a closure, the body of which is one expression. -/
  | closureCall (callee : Expr) (body : Expr)
  | emptyArray
  /-- An array of one element. -/
  | arrayOf (element : Expr)
  /-- An expression between parentheses. -/
  | paren (inner : Expr)
  /-- `left operator right`, where the left side may be of this form itself. -/
  | binary (left : Expr) (operator : String) (right : Expr)

/-- The arguments of a call. -/
inductive Arguments where
  | nil
  | cons (label : Option String) (value : Expr) (rest : Arguments)

end

/-- The arguments of a call, from a list. -/
def Arguments.ofList : List (Option String × Expr) → Arguments
  | [] => .nil
  | (label, value) :: rest => .cons label value (ofList rest)

mutual

/-- The names in an expression, in the order in which they are checked: what is passed to a function
comes before the function. -/
def Expr.names : Expr → List NameUse
  | .name text => [.operand text]
  | .nil | .emptyArray => []
  | .member base name => base.names ++ [.declared name]
  | .implicitMember name => [.declared name]
  | .chained base => base.names
  | .call callee arguments => arguments.names ++ callee.names
  | .closureCall callee body => body.names ++ callee.names
  | .arrayOf element => element.names
  | .paren inner => inner.names
  | .binary left _ right => left.names ++ right.names

/-- The names in the arguments of a call; a value comes before its label. -/
def Arguments.names : Arguments → List NameUse
  | .nil => []
  | .cons label value rest =>
    value.names ++ (label.toList.map NameUse.declared) ++ rest.names

end

/-! ## Layout -/

/-- The layout of the arguments of a call. -/
def argumentLayout : ListLayout := Builtin.declarations.listLayout Builtin.tupleExprElementList

/-- The layout of the operands and operators of an expression. -/
def operandLayout : ListLayout := Builtin.declarations.listLayout Builtin.exprList

/-- The layout of the elements of an array. -/
def arrayLayout : ListLayout := Builtin.declarations.listLayout Builtin.arrayElementList

/-- The layout of the items of a block. -/
def itemLayout : ListLayout := Builtin.declarations.listLayout Builtin.codeBlockItemList

/-- A declaration, statement or expression as an item of a block. -/
def blockItem (content : Node) : Node :=
  Node.make Builtin.codeBlockItem [.node (.upcast rootName content)]

/-- The items of a block. -/
def blockItems (contents : List Node) : Node :=
  .list itemLayout (contents.map blockItem)

/-- Operands and operators as one expression; a single operand is that expression. -/
def sequence : List Node → Node
  | [operand] => operand
  | items =>
    Shorthand.asExpr (Node.make Builtin.sequenceExpr [.node (.list operandLayout items)])

/-- One argument without a label. -/
def unlabeled (value : Node) : Node :=
  Node.make Builtin.tupleExprElement [.none, .none, .node value]

/-- An array literal. -/
def arrayLiteral (elements : List Node) : Node :=
  Shorthand.asExpr (Node.make Builtin.arrayExpr
    [.token (.ofKind Builtin.leftSquareBracket),
     .node (.list arrayLayout (elements.map fun element =>
       Node.make Builtin.arrayElement [.node element])),
     .token (.ofKind Builtin.rightSquareBracket)])

/-- A closure, the body of which is one expression. -/
def closure (body : Node) : Node :=
  Node.make Builtin.closureExpr
    [.token (.ofKind Builtin.leftBrace), .node (blockItems [body]),
     .token (.ofKind Builtin.rightBrace)]

mutual

/-- The operands and operators of an expression, from left to right. -/
def Expr.operands : Expr → List Node
  | .name text => [Shorthand.nameExpr (operandToken text)]
  | .nil =>
    [Shorthand.asExpr (Node.make Builtin.nilLiteralExpr [.token (.ofKind Builtin.nilKeyword)])]
  | .member base name =>
    [Shorthand.asExpr (Shorthand.access (sequence base.operands) (Token.name name))]
  | .implicitMember name =>
    [Shorthand.asExpr (Node.make Builtin.memberAccessExpr
      [.none, .token (.ofKind Builtin.period), .token (Token.name name)])]
  | .chained base =>
    [Shorthand.asExpr (Node.make Builtin.optionalChainingExpr
      [.node (sequence base.operands), .token (.ofKind Builtin.postfixQuestionMark)])]
  | .call callee arguments =>
    [Shorthand.asExpr (Shorthand.call (sequence callee.operands)
      (.list argumentLayout arguments.nodes))]
  | .closureCall callee body =>
    [Shorthand.asExpr (Node.make Builtin.functionCallExpr
      [.node (sequence callee.operands), .none, .node (.list argumentLayout []), .none,
       .node (closure (sequence body.operands))])]
  | .emptyArray => [arrayLiteral []]
  | .arrayOf element => [arrayLiteral [sequence element.operands]]
  | .paren inner =>
    [Shorthand.asExpr (Node.make Builtin.tupleExpr
      [.token (.ofKind Builtin.leftParen),
       .node (.list argumentLayout [unlabeled (sequence inner.operands)]),
       .token (.ofKind Builtin.rightParen)])]
  | .binary left operator right =>
    left.operands ++ [Shorthand.asExpr (Shorthand.operator operator), sequence right.operands]

/-- The nodes of the arguments of a call. -/
def Arguments.nodes : Arguments → List Node
  | .nil => []
  | .cons (some label) value rest =>
    Shorthand.labeled (Token.name label) (sequence value.operands) :: rest.nodes
  | .cons none value rest => unlabeled (sequence value.operands) :: rest.nodes

end

/-- The node of an expression. -/
def Expr.node (expr : Expr) : Node := sequence expr.operands

end SyntaxForge.Code
