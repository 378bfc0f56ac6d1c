import SyntaxForge.Code.Expr

/-!
# Statements in code

The statements that make up the body of a generated function.
-/

namespace SyntaxForge.Code

/-- A statement as it is written in code. -/
inductive Statement where
  | ret (value : Expr)
  /-- A new constant. -/
  | bind (name : String) (value : Expr)
  | assign (target value : Expr)
  /-- An expression that is evaluated for its effect. -/
  | run (expr : Expr)
  /-- Returns `found` if the optional `value` is there, bound to a name, and `missing` if not. -/
  | returnBound (name : String) (value found missing : Expr)

/-- The names in a statement, in the order in which they are checked. -/
def Statement.names : Statement → List NameUse
  | .ret value => value.names
  | .bind name value => value.names ++ [.declared name]
  | .assign target value => value.names ++ target.names
  | .run expr => expr.names
  | .returnBound name value found missing =>
    .declared name :: value.names ++ found.names ++ missing.names

/-! ## Layout -/

/-- The layout of the bindings of a declaration. -/
def bindingLayout : ListLayout := Builtin.declarations.listLayout Builtin.patternBindingList

/-- The layout of the conditions of an `if`. -/
def conditionLayout : ListLayout := Builtin.declarations.listLayout Builtin.conditionElementList

/-- An equals sign and a value. -/
def initialValue (value : Expr) : Node :=
  Node.make Builtin.initializerClause [.token (.ofKind Builtin.equal), .node value.node]

/-- A constant, with its type, its value, or both. -/
def constantNode (name : String) (type : Option TypeExpr) (value : Option Expr) : Node :=
  let ascription : Content := match type with
    | some type =>
      .node (Node.make Builtin.typeAscription [.token (.ofKind Builtin.colon), .node type.node])
    | none => .none
  let initializer : Content := match value with
    | some value => .node (initialValue value)
    | none => .none
  let binding := Node.make Builtin.patternBinding
    [.node (Shorthand.namePattern (Token.name name)), ascription, initializer]
  Node.make Builtin.variableDecl
    [.none, .token (.ofKind Builtin.letKeyword), .node (.list bindingLayout [binding])]

/-- A statement that returns a value. -/
def returning (value : Expr) : Node :=
  Shorthand.asStmt
    (Node.make Builtin.returnStmt [.token (.ofKind Builtin.returnKeyword), .node value.node])

/-- Items between braces. -/
def block (contents : List Node) : Node :=
  Node.make Builtin.codeBlock
    [.token (.ofKind Builtin.leftBrace), .node (blockItems contents),
     .token (.ofKind Builtin.rightBrace)]

/-- The condition that an optional is there, with a name for its value. -/
def bindingCondition (name : String) (value : Expr) : Node :=
  let condition := Node.make Builtin.optionalBindingCondition
    [.token (.ofKind Builtin.letKeyword), .node (Shorthand.namePattern (Token.name name)), .none,
     .node (initialValue value)]
  Node.make Builtin.conditionElement [.node (.upcast rootName condition)]

/-- The node of a statement. -/
def Statement.node : Statement → Node
  | .ret value => returning value
  | .bind name value => Shorthand.asDecl (constantNode name none (some value))
  | .assign target value =>
    let equals := Shorthand.asExpr
      (Node.make Builtin.assignmentExpr [.token (.ofKind Builtin.equal)])
    sequence [target.node, equals, value.node]
  | .run expr => expr.node
  | .returnBound name value found missing =>
    Shorthand.asStmt (Shorthand.withElse
      (Node.make Builtin.ifStmt
        [.token (.ofKind Builtin.ifKeyword),
         .node (.list conditionLayout [bindingCondition name value]),
         .node (block [returning found])])
      (block [returning missing]))

end SyntaxForge.Code
