import SyntaxForge.Code.Statement

/-!
# Declarations in code

Functions, initializers and constants are the members of protocols, structs and extensions.
`Decl.node` lays a declaration out; `Decl.names` lists the names that it spells.
-/

namespace SyntaxForge.Code

/-- The name that a caller writes in front of an argument. -/
inductive Label where
  | wildcard
  | name (text : String)
  deriving DecidableEq, Repr

/-- A parameter of a function. -/
structure Parameter where
  label : Label
  /-- The name inside the function, where it is not the label. -/
  innerName : Option String := none
  type : TypeExpr
  isVariadic : Bool := false
  /-- The value that is taken when the caller gives none. -/
  fallback : Option Expr := none

/-- A function, or the requirement of one if it has no body. -/
structure Function where
  docs : List String := []
  isPublic : Bool := false
  name : String
  parameters : List Parameter := []
  returns : TypeExpr
  body : Option (List Statement) := none

/-- An initializer. -/
structure Initializer where
  docs : List String := []
  parameters : List Parameter
  body : List Statement

/-- A member of a protocol, struct or extension. -/
inductive Member where
  | constant (name : String) (type : TypeExpr)
  | function (function : Function)
  | initializer (initializer : Initializer)

/-- The form of a declaration. -/
inductive DeclForm where
  | protocol
  | struct
  | extend
  deriving DecidableEq, Repr

/-- A requirement that a type parameter is a given type. -/
structure SameType where
  parameter : String
  type : TypeExpr
  deriving DecidableEq, Repr

/-- A protocol, struct or extension. -/
structure Decl where
  docs : List String := []
  isPublic : Bool := true
  form : DeclForm
  /-- The name that is declared or extended. -/
  name : String
  inherits : List TypeExpr
  requirement : Option SameType := none
  members : List Member

/-! ## Names

Names are listed in the order in which they are checked: first what a declaration holds, then its
own name. -/

/-- The names in a parameter. -/
def Parameter.names (parameter : Parameter) : List NameUse :=
  let label := match parameter.label with
    | .wildcard => []
    | .name text => [.declared text]
  parameter.type.names ++ label ++ parameter.innerName.toList.map NameUse.declared
    ++ parameter.fallback.toList.flatMap Expr.names

/-- The names in a function. -/
def Function.names (function : Function) : List NameUse :=
  (function.body.getD []).flatMap Statement.names ++ function.parameters.flatMap Parameter.names
    ++ function.returns.names ++ [.declared function.name]

/-- The names in an initializer. -/
def Initializer.names (initializer : Initializer) : List NameUse :=
  initializer.parameters.flatMap Parameter.names ++ initializer.body.flatMap Statement.names

/-- The names in a member. -/
def Member.names : Member → List NameUse
  | .constant name type => type.names ++ [.declared name]
  | .function member => member.names
  | .initializer member => member.names

/-- The names around the members of a declaration. -/
def Decl.headNames (decl : Decl) : List NameUse :=
  .declared decl.name :: decl.inherits.flatMap TypeExpr.names
    ++ decl.requirement.toList.flatMap fun same => .declared same.parameter :: same.type.names

/-- The names in a declaration. -/
def Decl.names (decl : Decl) : List NameUse :=
  decl.members.flatMap Member.names ++ decl.headNames

/-! ## Layout -/

/-- Comments on lines of their own. -/
def docTrivia (docs : List String) : Trivia :=
  docs.flatMap fun line => .docLineComment line :: Trivia.newline

/-- The layout of a list of modifiers. -/
def modifierLayout : ListLayout := Builtin.declarations.listLayout Builtin.modifierList

/-- The layout of the parameters of a function. -/
def parameterLayout : ListLayout := Builtin.declarations.listLayout Builtin.functionParameterList

/-- The layout of the members of a declaration. -/
def memberLayout : ListLayout := Builtin.declarations.listLayout Builtin.memberDeclList

/-- The layout of the types that a declaration inherits from. -/
def inheritedLayout : ListLayout := Builtin.declarations.listLayout Builtin.inheritedTypeList

/-- The layout of the requirements of a declaration. -/
def requirementLayout : ListLayout :=
  Builtin.declarations.listLayout Builtin.genericRequirementList

/-- The modifiers of a declaration. -/
def modifiers (isPublic : Bool) : Content :=
  if isPublic then
    .node (.list modifierLayout [Shorthand.modifier (.ofKind Builtin.publicKeyword)])
  else .none

/-- The token of a label. -/
def Label.token : Label → Token
  | .wildcard => .ofKind Builtin.wildcard
  | .name text => Token.name text

/-- The node of a parameter. -/
def Parameter.node (parameter : Parameter) : Node :=
  let innerName : Content := match parameter.innerName with
    | some name => .token (Token.name name)
    | none => .none
  let fallback : Content := match parameter.fallback with
    | some value => .node (initialValue value)
    | none => .none
  Node.make Builtin.functionParameter
    [.token parameter.label.token, innerName, .token (.ofKind Builtin.colon),
     .node parameter.type.node,
     if parameter.isVariadic then .token (.ofKind Builtin.ellipsis) else .none, fallback]

/-- Parameters between parentheses, and a return type. -/
def signature (parameters : List Parameter) (returns : Option TypeExpr) : Node :=
  let output : Content := match returns with
    | some type =>
      .node (Node.make Builtin.returnClause [.token (.ofKind Builtin.arrow), .node type.node])
    | none => .none
  Node.make Builtin.functionSignature
    [.node (Node.make Builtin.parameterClause
      [.token (.ofKind Builtin.leftParen),
       .node (.list parameterLayout (parameters.map Parameter.node)),
       .token (.ofKind Builtin.rightParen)]),
     output]

/-- The node of a function. -/
def Function.node (function : Function) : Node :=
  let body : Content := match function.body with
    | some statements => .node (block (statements.map Statement.node))
    | none => .none
  (Node.make Builtin.functionDecl
    [modifiers function.isPublic, .token (.ofKind Builtin.funcKeyword),
     .token (Token.name function.name),
     .node (signature function.parameters (some function.returns)), body]).withOwn
    (docTrivia function.docs)

/-- The node of an initializer. -/
def Initializer.node (initializer : Initializer) : Node :=
  (Node.make Builtin.initializerDecl
    [modifiers true, .token (.ofKind Builtin.initKeyword),
     .node (signature initializer.parameters none),
     .node (block (initializer.body.map Statement.node))]).withOwn (docTrivia initializer.docs)

/-- The node of a member. -/
def Member.node (member : Member) : Node :=
  let decl := match member with
    | .constant name type => constantNode name (some type) none
    | .function declared => declared.node
    | .initializer declared => declared.node
  Node.make Builtin.memberDeclListItem [.node (Shorthand.asDecl decl)]

/-- The clause of the types that a declaration inherits from. -/
def inheritance (types : List TypeExpr) : Content :=
  if types.isEmpty then .none
  else
    .node (Node.make Builtin.typeInheritanceClause
      [.token (.ofKind Builtin.colon),
       .node (.list inheritedLayout
         (types.map fun type => Node.make Builtin.inheritedType [.node type.node]))])

/-- The `where` clause of a requirement. -/
def SameType.node (same : SameType) : Node :=
  let requirement := Node.make Builtin.sameTypeRequirement
    [.node (TypeExpr.named same.parameter).node, .token (.operator "=="), .node same.type.node]
  Node.make Builtin.genericWhereClause
    [.token (.ofKind Builtin.whereKeyword),
     .node (.list requirementLayout
       [Node.make Builtin.genericRequirement [.node (.upcast rootName requirement)]])]

/-- The members of a declaration between braces. -/
def memberBlock (members : List Member) : Node :=
  Node.make Builtin.memberDeclBlock
    [.token (.ofKind Builtin.leftBrace), .node (.list memberLayout (members.map Member.node)),
     .token (.ofKind Builtin.rightBrace)]

/-- The node of a declaration. -/
def Decl.node (decl : Decl) : Node :=
  let (kind, keyword, name) : NodeKind × TokenKind × Content := match decl.form with
    | .protocol =>
      (Builtin.protocolDecl, Builtin.protocolKeyword, .token (Token.name decl.name))
    | .struct => (Builtin.structDecl, Builtin.structKeyword, .token (Token.name decl.name))
    | .extend =>
      (Builtin.extensionDecl, Builtin.extensionKeyword, .node (TypeExpr.named decl.name).node)
  let requirement : Content := match decl.requirement with
    | some same => .node same.node
    | none => .none
  (Node.make kind
    [modifiers decl.isPublic, .token (.ofKind keyword), name, inheritance decl.inherits,
     requirement, .node (memberBlock decl.members)]).withOwn (docTrivia decl.docs)

end SyntaxForge.Code
