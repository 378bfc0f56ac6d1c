import SyntaxForge.Grammar.Basic

/-!
# Names of the generated types

Generated Swift code sees a node kind, or a token, as a type that goes by several names: the tree
that is built, the struct or protocol that builds it, and the protocol of everything that can be
turned into it.  `Grammar.checkNames` makes sure that no two kinds claim the same name.
-/

namespace SyntaxForge

/-- What a generated type stands for. -/
inductive Flavor where
  | root
  | base
  | node
  | token (isIdentifier : Bool)
  deriving DecidableEq, Repr

/-- A node kind or token as generated code sees it. -/
structure SwiftType where
  name : String
  flavor : Flavor
  isOptional : Bool := false
  deriving DecidableEq, Repr

namespace SwiftType

/-- The type of a node kind. -/
def ofKind (kind : NodeKind) : SwiftType where
  name := kind.name
  flavor := if kind.isRoot then .root else if kind.isBase then .base else .node

/-- The type of a node kind given by its name. -/
def ofName (grammar : Grammar) (name : String) : SwiftType :=
  match grammar.kind? name with
  | some kind => ofKind kind
  | none => { name, flavor := .node }

/-- The type that a reference is to. -/
def ofReference (grammar : Grammar) : TypeRef → SwiftType
  | .node name => ofName grammar name
  | .token name => { name, flavor := .token (name = "Identifier") }
  | .anyToken => { name := "Token", flavor := .token false }

/-- The type, optional or not. -/
def optional (type : SwiftType) (isOptional : Bool) : SwiftType :=
  { type with isOptional }

/-- Whether the type is that of a token. -/
def isToken (type : SwiftType) : Bool :=
  match type.flavor with
  | .token _ => true
  | .root | .base | .node => false

/-- Whether the type is that of the root. -/
def isRoot (type : SwiftType) : Bool := type.flavor = .root

/-- The question mark of an optional type. -/
def mark (type : SwiftType) : String := if type.isOptional then "?" else ""

/-- The name that functions which build or make the type are called after. -/
def baseName (type : SwiftType) : String :=
  match type.flavor with
  | .token _ => "Token"
  | .root | .base | .node => type.name

/-- The type of the tree that is built: `EnumDeclSyntax`. -/
def treeName (type : SwiftType) : String :=
  match type.flavor with
  | .root => "Syntax" ++ type.mark
  | .token _ => "TokenSyntax" ++ type.mark
  | .base | .node => type.name ++ "Syntax" ++ type.mark

/-- The type that builds it, optional or not. -/
def buildableBaseName (type : SwiftType) : String :=
  match type.flavor with
  | .root | .base => type.name ++ "Buildable"
  | .token _ => "TokenSyntax"
  | .node => type.name

/-- The struct or protocol that builds the type. -/
def buildable (type : SwiftType) : String := type.buildableBaseName ++ type.mark

/-- The protocol of all values that can be turned into the type.  Nothing but a token can be turned
into a token. -/
def expressibleAs (type : SwiftType) : String :=
  if type.isToken then type.buildable
  else "ExpressibleAs" ++ type.buildableBaseName ++ type.mark

/-- The protocol of all values that build a list of the type. -/
def listBuildable (type : SwiftType) : String := type.baseName ++ "ListBuildable"

/-- The type of a parameter that takes a value of the type. -/
def parameterName (type : SwiftType) : String :=
  match type.flavor with
  | .token true => "IdentifierToken" ++ type.mark
  | .root | .base | .node | .token false => type.expressibleAs

/-- The function that turns a value into the type. -/
def createMethod (type : SwiftType) : String := "create" ++ type.buildableBaseName

/-- The function that builds the type. -/
def buildMethod (type : SwiftType) : String := "build" ++ type.baseName

/-- The names that a kind claims for itself. -/
def claimedNames (type : SwiftType) : List String :=
  [type.buildable, type.expressibleAs, type.listBuildable]

end SwiftType

/-! ## Collisions -/

/-- Two kinds that claim the same name. -/
structure NameCollision where
  name : String
  /-- The kind that claims the name second. -/
  kind : String
  /-- The kind that claimed it first. -/
  other : String
  deriving DecidableEq, Repr

/-- The wording of a collision. -/
def NameCollision.message (collision : NameCollision) : String :=
  s!"`{collision.kind}` and `{collision.other}` both generate the Swift type `{collision.name}`"

namespace Grammar

/-- The kinds that generate types: all but the base of collections. -/
def generatingKinds (grammar : Grammar) : List NodeKind :=
  grammar.kinds.filter (·.name ≠ collectionBaseName)

/-- Every name that is claimed, with the kind that claims it, in declaration order. -/
def nameClaims (grammar : Grammar) : List (String × String) :=
  grammar.generatingKinds.flatMap fun kind =>
    (SwiftType.ofKind kind).claimedNames.map fun name => (name, kind.name)

/-- The first claim on a name that another kind has `claimed` already. -/
def firstCollision (claimed : List (String × String)) :
    List (String × String) → Option NameCollision
  | [] => none
  | (name, kind) :: rest =>
    match claimed.lookup name with
    | some other =>
      if other = kind then firstCollision claimed rest else some { name, kind, other }
    | none => firstCollision ((name, kind) :: claimed) rest

/-- No two kinds claim the same name. -/
def checkNames (grammar : Grammar) : Except NameCollision Unit :=
  match firstCollision [] grammar.nameClaims with
  | some collision => .error collision
  | none => .ok ()

end Grammar

end SyntaxForge
