import SyntaxForge.Generate.Phrase

/-!
# Structs of concrete kinds

The struct of a concrete kind stores its leading trivia and the content of every slot.  Its
initializer takes anything that the contents can be created from, and it builds the tree of the
node and of its base.
-/

namespace SyntaxForge.Generate

open Code

/-- A slot with its label and its type. -/
structure SlotView where
  slot : Slot
  label : String
  type : SwiftType

namespace SlotView

/-- The view of a slot. -/
def ofSlot (grammar : Grammar) (slot : Slot) : SlotView where
  slot := slot
  label := Text.lowerCamel slot.name
  type := (SwiftType.ofReference grammar slot.type).optional slot.isOptional

/-- A member of the content of a slot; there is none of an empty slot. -/
def member (view : SlotView) (name : String) : Expr :=
  let content : Expr := .name view.label
  .member (if view.slot.isOptional then .chained content else content) name

/-- The constant that stores the content. -/
def property (view : SlotView) : Member :=
  .constant view.label (.ofText view.type.buildable)

/-- The member that stands for a token kind. -/
def tokenMember (token : TokenKind) : String :=
  match token.tokenClass with
  | .keyword => Text.lowerCamel token.name ++ "Keyword"
  | .punctuation | .literal | .trivia => Text.lowerCamel token.name

/-- What fills the slot if the caller leaves it out. -/
def fallback (grammar : Grammar) (view : SlotView) : Option Expr :=
  if view.slot.isOptional then some .nil
  else
    (grammar.fixedToken? view.slot.type).map fun token =>
      .member (.name "TokenSyntax") (tokenMember token)

/-- The parameter for the content. -/
def parameter (grammar : Grammar) (view : SlotView) : Parameter where
  label := .name view.label
  type := .ofText view.type.parameterName
  fallback := view.fallback grammar

/-- The content that an argument for the slot is turned into. -/
def created (view : SlotView) : Expr :=
  match view.type.flavor with
  | .token true => view.member "token"
  | .token false => .name view.label
  | .root | .base | .node => callEmpty (view.member view.type.createMethod)

/-- Stores the content. -/
def assignment (view : SlotView) : Statement :=
  .assign (.member selfExpr view.label) view.created

/-- The trivia that a token in the slot is given. -/
def leadingTrivia (view : SlotView) : Option Expr :=
  if view.slot.onNewLine then some newLineTrivia
  else if view.slot.isSpaced then some (.implicitMember "space")
  else none

/-- The built content of the slot. -/
def built (view : SlotView) : Expr :=
  if view.type.isToken then
    match view.leadingTrivia with
    | some trivia => callWith (view.member "withLeadingTrivia") trivia
    | none => .name view.label
  else
    let format : Expr :=
      if view.slot.isIndented then callEmpty (.member (.name "format") "_indented")
      else .name "format"
    .call (view.member view.type.buildMethod) (.ofList
      ((some "format", format)
        :: if view.slot.onNewLine then [(some "leadingTrivia", newLineTrivia)] else []))

end SlotView

/-- The leading trivia of a struct is stored under this name. -/
def triviaProperty : Member := .constant "leadingTrivia" (.ofText "Trivia")

/-- The parameter for the leading trivia. -/
def triviaParameter : Parameter where
  label := .name "leadingTrivia"
  type := .ofText "Trivia"
  fallback := some .emptyArray

/-- Stores the leading trivia. -/
def triviaAssignment : Statement :=
  .assign (.member selfExpr "leadingTrivia") (.name "leadingTrivia")

/-- The initializer of a struct. -/
def memberwiseInitializer (grammar : Grammar) (kind : NodeKind) (views : List SlotView) :
    Initializer where
  docs := [s!"/// Creates a `{kind.name}` using the provided parameters."]
  parameters := triviaParameter :: views.map (SlotView.parameter grammar)
  body := triviaAssignment :: views.map SlotView.assignment

/-- The function that builds the tree of a node. -/
def buildFunction (type : SwiftType) (views : List SlotView) : Function where
  docs := [s!"/// Builds a `{type.treeName}`."]
  isPublic := true
  name := type.buildMethod
  parameters := formatParameters true
  returns := .named type.treeName
  body := some
    [.bind "result" (.call (.member (.name "SyntaxFactory") ("make" ++ type.baseName))
       (.ofList (views.map fun view => (some view.label, view.built)))),
     .bind "combinedLeadingTrivia"
       (.binary
         (.binary (orEmpty (.name "leadingTrivia")) "+" (.member selfExpr "leadingTrivia"))
         "+" (orEmpty (.member (.name "result") "leadingTrivia"))),
     .ret (callWith (.member (.name "result") "withLeadingTrivia")
       (callEmpty (.member (.name "combinedLeadingTrivia") "addingSpacingAfterNewlinesIfNeeded")))]

/-- The function that builds a node as a value of its base. -/
def buildBaseFunction (type base : SwiftType) : Function where
  docs := [conformanceDoc base.buildable]
  isPublic := true
  name := base.buildMethod
  parameters := formatParameters true
  returns := .named base.treeName
  body := some [.ret (callWith (.name base.treeName) (callWithFormat type.buildMethod))]

/-- The function that turns a node into itself. -/
def createFunction (type : SwiftType) (doc : String) : Function :=
  { returningFunction type.createMethod type.buildable selfExpr with
    docs := [doc]
    isPublic := true }

/-- The comment of a kind. -/
def kindDocs (kind : NodeKind) : List String :=
  if kind.doc.isEmpty then [] else ["/// " ++ kind.doc]

/-- The functions of the struct of a concrete kind.  A base other than the root gives the function
that creates a value of it a default, and so does the protocol of the kind, so that the struct has
its own. -/
def nodeFunctions (type base : SwiftType) (views : List SlotView) : List Function :=
  [buildFunction type views, buildBaseFunction type base,
   createFunction type (conformanceDoc type.expressibleAs)]
    ++ (if base.isRoot then [] else [fixedCreate type.buildable base.buildable base.createMethod])
    ++ [fixedRootCreate type.buildable]

/-- The views of the slots of a kind. -/
def slotViews (grammar : Grammar) (kind : NodeKind) : List SlotView :=
  kind.slots.map (SlotView.ofSlot grammar)

/-- The type of the base of a kind. -/
def baseType (grammar : Grammar) (kind : NodeKind) : SwiftType :=
  SwiftType.ofName grammar (kind.base.getD rootName)

/-- The struct of a concrete kind. -/
def nodeStruct (grammar : Grammar) (kind : NodeKind) : Decl :=
  let type := SwiftType.ofKind kind
  let base := baseType grammar kind
  let views := slotViews grammar kind
  { docs := kindDocs kind
    form := .struct
    name := kind.name
    inherits := [.ofText base.buildable, .ofText type.expressibleAs]
    members := triviaProperty :: views.map SlotView.property
      ++ .initializer (memberwiseInitializer grammar kind views)
      :: (nodeFunctions type base views).map Member.function }

/-- The names in the struct of a concrete kind.  The parameter of a slot is checked together with
the statement that stores it. -/
def nodeStructNames (grammar : Grammar) (kind : NodeKind) : List NameUse :=
  let views := slotViews grammar kind
  (triviaProperty :: views.map SlotView.property).flatMap Member.names
    ++ triviaParameter.names ++ triviaAssignment.names
    ++ views.flatMap (fun view => (view.parameter grammar).names ++ view.assignment.names)
    ++ (nodeFunctions (.ofKind kind) (baseType grammar kind) views).flatMap Function.names
    ++ (nodeStruct grammar kind).headNames

/-- The structs of all concrete kinds. -/
def nodeStructs (grammar : Grammar) : List Draft :=
  grammar.concreteKinds.map fun kind =>
    { decl := nodeStruct grammar kind, names := nodeStructNames grammar kind }

end SyntaxForge.Generate
