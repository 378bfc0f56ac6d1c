import SyntaxForge.Generate.NodeStruct

/-!
# Structs of collections

The struct of a collection stores its elements.  A plain array of elements stands in for some
collections: for the first without conformances of its own of each element type, so that an array
has at most one collection to stand in for.
-/

namespace SyntaxForge.Generate

open Code

/-- The first collection of each element type that is not `seen` yet. -/
def firstOfElement (seen : List TypeRef) : List NodeKind → List NodeKind
  | [] => []
  | kind :: rest =>
    match kind.element? with
    | some element =>
      if element ∈ seen then firstOfElement seen rest
      else kind :: firstOfElement (element :: seen) rest
    | none => firstOfElement seen rest

/-- The collections that a plain array stands in for. -/
def arrayCollections (grammar : Grammar) : List NodeKind :=
  firstOfElement []
    (grammar.collectionKinds.filter fun kind => (grammar.conformances kind.name).isEmpty)

/-- The elements that the arguments of the initializer are turned into. -/
def createdElements (element : SwiftType) : Expr :=
  if element.isToken then .name "elements"
  else mapped "elements" "map" (callEmpty (.member (.name "$0") element.createMethod))

/-- The initializer from a list of elements. -/
def elementsInitializer (kind : NodeKind) (element : SwiftType) : Initializer where
  docs :=
    [s!"/// Creates a `{kind.name}` with the provided list of elements.",
     "/// - Parameters:",
     s!"///   - elements: A list of `{element.expressibleAs}`"]
  parameters :=
    [{ label := .wildcard
       innerName := some "elements"
       type := .array (.ofText element.expressibleAs) }]
  body := [.assign (.member selfExpr "elements") (createdElements element)]

/-- The initializer that joins several collections. -/
def combiningInitializer (kind : NodeKind) (type : SwiftType) : Initializer where
  docs := [s!"/// Creates a new `{kind.name}` by flattening the elements in `lists`"]
  parameters :=
    [{ label := .name "combining"
       innerName := some "lists"
       type := .array (.ofText type.expressibleAs) }]
  body :=
    [.assign (.name "elements")
      (mapped "lists" "flatMap"
        (.member (callEmpty (.member (.name "$0") type.createMethod)) "elements"))]

/-- The initializer from an array literal. -/
def literalInitializer (element : SwiftType) : Initializer where
  parameters :=
    [{ label := .name "arrayLiteral"
       innerName := some "elements"
       type := .ofText element.expressibleAs
       isVariadic := true }]
  body := [.run (callWith (.member selfExpr "init") (.name "elements"))]

/-- The constant that stores the elements. -/
def elementsProperty (element : SwiftType) : Member :=
  .constant "elements" (.array (.ofText element.buildable))

/-- The built elements of a collection. -/
def builtElements (kind : NodeKind) (element : SwiftType) : Expr :=
  if element.isToken then .name "elements"
  else
    mapped "elements" "map"
      (.call (.member (.name "$0") element.buildMethod) (.ofList
        [(some "format", .name "format"),
         (some "leadingTrivia", if kind.onNewLines then newLineTrivia else .nil)]))

/-- The function that builds the tree of a collection.  The trivia that is supplied goes in front of
that of the first element; the collection itself has none. -/
def buildCollection (kind : NodeKind) (type element : SwiftType) : Function where
  isPublic := true
  name := type.buildMethod
  parameters := formatParameters true
  returns := .named type.treeName
  body := some
    [.bind "result" (callWith (.member (.name "SyntaxFactory") ("make" ++ type.baseName))
       (builtElements kind element)),
     .returnBound "leadingTrivia" (.name "leadingTrivia")
       (callWith (.member (.name "result") "withLeadingTrivia")
         (callEmpty (.member
           (.paren (.binary (.name "leadingTrivia") "+"
             (orEmpty (.member (.name "result") "leadingTrivia"))))
           "addingSpacingAfterNewlinesIfNeeded")))
       (.name "result")]

/-- The function that builds a collection as a value of the root. -/
def buildCollectionRoot (type : SwiftType) : Function where
  isPublic := true
  name := rootType.buildMethod
  parameters := formatParameters true
  returns := .named rootType.treeName
  body := some [.ret (callWith (.name rootType.treeName) (callWithFormat type.buildMethod))]

/-- The functions of the struct of a collection. -/
def collectionFunctions (kind : NodeKind) (element : SwiftType) : List Function :=
  let type := SwiftType.ofKind kind
  [buildCollection kind type element, buildCollectionRoot type,
   createFunction type s!"/// Conformance to `{type.expressibleAs}`",
   fixedRootCreate type.buildable]

/-- The struct of a collection. -/
def collectionStruct (kind : NodeKind) (element : SwiftType) : Decl :=
  let type := SwiftType.ofKind kind
  { docs := kindDocs kind
    form := .struct
    name := kind.name
    inherits :=
      [.ofText "ExpressibleByArrayLiteral", .ofText rootType.buildable,
       .ofText type.expressibleAs]
    members :=
      [elementsProperty element, .initializer (elementsInitializer kind element),
       .initializer (combiningInitializer kind type), .initializer (literalInitializer element)]
        ++ (collectionFunctions kind element).map Member.function }

/-- The names in the struct of a collection.  The initializers are checked first, and what turns the
elements into what is stored before all else. -/
def collectionStructNames (kind : NodeKind) (element : SwiftType) : List NameUse :=
  let fromElements := elementsInitializer kind element
  fromElements.body.flatMap Statement.names ++ fromElements.parameters.flatMap Parameter.names
    ++ (combiningInitializer kind (.ofKind kind)).names ++ (literalInitializer element).names
    ++ (elementsProperty element).names
    ++ (collectionFunctions kind element).flatMap Function.names
    ++ (collectionStruct kind element).headNames

/-- The extension that lets a plain array stand in for a collection. -/
def arrayExtension (kind : NodeKind) (element : SwiftType) : Decl :=
  let type := SwiftType.ofKind kind
  { isPublic := false
    form := .extend
    name := "Array"
    inherits := [.ofText type.expressibleAs]
    requirement := some { parameter := "Element", type := .ofText element.expressibleAs }
    members :=
      [.function
        { returningFunction type.createMethod type.buildable
            (callWith (.name type.buildable) selfExpr) with
          isPublic := true }] }

/-- The declarations of a collection. -/
def collectionDrafts (grammar : Grammar) (kind : NodeKind) : List Draft :=
  match kind.element? with
  | none => []
  | some reference =>
    let element := SwiftType.ofReference grammar reference
    { decl := collectionStruct kind element, names := collectionStructNames kind element }
      :: if kind ∈ arrayCollections grammar then [{ decl := arrayExtension kind element }] else []

/-- The declarations of all collections. -/
def collectionStructs (grammar : Grammar) : List Draft :=
  grammar.collectionKinds.flatMap (collectionDrafts grammar)

end SyntaxForge.Generate
