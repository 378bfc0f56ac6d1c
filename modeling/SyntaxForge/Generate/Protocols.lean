import SyntaxForge.Generate.Phrase

/-!
# Generated protocols

Every base has two protocols, one for what builds a value of it and one for what builds a list of
them, with default implementations.  Every kind has a protocol for the values that can be turned
into it, with a default for each of its direct conformances; that protocol inherits from those of
the targets.

The base of collections has no protocols: a kind may reach it in several ways, and each of them
takes a conversion of its own.
-/

namespace SyntaxForge.Generate

open Code

/-! ## Bases -/

/-- The comment on a function that builds a list. -/
def buildDocs (tree : String) : List String :=
  [s!"/// Builds list of `{tree}`s.",
   "/// - Parameter format: The `Format` to use.",
   "/// - Parameter leadingTrivia: Replaces the last leading trivia if not nil."]

/-- The requirement to build a list of a type. -/
def listRequirement (type : SwiftType) : Function where
  docs := buildDocs type.treeName
  name := type.buildMethod ++ "List"
  parameters := formatParameters false
  returns := .array (.named type.treeName)

/-- The requirement to build a value of a type. -/
def buildRequirement (type : SwiftType) : Function where
  docs := buildDocs type.treeName
  name := type.buildMethod
  parameters := formatParameters false
  returns := .named type.treeName

/-- The protocol of what builds a list of a base. -/
def listProtocol (type : SwiftType) : Decl where
  form := .protocol
  name := type.listBuildable
  inherits := if type.isRoot then [] else [.ofText rootType.listBuildable]
  members := [.function (listRequirement type)]

/-- The protocol of what builds a value of a base. -/
def buildableProtocol (type : SwiftType) : Decl where
  form := .protocol
  name := type.buildable
  inherits :=
    [.ofText type.expressibleAs, .ofText type.listBuildable]
      ++ if type.isRoot then [] else [.ofText rootType.buildable]
  members := [.function (buildRequirement type)]

/-- What builds a value can be turned into that value. -/
def selfCreate (type : SwiftType) : Function :=
  { returningFunction type.createMethod type.buildable selfExpr with
    docs := [s!"/// Satisfies conformance to `{type.expressibleAs}`."] }

/-- What builds a value builds a list of that one. -/
def singletonBuild (type : SwiftType) : Function where
  docs := buildDocs type.treeName
    ++ ["///", s!"/// Satisfies conformance to `{type.listBuildable}`"]
  name := type.buildMethod ++ "List"
  parameters := formatParameters true
  returns := .array (.named type.treeName)
  body := some [.ret (.arrayOf (callWithFormat type.buildMethod))]

/-- What builds a value of a base builds one of the root. -/
def rootBuild (type : SwiftType) : Function where
  docs :=
    [s!"/// Builds a `{type.treeName}`.",
     "/// - Parameter format: The `Format` to use.",
     "/// - Parameter leadingTrivia: Replaces the last leading trivia if not nil.",
     s!"/// - Returns: A new `Syntax` with the built `{type.treeName}`.",
     "///",
     "/// Satisfies conformance to `SyntaxBuildable`."]
  name := rootType.buildMethod
  parameters := formatParameters true
  returns := .named rootType.treeName
  body := some [.ret (callWith (.name rootType.treeName) (callWithFormat type.buildMethod))]

/-- The default implementations of what builds a value of a base. -/
def buildableExtension (type : SwiftType) : Decl where
  form := .extend
  name := type.buildable
  inherits := []
  members :=
    [.function (selfCreate type), .function (singletonBuild type)]
      ++ if type.isRoot then [] else [.function (rootBuild type)]

/-- The declarations of a base. -/
def baseDecls (kind : NodeKind) : List Decl :=
  let type := SwiftType.ofKind kind
  [listProtocol type, buildableProtocol type, buildableExtension type]

/-- The bases that have protocols, sorted by name. -/
def protocolBases (grammar : Grammar) : List NodeKind :=
  grammar.sortedBases.filter (·.name ≠ collectionBaseName)

/-- The declarations of all bases. -/
def baseProtocols (grammar : Grammar) : List Decl :=
  (protocolBases grammar).flatMap baseDecls

/-! ## Conversions -/

/-- The protocols that the protocol of a kind inherits from.  Only what derives from the root
directly inherits from its protocol: a plain array stands in for some collections, and it cannot be
turned into a value of the root. -/
def inheritedProtocols (grammar : Grammar) (kind : NodeKind) : List String :=
  (grammar.conformances kind.name).map
    (fun conformance => (SwiftType.ofName grammar conformance.target).expressibleAs)
    ++ if kind.base = some rootName then [rootType.expressibleAs] else []

/-- The requirement to turn a value into a type. -/
def createRequirement (type : SwiftType) : Function where
  name := type.createMethod
  returns := .named type.buildable

/-- The protocol of the values that can be turned into a kind. -/
def expressibleProtocol (grammar : Grammar) (kind : NodeKind) : Decl where
  form := .protocol
  name := (SwiftType.ofKind kind).expressibleAs
  inherits := (inheritedProtocols grammar kind).map TypeExpr.ofText
  members := [.function (createRequirement (.ofKind kind))]

/-- The value that a conformance returns. -/
def conversionValue (type target : SwiftType) : Conversion → Expr
  | .upcast => callEmpty (.name type.createMethod)
  | .wrap slot =>
    .call (.name target.buildable) (.ofList [(some (Text.lowerCamel slot), selfExpr)])

/-- The default implementation for a conformance. -/
def conversionFunction (grammar : Grammar) (kind : NodeKind) (conformance : Conformance) :
    Function :=
  let target := SwiftType.ofName grammar conformance.target
  { returningFunction target.createMethod target.buildable
      (conversionValue (.ofKind kind) target conformance.conversion) with
    docs := [conformanceDoc target.expressibleAs] }

/-- The default implementations for the conformances of a kind. -/
def expressibleExtension (grammar : Grammar) (kind : NodeKind) : Decl where
  form := .extend
  name := (SwiftType.ofKind kind).expressibleAs
  inherits := []
  members := (grammar.conformances kind.name).map fun conformance =>
    .function (conversionFunction grammar kind conformance)

/-- The declarations for the conversions to and from a kind. -/
def expressibleDecls (grammar : Grammar) (kind : NodeKind) : List Decl :=
  expressibleProtocol grammar kind
    :: if (grammar.conformances kind.name).isEmpty then [] else [expressibleExtension grammar kind]

/-- The declarations for the conversions between all kinds. -/
def expressibleProtocols (grammar : Grammar) : List Decl :=
  grammar.generatingKinds.flatMap (expressibleDecls grammar)

end SyntaxForge.Generate
