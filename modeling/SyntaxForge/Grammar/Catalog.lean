import SyntaxForge.Grammar.Error
import SyntaxForge.Grammar.NodeKind
import SyntaxForge.Grammar.TokenKind

/-!
# The declared kinds

A catalog is the list of token kinds and the list of node kinds of a grammar, in declaration
order.  This module looks names up in it, follows the chain of bases of a kind, and checks that
every name a kind mentions is declared.

The chain of bases is followed for at most as many steps as there are kinds: a chain that ends
has no repetition, so it is never longer, and a chain that is longer runs in a circle.
-/

namespace SyntaxForge

/-- The token kinds and node kinds of a grammar, in declaration order. -/
structure Catalog where
  tokens : List TokenKind
  kinds : List NodeKind
  deriving DecidableEq, Repr

namespace Catalog

/-! ## Looking names up -/

/-- The token kind of a name. -/
def token? (catalog : Catalog) (name : String) : Option TokenKind :=
  catalog.tokens.find? (·.name = name)

/-- The node kind of a name. -/
def kind? (catalog : Catalog) (name : String) : Option NodeKind :=
  catalog.kinds.find? (·.name = name)

/-- The concrete kinds, in declaration order. -/
def concreteKinds (catalog : Catalog) : List NodeKind :=
  catalog.kinds.filter NodeKind.isConcrete

/-- The collections, in declaration order. -/
def collectionKinds (catalog : Catalog) : List NodeKind :=
  catalog.kinds.filter NodeKind.isCollection

/-- The bases, sorted by name. -/
def sortedBases (catalog : Catalog) : List NodeKind :=
  (catalog.kinds.filter NodeKind.isBase).mergeSort fun a b => a.name ≤ b.name

/-- The token kind behind a reference, if it names a single one. -/
def tokenOf? (catalog : Catalog) : TypeRef → Option TokenKind
  | .token name => catalog.token? name
  | .node _ | .anyToken => none

/-- The token kind behind a reference, if it has a fixed text. -/
def fixedToken? (catalog : Catalog) (type : TypeRef) : Option TokenKind :=
  (catalog.tokenOf? type).filter (·.text.isSome)

/-- Whether a slot of this type can be filled without being given a token. -/
def isFixedToken (catalog : Catalog) (type : TypeRef) : Bool :=
  (catalog.fixedToken? type).isSome

/-! ## The chain of bases -/

/-- The kind and its bases, from the kind up, cut off after `bound` of them. -/
def chainWithin (catalog : Catalog) : (bound : Nat) → NodeKind → List NodeKind
  | 0, _ => []
  | bound + 1, kind =>
    kind :: match kind.base.bind catalog.kind? with
      | some base => catalog.chainWithin bound base
      | none => []

/-- The kind and its bases, from the kind up. -/
def chain (catalog : Catalog) (kind : NodeKind) : List NodeKind :=
  catalog.chainWithin catalog.kinds.length kind

/-- Whether the bases of a kind run in a circle. -/
def hasCircularBases (catalog : Catalog) (kind : NodeKind) : Bool :=
  catalog.kinds.length < (catalog.chainWithin (catalog.kinds.length + 1) kind).length

/-- Whether `name` is `ancestor` or derives from it. -/
def isSubkind (catalog : Catalog) (name ancestor : String) : Bool :=
  match catalog.kind? name with
  | some kind => (catalog.chain kind).any (·.name = ancestor)
  | none => false

/-! ## Every mentioned name is declared -/

/-- Whether a reference is to a declared kind, or to a token that is no trivia. -/
def resolves (catalog : Catalog) : TypeRef → Bool
  | .node name => (catalog.kind? name).isSome
  | .token name => (catalog.token? name).any (·.tokenClass ≠ .trivia)
  | .anyToken => true

/-- The first name that has occurred before, given those already `seen`. -/
def firstRepeated (seen : List String) : List String → Option String
  | [] => none
  | name :: rest => if name ∈ seen then some name else firstRepeated (name :: seen) rest

/-- No two kinds share a name. -/
def checkDistinct (catalog : Catalog) : Except GrammarError Unit :=
  match firstRepeated [] (catalog.kinds.map NodeKind.name) with
  | some name => .error (.duplicateKind name)
  | none => .ok ()

/-- There is a root, and it is a base. -/
def checkRoot (catalog : Catalog) : Except GrammarError Unit :=
  if (catalog.kind? rootName).any fun root => root.isRoot && root.isBase then .ok ()
  else .error .missingRoot

/-- The kind derives from a base, unless it is the root. -/
def checkBase (catalog : Catalog) (kind : NodeKind) : Except GrammarError Unit :=
  match kind.base with
  | some base =>
    if (catalog.kind? base).any NodeKind.isBase then .ok ()
    else .error (.unknownBase kind.name base)
  | none => if kind.name = rootName then .ok () else .error (.unknownBase kind.name "")

/-- The base and every reference of the kind resolve. -/
def checkKind (catalog : Catalog) (kind : NodeKind) : Except GrammarError Unit := do
  catalog.checkBase kind
  match kind.references.find? fun type => !catalog.resolves type with
  | some type => .error (.unknownType kind.name type.display)
  | none => .ok ()

/-- No chain of bases runs in a circle. -/
def checkChains (catalog : Catalog) : Except GrammarError Unit :=
  match catalog.kinds.find? catalog.hasCircularBases with
  | some kind => .error (.baseCycle kind.name)
  | none => .ok ()

/-- The catalog is well formed: names are distinct, there is a root, every base and reference
resolves, and every chain of bases ends. -/
def check (catalog : Catalog) : Except GrammarError Unit := do
  catalog.checkDistinct
  catalog.checkRoot
  catalog.kinds.forM catalog.checkKind
  catalog.checkChains

end Catalog

end SyntaxForge
