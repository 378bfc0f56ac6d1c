import SyntaxForge.Grammar.Catalog
import SyntaxForge.Grammar.Search

/-!
# Conformances

A kind conforms to a target when a value of the kind can stand where the target is expected.  The
conversion is an upcast, when the target is one of the kind's bases, or a wrap, which makes a new
target with the value in its only open slot.

A kind conforms directly to its own base, to the targets that the grammar lists for it, and to
every child of the root that merely wraps it (`Catalog.directConformances`).
-/

namespace SyntaxForge

/-- How a value becomes a value of the target. -/
inductive Conversion where
  /-- The value already is one. -/
  | upcast
  /-- The value fills `slot` of a new target. -/
  | wrap (slot : String)
  deriving DecidableEq, Repr

/-- A kind that a value can stand in for, and how. -/
structure Conformance where
  target : String
  conversion : Conversion
  deriving DecidableEq, Repr

namespace Catalog

/-- The slot of `target` that a value of kind `source` fills on its own: the only required slot
for a node, when every other required slot is a fixed token. -/
def conversionSlot? (catalog : Catalog) (target : NodeKind) (source : String) : Option Slot :=
  match target.slots.filter fun slot => !slot.isOptional && !slot.type.isToken with
  | [slot] =>
    let othersDefault := (target.slots.filter (·.name ≠ slot.name)).all fun other =>
      other.isOptional || catalog.isFixedToken other.type
    let accepts := slot.type.node?.any fun type => catalog.isSubkind source type
    if othersDefault && accepts then some slot else none
  | _ => none

/-- The conformance of a kind to its own base; the root and the base of collections are left
out. -/
def baseConformance? (kind : NodeKind) : Option Conformance :=
  match kind.base with
  | some base =>
    if base = rootName ∨ base = collectionBaseName then none
    else some { target := base, conversion := .upcast }
  | none => none

/-- The conformance of a kind to a target that the grammar lists for it. -/
def listedConformance (catalog : Catalog) (kind : NodeKind) (target : String) :
    Except GrammarError Conformance :=
  match catalog.kind? target with
  | none => .error (.unknownType kind.name target)
  | some targetKind =>
    if catalog.isSubkind kind.name target then .ok { target, conversion := .upcast }
    else
      match catalog.conversionSlot? targetKind kind.name with
      | some slot => .ok { target, conversion := .wrap slot.name }
      | none => .error (.noConversionSlot kind.name target)

/-- The conformance of a kind to a child of the root that only wraps one value of it. -/
def wrapperConformance? (catalog : Catalog) (kind target : NodeKind) : Option Conformance :=
  if target.name = kind.name ∨ target.base ≠ some rootName then none
  else
    match catalog.conversionSlot? target kind.name with
    | some slot =>
      if slot.type = .node kind.name then
        some { target := target.name, conversion := .wrap slot.name }
      else none
    | none => none

/-- The targets that a table lists for a kind. -/
def listedTargets (table : List (String × List String)) (name : String) : List String :=
  (table.filter (·.1 = name)).flatMap Prod.snd

/-- The direct conformances of a kind, at most one to each target: to its base, then the listed
ones, then those to its wrappers. -/
def directConformances (catalog : Catalog) (table : List (String × List String))
    (kind : NodeKind) : Except GrammarError (List Conformance) :=
  if kind.isRoot || kind.name = collectionBaseName then .ok []
  else do
    let listed ← (listedTargets table kind.name).mapM (catalog.listedConformance kind)
    let wrappers := catalog.concreteKinds.filterMap (catalog.wrapperConformance? kind)
    return keepFirst Conformance.target [] ((baseConformance? kind).toList ++ listed ++ wrappers)

/-- A listed kind is declared, and is not the root. -/
def checkListed (catalog : Catalog) (name : String) : Except GrammarError Unit :=
  if name = rootName then .error (.rootConformance name)
  else if (catalog.kind? name).isNone then .error (.unknownType name name)
  else .ok ()

end Catalog

end SyntaxForge
