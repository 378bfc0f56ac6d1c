import SyntaxForge.Grammar.Builtin
import SyntaxForge.Proofs.Acceptance

/-!
# Names that resolve

A grammar names kinds and tokens in four places: as bases, as the types of slots and elements, and
on both sides of the list of conformances.  The checks of `Grammar.ofDeclarations` go through them
one after the other; what is listed for a kind is checked when its conformances are computed.

* `Declarations.ResolvesNames`: every name in these places is declared as what it stands for, apart
  from what is listed for the base of collections.
* `names_resolve`: **the names of an accepted grammar resolve**, and **what is listed for the base
  of collections is not looked at**, as that base has no conformances to compute.
-/

namespace SyntaxForge

/-- The reference is to a declared kind, or to a declared token that is no trivia, or to any
token. -/
def Catalog.Declares (catalog : Catalog) : TypeRef → Prop
  | .node name => ∃ kind ∈ catalog.kinds, kind.name = name
  | .token name => ∃ token ∈ catalog.tokens, token.name = name ∧ token.tokenClass ≠ .trivia
  | .anyToken => True

namespace Declarations

/-- Every name is declared as what it stands for, apart from the targets that are listed for the base
of collections. -/
structure ResolvesNames (declarations : Declarations) : Prop where
  bases : ∀ kind ∈ declarations.kinds, ∀ name, kind.base = some name →
    ∃ base ∈ declarations.kinds, base.name = name ∧ base.isBase = true
  slots : ∀ kind ∈ declarations.kinds, ∀ slot ∈ kind.slots, declarations.Declares slot.type
  elements : ∀ kind ∈ declarations.kinds, ∀ type, kind.element? = some type →
    declarations.Declares type
  keys : ∀ entry ∈ declarations.expressibleAs, declarations.Declares (.node entry.1)
  targets : ∀ entry ∈ declarations.expressibleAs, entry.1 ≠ collectionBaseName →
    ∀ target ∈ entry.2, declarations.Declares (.node target)

/-- The declarations with other targets for the base of collections. -/
def mapCollectionTargets (declarations : Declarations) (change : List String → List String) :
    Declarations :=
  { declarations with
    expressibleAs := declarations.expressibleAs.map fun entry =>
      if entry.1 = collectionBaseName then (entry.1, change entry.2) else entry }

end Declarations

/-! ## Checked names -/

namespace Catalog

variable {catalog : Catalog}

lemma declares_of_kind? {kind : NodeKind} {name : String} (h : catalog.kind? name = some kind) :
    catalog.Declares (.node name) :=
  ⟨kind, mem_and_name_of_kind? h⟩

lemma declares_of_resolves {type : TypeRef} (h : catalog.resolves type = true) :
    catalog.Declares type := by
  cases type with
  | node name =>
      obtain ⟨kind, hfound⟩ := Option.isSome_iff_exists.mp h
      exact declares_of_kind? hfound
  | token name =>
      rw [resolves, Option.any_eq_true] at h
      obtain ⟨token, hfound, hclass⟩ := h
      have hname := List.find?_some hfound
      exact ⟨token, List.mem_of_find?_eq_some hfound, by simpa using hname, by simpa using hclass⟩
  | anyToken => trivial

/-- A listed kind that passes its check is declared, and is not the root. -/
lemma exists_of_checkListed {name : String} (h : catalog.checkListed name = .ok ()) :
    name ≠ rootName ∧ ∃ kind, catalog.kind? name = some kind := by
  rw [checkListed] at h
  split_ifs at h with hroot hnone
  exact ⟨hroot, Option.ne_none_iff_exists'.mp (by simpa using hnone)⟩

end Catalog

namespace Grammar.Tabulates

variable {declarations : Declarations} {grammar : Grammar}

/-- A target is looked up when the conformances of the kind that lists it are computed. -/
lemma declares_target (h : Tabulates declarations grammar) {entry : String × List String}
    (hentry : entry ∈ declarations.expressibleAs) (hname : entry.1 ≠ collectionBaseName)
    {target : String} (htarget : target ∈ entry.2) : grammar.Declares (.node target) := by
  obtain ⟨hroot, kind, hfound⟩ := Catalog.exists_of_checkListed (h.listed entry hentry)
  obtain ⟨hkind, hkindName⟩ := Catalog.mem_and_name_of_kind? hfound
  have hlists : target ∈ Catalog.listedTargets declarations.expressibleAs kind.name :=
    List.mem_flatMap.mpr ⟨entry, List.mem_filter.mpr ⟨hentry, by simp [hkindName]⟩, htarget⟩
  have hisRoot : kind.isRoot = false := (h.isRoot_eq_false_iff hkind).mpr (hkindName ▸ hroot)
  have hdirect := h.directConformances_eq hkind
  rw [Catalog.directConformances, if_neg (by simp [hisRoot, hkindName, hname]),
    bind_eq_ok_iff] at hdirect
  obtain ⟨listed, hlisted, -⟩ := hdirect
  obtain ⟨conformance, -, hconformance⟩ :=
    exists_of_mem_forall₂ (mapM_eq_ok_iff.mp hlisted).flip hlists
  obtain ⟨-, targetKind, htargetKind, -⟩ := Catalog.listedConformance_cases hconformance
  exact Catalog.declares_of_kind? htargetKind

/-- **Whatever passes the checks resolves its names.** -/
theorem resolvesNames (h : Tabulates declarations grammar) : declarations.ResolvesNames := by
  have hcatalog := h.catalog_eq
  refine ⟨?_, ?_, ?_, ?_, ?_⟩ <;> rw [← hcatalog]
  · intro kind hkind name hname
    exact h.exists_base hkind hname
  · intro kind hkind slot hslot
    exact Catalog.declares_of_resolves
      (h.resolves_of_mem hkind (NodeKind.type_mem_references hslot))
  · intro kind hkind type htype
    exact Catalog.declares_of_resolves
      (h.resolves_of_mem hkind (NodeKind.element_mem_references htype))
  · intro entry hentry
    obtain ⟨-, kind, hfound⟩ := Catalog.exists_of_checkListed (h.listed entry hentry)
    exact Catalog.declares_of_kind? hfound
  · intro entry hentry hname target htarget
    exact h.declares_target hentry hname htarget

end Grammar.Tabulates

/-! ## Names that are not checked -/

section Unchecked

variable {declarations : Declarations} (change : List String → List String)

lemma listedTargets_mapCollectionTargets {name : String} (hname : name ≠ collectionBaseName) :
    Catalog.listedTargets (declarations.mapCollectionTargets change).expressibleAs name
      = Catalog.listedTargets declarations.expressibleAs name := by
  simp only [Declarations.mapCollectionTargets, Catalog.listedTargets]
  induction declarations.expressibleAs with
  | nil => rfl
  | cons entry rest ih =>
      by_cases hentry : entry.1 = collectionBaseName
      · simpa [hentry, hname.symm] using ih
      · by_cases hsame : entry.1 = name <;> simpa [hentry, hsame, hname] using ih

/-- No conformances depend on what is listed for the base of collections. -/
lemma directConformances_mapCollectionTargets (kind : NodeKind) :
    declarations.directConformances (declarations.mapCollectionTargets change).expressibleAs kind
      = declarations.directConformances declarations.expressibleAs kind := by
  by_cases hname : kind.name = collectionBaseName
  · simp [Catalog.directConformances, hname]
  · rw [Catalog.directConformances, Catalog.directConformances,
      listedTargets_mapCollectionTargets change hname]

/-- **What is listed for the base of collections is not looked at.** -/
theorem ofDeclarations_mapCollectionTargets :
    Grammar.ofDeclarations (declarations.mapCollectionTargets change)
      = Grammar.ofDeclarations declarations := by
  have hcatalog : (declarations.mapCollectionTargets change).toCatalog
      = declarations.toCatalog := rfl
  have hkey : ∀ entry : String × List String,
      (if entry.1 = collectionBaseName then (entry.1, change entry.2) else entry).1 = entry.1 := by
    intro entry
    split <;> rfl
  have hkeys : ((declarations.mapCollectionTargets change).expressibleAs.forM fun entry =>
      declarations.checkListed entry.1)
      = declarations.expressibleAs.forM fun entry => declarations.checkListed entry.1 := by
    simp [Declarations.mapCollectionTargets, hkey]
  simp only [Grammar.ofDeclarations, hcatalog, hkeys, directConformances_mapCollectionTargets]

end Unchecked

namespace Grammar

variable {declarations : Declarations} {grammar : Grammar}

/-- **The names of an accepted grammar resolve**, apart from the targets that are listed for the base
of collections: any others would be accepted in their place. -/
theorem names_resolve (h : ofDeclarations declarations = .ok grammar) :
    declarations.ResolvesNames
      ∧ ∀ change, ofDeclarations (declarations.mapCollectionTargets change) = .ok grammar := by
  refine ⟨(accepts_of_ofDeclarations h).resolvesNames, fun change => ?_⟩
  rw [ofDeclarations_mapCollectionTargets, h]

/-! An expression is listed as a tuple element, which has to be declared.  What is listed for the
base of collections need not be. -/

/-- A grammar of tuples, with targets for the base of collections. -/
def tupleDeclarations (targets : List String) : Declarations where
  tokens := [Builtin.identifier, Builtin.colon, Builtin.comma]
  kinds :=
    [Builtin.root, Builtin.collectionBase, Builtin.exprBase, Builtin.tupleExprElement,
     Builtin.tupleExprElementList]
  expressibleAs := [("Expr", ["TupleExprElement"]), ("SyntaxCollection", targets)]

/-- The grammar with its conformances. -/
def tupleGrammar : Grammar where
  toCatalog := (tupleDeclarations []).toCatalog
  conformanceTable :=
    [("Syntax", []), ("SyntaxCollection", []),
     ("Expr", [⟨"TupleExprElement", .wrap "Expression"⟩]), ("TupleExprElement", []),
     ("TupleExprElementList", [])]

theorem names_resolve_tuple : (tupleDeclarations ["Syntax"]).ResolvesNames := by
  have haccepted : ofDeclarations (tupleDeclarations ["Syntax"]) = .ok tupleGrammar := by decide
  exact (names_resolve haccepted).1

theorem not_declares_listed_missing :
    ofDeclarations (tupleDeclarations ["Missing"]) = .ok tupleGrammar
      ∧ ("SyntaxCollection", ["Missing"]) ∈ (tupleDeclarations ["Missing"]).expressibleAs
      ∧ ¬ (tupleDeclarations ["Missing"]).Declares (.node "Missing") := by
  refine ⟨by decide, by decide, ?_⟩
  rintro ⟨kind, hkind, hname⟩
  revert kind
  decide

end Grammar

end SyntaxForge
