import SyntaxForge.Grammar.Basic
import SyntaxForge.Proofs.Lookup
import SyntaxForge.Proofs.Search
import SyntaxForge.Proofs.Sequences

/-!
# What an accepted grammar guarantees

`Grammar.ofDeclarations` runs one check after the other and keeps nothing of them but the grammar.
`Grammar.Accepts` recovers what the checks have established, as facts about the declarations and
the table of conformances; everything that is said about accepted grammars goes back to it.
`Grammar.Tabulates` is the part of it that holds before the paths of conformances are checked.

* `accepts_of_ofDeclarations`: an accepted grammar has passed every check.
* `Tabulates.distinctNames`, `Tabulates.exists_base`, `Tabulates.exists_root`: names are distinct,
  every base is a declared base kind, and there is a root.
* `Tabulates.directConformances_eq`: the table lists the direct conformances of every kind.
-/

namespace SyntaxForge

/-! ## Tables by the names of kinds -/

section Tables

variable {ε γ : Type} {f : NodeKind → Except ε γ} {kinds : List NodeKind}
  {table : List (String × γ)}

/-- In a table with an entry for every kind, the entry of a kind is found by its name. -/
lemma lookup_eq_some_of_forall₂
    (htable : List.Forall₂ (fun kind entry => entry.1 = kind.name ∧ f kind = .ok entry.2) kinds
      table)
    (hdistinct : (kinds.map NodeKind.name).Nodup) {kind : NodeKind} (hkind : kind ∈ kinds) :
    ∃ found, table.lookup kind.name = some found ∧ f kind = .ok found := by
  -- the names are distinct, so that the first entry of a name is the one of its kind
  induction htable with
  | nil => simp at hkind
  | @cons other entry kinds table hentry _ ih =>
      obtain ⟨name, found⟩ := entry
      obtain ⟨rfl, hfound⟩ := hentry
      rw [List.map_cons, List.nodup_cons] at hdistinct
      rcases List.mem_cons.mp hkind with rfl | hmem
      · exact ⟨found, List.lookup_cons_self, hfound⟩
      · have hne : kind.name ≠ other.name := by
          intro heq
          exact hdistinct.1 (heq ▸ List.mem_map_of_mem hmem)
        rw [List.lookup_cons, beq_false_of_ne hne]
        exact ih hdistinct.2 hmem

lemma lookup_eq_none_of_forall₂
    (htable : List.Forall₂ (fun kind entry => entry.1 = kind.name ∧ f kind = .ok entry.2) kinds
      table)
    {name : String} (hname : name ∉ kinds.map NodeKind.name) : table.lookup name = none := by
  induction htable with
  | nil => rfl
  | cons hentry _ ih =>
      rw [List.map_cons, List.mem_cons, not_or] at hname
      rw [List.lookup_cons, beq_false_of_ne (hentry.1 ▸ hname.1)]
      exact ih hname.2

end Tables

/-! ## The three sources of conformances -/

namespace Catalog

variable {catalog : Catalog} {kind : NodeKind} {conformance : Conformance}

/-- A kind conforms to its base by an upcast, unless that is the root or the base of
collections. -/
lemma baseConformance?_eq_some_iff : baseConformance? kind = some conformance
    ↔ kind.base = some conformance.target ∧ conformance.target ≠ rootName
      ∧ conformance.target ≠ collectionBaseName ∧ conformance.conversion = .upcast := by
  obtain ⟨target, conversion⟩ := conformance
  rw [baseConformance?]
  cases kind.base with
  | none => simp
  | some base =>
      dsimp only
      split
      · next h =>
          simp only [reduceCtorEq, false_iff, Option.some.injEq]
          rintro ⟨rfl, hroot, hcollection, _⟩
          exact h.elim hroot hcollection
      · next h =>
          simp only [Option.some.injEq, Conformance.mk.injEq]
          constructor
          · rintro ⟨rfl, rfl⟩
            exact ⟨rfl, fun hroot => h (Or.inl hroot), fun hbase => h (Or.inr hbase), rfl⟩
          · rintro ⟨rfl, _, _, rfl⟩
            exact ⟨rfl, rfl⟩

/-- A listed conformance is to the declared target that is listed, by an upcast to something that
the kind derives from or by a wrap. -/
lemma listedConformance_cases {target : String}
    (h : catalog.listedConformance kind target = .ok conformance) :
    conformance.target = target ∧ ∃ targetKind, catalog.kind? target = some targetKind
      ∧ (conformance.conversion = .upcast ∧ catalog.isSubkind kind.name target = true
        ∨ ∃ slot, conformance.conversion = .wrap slot.name
          ∧ catalog.conversionSlot? targetKind kind.name = some slot) := by
  rw [listedConformance] at h
  split at h
  · simp at h
  · next targetKind hfound =>
      split at h
      · next hsubkind =>
          simp only [Except.ok.injEq] at h
          exact h ▸ ⟨rfl, targetKind, hfound, Or.inl ⟨rfl, hsubkind⟩⟩
      · split at h
        · next slot hslot =>
            simp only [Except.ok.injEq] at h
            exact h ▸ ⟨rfl, targetKind, hfound, Or.inr ⟨slot, rfl, hslot⟩⟩
        · simp at h

/-- A kind conforms to a child of the root that has a slot for just this kind. -/
lemma wrapperConformance?_cases {target : NodeKind}
    (h : catalog.wrapperConformance? kind target = some conformance) :
    conformance.target = target.name ∧ target.base = some rootName
      ∧ ∃ slot, conformance.conversion = .wrap slot.name
        ∧ catalog.conversionSlot? target kind.name = some slot ∧ slot.type = .node kind.name := by
  rw [wrapperConformance?] at h
  split at h
  · simp at h
  · next htarget =>
      rw [not_or, not_not] at htarget
      split at h
      · next slot hslot =>
          split at h
          · next htype =>
              simp only [Option.some.injEq] at h
              exact h ▸ ⟨rfl, htarget.2, slot, rfl, hslot, htype⟩
          · simp at h
      · simp at h

end Catalog

namespace Grammar

/-- The grammar holds the declared catalog, whose references resolve, and the table of its direct
conformances.  Nothing is said about paths of conformances. -/
structure Tabulates (declarations : Declarations) (grammar : Grammar) : Prop where
  catalog_eq : grammar.toCatalog = declarations.toCatalog
  distinct : grammar.checkDistinct = .ok ()
  root : grammar.checkRoot = .ok ()
  kinds : ∀ kind ∈ grammar.kinds, grammar.checkKind kind = .ok ()
  chains : grammar.checkChains = .ok ()
  listed : ∀ entry ∈ declarations.expressibleAs, grammar.checkListed entry.1 = .ok ()
  table : List.Forall₂
    (fun kind entry => entry.1 = kind.name
      ∧ grammar.directConformances declarations.expressibleAs kind = .ok entry.2)
    grammar.kinds grammar.conformanceTable

/-- The declarations pass every check, and the grammar is what they describe. -/
structure Accepts (declarations : Declarations) (grammar : Grammar) : Prop
    extends Tabulates declarations grammar where
  acyclic : grammar.checkCycles = .ok ()
  unambiguous : grammar.checkAmbiguity = .ok ()

/-- The table that is computed for checked declarations completes them to a grammar. -/
lemma tabulates_of_checks {declarations : Declarations} {table : List (String × List Conformance)}
    (hcheck : declarations.check = .ok ())
    (hlisted : (declarations.expressibleAs.forM fun entry => declarations.checkListed entry.1)
      = .ok ())
    (htable : (declarations.kinds.mapM fun kind => do
      return (kind.name, ← declarations.directConformances declarations.expressibleAs kind))
      = .ok table) :
    Tabulates declarations { declarations.toCatalog with conformanceTable := table } := by
  simp only [Catalog.check, bind_eq_ok_iff] at hcheck
  obtain ⟨⟨⟩, hdistinct, ⟨⟩, hroot, ⟨⟩, hkinds, hchains⟩ := hcheck
  refine ⟨rfl, hdistinct, hroot, forM_eq_ok_iff.mp hkinds, hchains, forM_eq_ok_iff.mp hlisted, ?_⟩
  refine (mapM_eq_ok_iff.mp htable).imp ?_
  intro kind entry hentry
  simp only [bind_eq_ok_iff, pure_eq_ok_iff] at hentry
  obtain ⟨conformances, hconformances, rfl⟩ := hentry
  exact ⟨rfl, hconformances⟩

/-- **An accepted grammar has passed every check.** -/
theorem accepts_of_ofDeclarations {declarations : Declarations} {grammar : Grammar}
    (h : ofDeclarations declarations = .ok grammar) : Accepts declarations grammar := by
  simp only [ofDeclarations, bind_eq_ok_iff, pure_eq_ok_iff] at h
  obtain ⟨⟨⟩, hcheck, ⟨⟩, hlisted, table, htable, ⟨⟩, hacyclic, ⟨⟩, hunambiguous, rfl⟩ := h
  exact ⟨tabulates_of_checks hcheck hlisted htable, hacyclic, hunambiguous⟩

end Grammar

/-! ## Names, bases and the root -/

namespace Catalog

/-- Names without a repetition are distinct. -/
lemma nodup_of_firstRepeated_eq_none : ∀ {seen names : List String},
    firstRepeated seen names = none → names.Nodup ∧ ∀ name ∈ names, name ∉ seen
  | _, [], _ => by simp
  | seen, name :: rest, h => by
      rw [firstRepeated] at h
      split at h
      · simp at h
      · next hname =>
          obtain ⟨hnodup, hrest⟩ := nodup_of_firstRepeated_eq_none h
          refine ⟨List.nodup_cons.mpr ⟨?_, hnodup⟩, ?_⟩
          · intro hmem
            exact hrest name hmem List.mem_cons_self
          · intro other hother hseen
            rcases List.mem_cons.mp hother with rfl | hother
            · exact hname hseen
            · exact hrest other hother (List.mem_cons_of_mem _ hseen)

end Catalog

namespace Grammar.Tabulates

variable {declarations : Declarations} {grammar : Grammar} {kind : NodeKind}

/-- No two kinds share a name. -/
lemma distinctNames (h : Tabulates declarations grammar) : grammar.DistinctNames := by
  have hdistinct := h.distinct
  rw [Catalog.checkDistinct] at hdistinct
  split at hdistinct
  · simp at hdistinct
  · next hnone => exact (Catalog.nodup_of_firstRepeated_eq_none hnone).1

/-- There is a root, which is a base. -/
lemma exists_root (h : Tabulates declarations grammar) :
    ∃ root ∈ grammar.kinds, root.name = rootName ∧ root.isRoot = true ∧ root.isBase = true := by
  have hroot := h.root
  rw [Catalog.checkRoot] at hroot
  split at hroot
  · next hany =>
      rw [Option.any_eq_true] at hany
      obtain ⟨root, hfound, hroot⟩ := hany
      obtain ⟨hmem, hname⟩ := Catalog.mem_and_name_of_kind? hfound
      exact ⟨root, hmem, hname, by simpa using hroot⟩
  · simp at hroot

lemma checkBase_eq_ok (h : Tabulates declarations grammar) (hkind : kind ∈ grammar.kinds) :
    grammar.checkBase kind = .ok () := by
  have hcheck := h.kinds kind hkind
  rw [Catalog.checkKind, bind_eq_ok_iff] at hcheck
  obtain ⟨⟨⟩, hbase, _⟩ := hcheck
  exact hbase

/-- Every base is a declared base kind. -/
lemma exists_base (h : Tabulates declarations grammar) (hkind : kind ∈ grammar.kinds)
    {name : String} (hname : kind.base = some name) :
    ∃ base ∈ grammar.kinds, base.name = name ∧ base.isBase = true := by
  have hbase := h.checkBase_eq_ok hkind
  simp only [Catalog.checkBase, hname] at hbase
  split at hbase
  · next hany =>
      rw [Option.any_eq_true] at hany
      obtain ⟨base, hfound, hbase⟩ := hany
      obtain ⟨hmem, hname⟩ := Catalog.mem_and_name_of_kind? hfound
      exact ⟨base, hmem, hname, hbase⟩
  · simp at hbase

/-- Every reference of a kind resolves. -/
lemma resolves_of_mem (h : Tabulates declarations grammar) (hkind : kind ∈ grammar.kinds)
    {type : TypeRef} (hmem : type ∈ kind.references) : grammar.resolves type = true := by
  have hcheck := h.kinds kind hkind
  rw [Catalog.checkKind, bind_eq_ok_iff] at hcheck
  obtain ⟨⟨⟩, _, hreferences⟩ := hcheck
  split at hreferences
  · simp at hreferences
  · next hnone => simpa using List.find?_eq_none.mp hnone type hmem

/-- Only the root derives from nothing. -/
lemma isRoot_iff (h : Tabulates declarations grammar) (hkind : kind ∈ grammar.kinds) :
    kind.isRoot = true ↔ kind.name = rootName := by
  constructor
  · intro hroot
    have hnone : kind.base = none := by simpa [NodeKind.isRoot] using hroot
    have hbase := h.checkBase_eq_ok hkind
    simp only [Catalog.checkBase, hnone] at hbase
    split at hbase
    · assumption
    · simp at hbase
  · intro hname
    obtain ⟨root, hmem, hrootName, hroot, _⟩ := h.exists_root
    rw [h.distinctNames.eq_of_name_eq hkind hmem (hname.trans hrootName.symm), hroot]

lemma isRoot_eq_false_iff (h : Tabulates declarations grammar) (hkind : kind ∈ grammar.kinds) :
    kind.isRoot = false ↔ kind.name ≠ rootName := by
  rw [Bool.eq_false_iff, ne_eq, h.isRoot_iff hkind]

/-! ## The table of conformances -/

/-- The table lists the direct conformances of every kind. -/
lemma directConformances_eq (h : Tabulates declarations grammar) (hkind : kind ∈ grammar.kinds) :
    grammar.directConformances declarations.expressibleAs kind
      = .ok (grammar.conformances kind.name) := by
  obtain ⟨found, hfound, hdirect⟩ := lookup_eq_some_of_forall₂ h.table h.distinctNames hkind
  rw [conformances, hfound]
  exact hdirect

/-- A name that is not declared has no conformances. -/
lemma conformances_eq_nil (h : Tabulates declarations grammar) {name : String}
    (hname : name ∉ grammar.kinds.map NodeKind.name) : grammar.conformances name = [] := by
  rw [conformances, lookup_eq_none_of_forall₂ h.table hname]
  rfl

/-- **Where a conformance comes from**: the base of the kind, the list of the grammar, or a wrapper
of the kind. -/
theorem conformance_cases (h : Tabulates declarations grammar) (hkind : kind ∈ grammar.kinds)
    {conformance : Conformance} (hmem : conformance ∈ grammar.conformances kind.name) :
    kind.isRoot = false ∧ kind.name ≠ collectionBaseName
      ∧ (Catalog.baseConformance? kind = some conformance
        ∨ (conformance.target ∈ Catalog.listedTargets declarations.expressibleAs kind.name
          ∧ grammar.listedConformance kind conformance.target = .ok conformance)
        ∨ ∃ target ∈ grammar.concreteKinds,
          grammar.wrapperConformance? kind target = some conformance) := by
  have hdirect := h.directConformances_eq hkind
  rw [Catalog.directConformances] at hdirect
  split at hdirect
  · simp only [Except.ok.injEq] at hdirect
    rw [← hdirect] at hmem
    simp at hmem
  · next hkind' =>
      simp only [Bool.or_eq_true, decide_eq_true_eq, not_or, Bool.not_eq_true] at hkind'
      rw [bind_eq_ok_iff] at hdirect
      obtain ⟨listed, hlisted, hdirect⟩ := hdirect
      rw [pure_eq_ok_iff] at hdirect
      rw [← hdirect] at hmem
      refine ⟨hkind'.1, hkind'.2, ?_⟩
      have hmem := (mem_of_mem_keepFirst hmem).1
      rw [List.mem_append, List.mem_append, Option.mem_toList, List.mem_filterMap] at hmem
      rcases hmem with (hbase | hmem) | hwrapper
      · exact Or.inl hbase
      · obtain ⟨target, htarget, hlisted⟩ :=
          exists_of_mem_forall₂ (mapM_eq_ok_iff.mp hlisted) hmem
        have heq := (Catalog.listedConformance_cases hlisted).1
        exact Or.inr (Or.inl (heq ▸ ⟨htarget, hlisted⟩))
      · exact Or.inr (Or.inr hwrapper)

end Grammar.Tabulates

end SyntaxForge
