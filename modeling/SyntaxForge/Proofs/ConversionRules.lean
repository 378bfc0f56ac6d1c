import SyntaxForge.Builder.Conversion
import SyntaxForge.Proofs.ConformanceGraph
import Mathlib.Data.List.Sublists

/-!
# Which conversion rules there are

The rules of a grammar are written down in two passes, which leave out what the other one has: a
value of a base is made by the rules of that base, everything else by those of the kind that is
converted.

* `nodup_conversionRules` and `source_ne_target`: **there is at most one rule from one kind to
  another, and none from a kind to itself**.
* `converts_of_transGen`: **there is a rule to everything that a kind reaches**.

The rules of a base stand for its own kinds only, so that a kind with a conformance to its base
finds the rule there and every other target among its own.
-/

namespace SyntaxForge

open Relation

namespace Grammar

/-- The rules turn one kind into another; nothing has to be done for a kind itself. -/
def Converts (grammar : Grammar) (source target : String) : Prop :=
  source = target
    ∨ ∃ rule ∈ grammar.conversionRules, rule.source = source ∧ rule.target = target

variable {declarations : Declarations} {grammar : Grammar} {kind base : NodeKind}
  {rule : ConversionRule}

/-! ## The two passes -/

lemma mem_valueBases : base ∈ grammar.valueBases ↔ base ∈ grammar.kinds ∧ base.isBase = true
    ∧ base.isRoot = false ∧ base.name ≠ collectionBaseName := by
  rw [valueBases, List.mem_filter, Catalog.sortedBases, List.mem_mergeSort, List.mem_filter]
  simp [and_assoc]

lemma mem_conversionRules_iff : rule ∈ grammar.conversionRules
    ↔ (∃ base ∈ grammar.valueBases, ∃ kind ∈ grammar.kinds, kind.base = some base.name
        ∧ rule = ⟨kind.name, base.name, .upcast⟩)
      ∨ ∃ kind ∈ grammar.kinds, rule ∈ grammar.rulesFrom kind := by
  rw [conversionRules, List.mem_append, List.mem_flatMap, List.mem_flatMap]
  simp only [upcastRules, derivedFrom, List.mem_map, List.mem_filter, decide_eq_true_eq, and_assoc,
    @eq_comm _ _ rule]

/-- The rules of a kind lead to the root, and to what it reaches apart from its base. -/
lemma mem_rulesFrom_iff : rule ∈ grammar.rulesFrom kind
    ↔ (kind.isRoot = false ∧ kind.name ≠ collectionBaseName)
      ∧ (rule = ⟨kind.name, rootName, .erase⟩
        ∨ ∃ via, (rule.target, via) ∈ grammar.reachable kind.name ∧ rule.target ≠ rootName
          ∧ kind.base ≠ some rule.target ∧ rule.source = kind.name
          ∧ ruleBody? kind rule.target via = some rule.body) := by
  rw [rulesFrom]
  by_cases hkind : kind.isRoot = true ∨ kind.name = collectionBaseName
  · rw [if_pos (by simpa using hkind)]
    simp only [List.not_mem_nil, false_iff, not_and]
    rintro ⟨hroot, hcollection⟩
    rcases hkind with hkind | hkind
    · rw [hkind] at hroot
      exact Bool.noConfusion hroot
    · exact absurd hkind hcollection
  · rw [if_neg (by simpa using hkind), List.mem_cons, List.mem_filterMap]
    rw [not_or, Bool.not_eq_true] at hkind
    rw [and_iff_right hkind]
    refine or_congr_right ?_
    constructor
    · rintro ⟨⟨target, via⟩, hfound, hrule⟩
      simp only [Option.ite_none_left_eq_some, not_or, Option.map_eq_some_iff] at hrule
      obtain ⟨⟨hroot, hbase⟩, body, hbody, rfl⟩ := hrule
      exact ⟨via, hfound, hroot, hbase, rfl, hbody⟩
    · rintro ⟨via, hfound, hroot, hbase, hsource, hbody⟩
      refine ⟨(rule.target, via), hfound, ?_⟩
      simp only [hroot, hbase, or_self, if_false, hbody, Option.map_some, ← hsource]

/-! ## One rule from one kind to another -/

/-- The rules of a kind lead to different targets. -/
lemma nodup_targets_rulesFrom (grammar : Grammar) (kind : NodeKind) :
    ((grammar.rulesFrom kind).map ConversionRule.target).Nodup := by
  rw [rulesFrom]
  split
  · simp
  · rw [List.map_cons, List.nodup_cons]
    refine ⟨?_, ?_⟩
    · intro hmem
      obtain ⟨rule, hrule, heq⟩ := List.mem_map.mp hmem
      obtain ⟨⟨target, via⟩, _, hrule⟩ := List.mem_filterMap.mp hrule
      simp only [Option.ite_none_left_eq_some, not_or, Option.map_eq_some_iff] at hrule
      obtain ⟨⟨hroot, _⟩, _, _, rfl⟩ := hrule
      exact hroot heq
    · refine List.Nodup.sublist (sublist_map_filterMap ?_ _) (nodup_keys_explore _ _ _ _)
      rintro ⟨target, via⟩ rule hrule
      simp only [Option.ite_none_left_eq_some, Option.map_eq_some_iff] at hrule
      obtain ⟨_, _, _, rfl⟩ := hrule
      rfl

lemma source_of_mem_rulesFrom (hrule : rule ∈ grammar.rulesFrom kind) :
    rule.source = kind.name := by
  obtain ⟨_, rfl | ⟨_, _, _, _, hsource, _⟩⟩ := mem_rulesFrom_iff.mp hrule
  · rfl
  · exact hsource

lemma nodup_names_valueBases (h : grammar.DistinctNames) :
    (grammar.valueBases.map NodeKind.name).Nodup := by
  have hsorted : (grammar.sortedBases.map NodeKind.name).Nodup := by
    have hperm := (List.mergeSort_perm (grammar.kinds.filter NodeKind.isBase)
      fun a b => a.name ≤ b.name).map NodeKind.name
    exact hperm.nodup_iff.mpr (h.sublist (List.filter_sublist.map _))
  exact hsorted.sublist (List.filter_sublist.map _)

/-- **There is at most one rule from one kind to another.** -/
theorem nodup_conversionRules (h : Accepts declarations grammar) :
    (grammar.conversionRules.map fun rule => (rule.source, rule.target)).Nodup := by
  have hkinds : (grammar.kinds.map NodeKind.name).Nodup := h.distinctNames
  rw [conversionRules, List.map_append, List.map_flatMap, List.map_flatMap]
  refine List.nodup_append.mpr ⟨List.nodup_flatMap.mpr ⟨?_, ?_⟩,
    List.nodup_flatMap.mpr ⟨?_, ?_⟩, ?_⟩
  · intro base _
    refine List.Nodup.of_map Prod.fst ?_
    rw [List.map_map, upcastRules, List.map_map]
    exact hkinds.sublist (List.filter_sublist.map _)
  · -- the rules of different bases have different targets
    refine (List.pairwise_map.mp (nodup_names_valueBases h.distinctNames)).imp ?_
    intro base other hne pair hpair hpair'
    simp only [upcastRules, List.map_map, List.mem_map, Function.comp_apply] at hpair hpair'
    obtain ⟨_, _, rfl⟩ := hpair
    obtain ⟨_, _, heq⟩ := hpair'
    exact hne (Prod.mk.inj heq).2.symm
  · intro kind _
    refine List.Nodup.of_map Prod.snd ?_
    rw [List.map_map]
    exact nodup_targets_rulesFrom grammar kind
  · -- the rules of different kinds have different sources
    refine (List.pairwise_map.mp hkinds).imp ?_
    intro kind other hne pair hpair hpair'
    obtain ⟨rule, hrule, rfl⟩ := List.mem_map.mp hpair
    obtain ⟨rule', hrule', heq⟩ := List.mem_map.mp hpair'
    refine hne ?_
    rw [← source_of_mem_rulesFrom hrule, ← source_of_mem_rulesFrom hrule']
    exact (Prod.mk.inj heq).1.symm
  · rintro pair hpair _ hpair' rfl
    simp only [List.mem_flatMap, upcastRules, derivedFrom, List.map_map, List.mem_map,
      List.mem_filter, decide_eq_true_eq, Function.comp_apply] at hpair
    obtain ⟨base, hbase, kind, ⟨hkind, hderived⟩, rfl⟩ := hpair
    obtain ⟨other, hother, hpair'⟩ := List.mem_flatMap.mp hpair'
    obtain ⟨rule, hrule, heq⟩ := List.mem_map.mp hpair'
    obtain ⟨hsource, htarget⟩ := Prod.mk.inj heq
    have hsame : other = kind := h.distinctNames.eq_of_name_eq hother hkind
      ((source_of_mem_rulesFrom hrule).symm.trans hsource)
    obtain ⟨_, rfl | ⟨_, _, _, hnotBase, _⟩⟩ := mem_rulesFrom_iff.mp hrule
    · obtain ⟨hmem, _, hroot, _⟩ := mem_valueBases.mp hbase
      exact (h.isRoot_eq_false_iff hmem).mp hroot htarget.symm
    · rw [hsame, hderived, htarget] at hnotBase
      exact hnotBase rfl

/-- **There is no rule from a kind to itself.** -/
theorem source_ne_target (h : Accepts declarations grammar)
    (hrule : rule ∈ grammar.conversionRules) : rule.source ≠ rule.target := by
  rcases mem_conversionRules_iff.mp hrule with
    ⟨base, hbase, kind, hkind, hderived, rfl⟩ | ⟨kind, hkind, hrule⟩
  · obtain ⟨hmem, _, hroot, hnotCollection⟩ := mem_valueBases.mp hbase
    rw [h.isRoot_eq_false_iff hmem] at hroot
    intro (hname : kind.name = base.name)
    have hedge := h.conforms_base hkind (hname ▸ hnotCollection) hderived hroot hnotCollection
    rw [← hname] at hedge
    exact h.acyclic_conforms _ (.single hedge)
  · obtain ⟨⟨hroot, _⟩, rfl | ⟨via, hfound, _, _, hsource, _⟩⟩ := mem_rulesFrom_iff.mp hrule
    · exact (h.isRoot_eq_false_iff hkind).mp hroot
    · intro heq
      rw [← heq, hsource] at hfound
      exact h.acyclic_conforms _ (h.mem_reachable_iff.mp (List.mem_map_of_mem hfound))

/-! ## Rules to what is reached -/

section Reached

variable (h : Accepts declarations grammar)
  (hlisted : ∀ entry ∈ declarations.expressibleAs, collectionBaseName ∉ entry.2)

include h in
/-- Every kind but the root and the base of collections becomes a value of the root. -/
lemma converts_root (hkind : kind ∈ grammar.kinds) (hcollection : kind.name ≠ collectionBaseName) :
    grammar.Converts kind.name rootName := by
  by_cases hroot : kind.name = rootName
  · exact Or.inl hroot
  · refine Or.inr ⟨⟨kind.name, rootName, .erase⟩, ?_, rfl, rfl⟩
    refine mem_conversionRules_iff.mpr
      (Or.inr ⟨kind, hkind, mem_rulesFrom_iff.mpr ⟨?_, Or.inl rfl⟩⟩)
    exact ⟨(h.isRoot_eq_false_iff hkind).mpr hroot, hcollection⟩

include h hlisted in
/-- A base that something conforms to has values. -/
lemma exists_valueBase_of_conforms (hkind : kind ∈ grammar.kinds) {name source : String}
    (hbase : kind.base = some name) (hroot : name ≠ rootName)
    (hedge : grammar.Conforms source name) : ∃ base ∈ grammar.valueBases, base.name = name := by
  obtain ⟨base, hmem, rfl, hisBase⟩ := h.exists_base hkind hbase
  refine ⟨base, mem_valueBases.mpr ⟨hmem, hisBase, (h.isRoot_eq_false_iff hmem).mpr hroot, ?_⟩, rfl⟩
  intro hcollection
  rw [h.isBase_eq_false_of_conforms hlisted hmem hcollection hedge] at hisBase
  exact Bool.noConfusion hisBase

/-- There is something to do for every target, as every kind but the root has a base. -/
lemma exists_ruleBody (hroot : kind.isRoot = false) (target : String) (via : Conformance) :
    ∃ body, ruleBody? kind target via = some body := by
  obtain ⟨base, hbase⟩ := Option.isSome_iff_exists.mp
    (by simpa [NodeKind.isRoot] using hroot : kind.base.isSome = true)
  rw [ruleBody?, hbase]
  split
  · exact ⟨_, rfl⟩
  · split
    · exact ⟨_, rfl⟩
    · exact ⟨_, rfl⟩

include h hlisted in
/-- **There is a rule to everything that a kind reaches.** -/
theorem converts_of_transGen {source target : String}
    (hreach : TransGen grammar.Conforms source target) : grammar.Converts source target := by
  obtain ⟨first, hfirst, _⟩ := TransGen.head'_iff.mp hreach
  obtain ⟨kind, hkind, rfl⟩ := h.exists_kind_of_conforms hfirst
  obtain ⟨hroot, hcollection⟩ := h.not_root_of_conforms hfirst
  by_cases htarget : target = rootName
  · rw [htarget]
    exact converts_root h hkind hcollection
  · right
    by_cases hbase : kind.base = some target
    · obtain ⟨_, _, hlast⟩ := TransGen.tail'_iff.mp hreach
      obtain ⟨base, hmem, rfl⟩ := exists_valueBase_of_conforms h hlisted hkind hbase htarget hlast
      refine ⟨⟨kind.name, base.name, .upcast⟩, ?_, rfl, rfl⟩
      exact mem_conversionRules_iff.mpr (Or.inl ⟨base, hmem, kind, hkind, hbase, rfl⟩)
    · have hnotRoot := (h.isRoot_eq_false_iff hkind).mpr hroot
      obtain ⟨⟨_, via⟩, hfound, rfl⟩ := List.mem_map.mp (h.mem_reachable_iff.mpr hreach)
      obtain ⟨body, hbody⟩ := exists_ruleBody hnotRoot _ via
      refine ⟨⟨kind.name, _, body⟩, ?_, rfl, rfl⟩
      exact mem_conversionRules_iff.mpr (Or.inr ⟨kind, hkind, mem_rulesFrom_iff.mpr
        ⟨⟨hnotRoot, hcollection⟩, Or.inr ⟨via, hfound, htarget, hbase, rfl, hbody⟩⟩⟩)

end Reached

end Grammar

end SyntaxForge
