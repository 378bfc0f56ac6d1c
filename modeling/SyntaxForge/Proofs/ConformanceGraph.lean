import SyntaxForge.Proofs.Acceptance
import Mathlib.Data.List.Pairwise
import Mathlib.Order.WellFounded

/-!
# The graph of conformances

The direct conformances of a grammar are the edges of a graph on the names of its kinds.

* `Tabulates.isOnCycle_iff`, `Tabulates.reachesTwice_of_ambiguousTarget?` and
  `Tabulates.not_reachesTwice_of_ambiguousTarget?`: the two searches behind the checks are exact.
* `Accepts.acyclic_conforms` and `Accepts.unambiguous_conforms` say what the two checks of an
  accepted grammar mean for paths: **no path leads back, and what is not a direct conformance is
  reached through one direct conformance only**.
* `Accepts.wellFounded_conforms`: one may argue by induction along the edges.
* `existsUnique_nearest`: in such a graph everything that is reached has **one nearest source** for
  its last step.
* `Accepts.mem_reachable_iff` and `Accepts.reachable_via` say what the search for everything a kind
  converts to finds.
-/

namespace SyntaxForge

open Relation

/-! ## Nearest sources -/

section Nearest

variable {α : Type} {Edge : α → α → Prop}

/-- `source` is reached from `start`, has an edge to `target`, and no other such vertex leads to
it. -/
structure IsNearest (Edge : α → α → Prop) (start target source : α) : Prop where
  reached : ReflTransGen Edge start source
  edge : Edge source target
  unshadowed : ∀ other, ReflTransGen Edge start other → Edge other target →
    ¬ TransGen Edge other source

/-- A start with an edge to the target is its nearest source. -/
lemma isNearest_iff_eq_of_edge (hacyclic : ∀ v, ¬ TransGen Edge v v) {start target source : α}
    (hedge : Edge start target) : IsNearest Edge start target source ↔ source = start := by
  constructor
  · intro h
    by_contra hne
    rcases reflTransGen_iff_eq_or_transGen.mp h.reached with heq | hreach
    · exact hne heq
    · exact h.unshadowed start .refl hedge hreach
  · rintro rfl
    refine ⟨.refl, hedge, ?_⟩
    intro other hother _ hback
    exact hacyclic _ (TransGen.trans_left hback hother)

/-- If only one edge of the start leads towards the target, its nearest sources are those of that
edge. -/
lemma isNearest_iff_of_unique_edge {start first target source : α} (hfirst : Edge start first)
    (hnot : ¬ Edge start target)
    (hunique : ∀ other, Edge start other → TransGen Edge other target → other = first) :
    IsNearest Edge start target source ↔ IsNearest Edge first target source := by
  -- a vertex with an edge to the target is not the start, so that it lies behind the first edge
  have hbehind : ∀ v, ReflTransGen Edge start v → Edge v target → ReflTransGen Edge first v := by
    intro v hreach hedge
    rcases ReflTransGen.cases_head hreach with rfl | ⟨other, hother, hreach⟩
    · exact absurd hedge hnot
    · rw [← hunique other hother (TransGen.tail' hreach hedge)]
      exact hreach
  constructor
  · intro h
    refine ⟨hbehind _ h.reached h.edge, h.edge, ?_⟩
    intro other hother hedge
    exact h.unshadowed other (.head hfirst hother) hedge
  · intro h
    refine ⟨.head hfirst h.reached, h.edge, ?_⟩
    intro other hother hedge
    exact h.unshadowed other (hbehind _ hother hedge) hedge

/-- **What is reached has exactly one nearest source**, in a graph without cycles in which two edges
of a vertex lead to the same place only if the vertex has an edge to it. -/
theorem existsUnique_nearest (hwell : WellFounded fun v w => Edge w v)
    (hunambiguous : ∀ {start d₁ d₂ target}, Edge start d₁ → Edge start d₂ →
      TransGen Edge d₁ target → TransGen Edge d₂ target → ¬ Edge start target → d₁ = d₂)
    {start target : α} (h : TransGen Edge start target) :
    ∃! source, IsNearest Edge start target source := by
  have hacyclic : ∀ v, ¬ TransGen Edge v v := by
    intro v hv
    exact hwell.transGen.irrefl.irrefl v (transGen_swap.mpr hv)
  induction start using hwell.induction with
  | _ start ih =>
      by_cases hedge : Edge start target
      · exact ⟨start, (isNearest_iff_eq_of_edge hacyclic hedge).mpr rfl,
          fun _ => (isNearest_iff_eq_of_edge hacyclic hedge).mp⟩
      · obtain ⟨first, hfirst, hreach⟩ := TransGen.head'_iff.mp h
        have hreach : TransGen Edge first target := by
          rcases reflTransGen_iff_eq_or_transGen.mp hreach with rfl | hreach
          · exact absurd hfirst hedge
          · exact hreach
        have hunique : ∀ other, Edge start other → TransGen Edge other target → other = first :=
          fun other hother hreach' => hunambiguous hother hfirst hreach' hreach hedge
        simp only [isNearest_iff_of_unique_edge hfirst hedge hunique]
        exact ih first hfirst hreach

end Nearest

namespace Grammar

/-- A kind conforms to a target directly. -/
abbrev Conforms (grammar : Grammar) : String → String → Prop := Step grammar.targets

lemma conforms_of_mem {grammar : Grammar} {source : String} {conformance : Conformance}
    (h : conformance ∈ grammar.conformances source) :
    grammar.Conforms source conformance.target :=
  List.mem_map_of_mem h

/-- A list shares nothing with one that comes later. -/
lemma disjoint_of_firstShared_eq_none : ∀ {lists : List (List String)} {earlier : List String},
    firstShared earlier lists = none →
      lists.Pairwise List.Disjoint ∧ ∀ names ∈ lists, earlier.Disjoint names
  | [], _, _ => by simp
  | names :: rest, earlier, h => by
      rw [firstShared] at h
      split at h
      · simp at h
      · next hnone =>
          obtain ⟨hpairwise, hrest⟩ := disjoint_of_firstShared_eq_none h
          have hnames : earlier.Disjoint names := by
            intro name hearlier hname
            simpa [hearlier] using List.find?_eq_none.mp hnone name hname
          refine ⟨List.pairwise_cons.mpr ⟨?_, hpairwise⟩, ?_⟩
          · intro other hother
            exact (List.disjoint_append_left.mp (hrest other hother)).2
          · intro other hother
            rcases List.mem_cons.mp hother with rfl | hother
            · exact hnames
            · exact (List.disjoint_append_left.mp (hrest other hother)).1

/-- A shared name stands in a list and in an earlier one. -/
lemma exists_of_firstShared_eq_some {name : String} :
    ∀ {lists : List (List String)} {earlier : List String},
      firstShared earlier lists = some name →
        ∃ front names back, lists = front ++ names :: back ∧ name ∈ names
          ∧ name ∈ earlier ++ front.flatten
  | [], _, h => by simp [firstShared] at h
  | names :: rest, earlier, h => by
      rw [firstShared] at h
      split at h
      · next found hfound =>
          cases h
          have hearlier := List.find?_some hfound
          exact ⟨[], names, rest, rfl, List.mem_of_find?_eq_some hfound, by simpa using hearlier⟩
      · obtain ⟨front, others, back, rfl, hothers, hname⟩ := exists_of_firstShared_eq_some h
        exact ⟨names :: front, others, back, rfl, hothers, by simpa using hname⟩

end Grammar

/-- A target is reached through two edges of a vertex that has no edge to it. -/
def ReachesTwice (Edge : String → String → Prop) (source target : String) : Prop :=
  ¬ Edge source target ∧ ∃ d₁ d₂, d₁ ≠ d₂ ∧ Edge source d₁ ∧ Edge source d₂
    ∧ ReflTransGen Edge d₁ target ∧ ReflTransGen Edge d₂ target

namespace Grammar.Tabulates

variable {declarations : Declarations} {grammar : Grammar}

/-! ## Edges -/

/-- Only declared kinds have conformances. -/
lemma exists_kind_of_conforms (h : Tabulates declarations grammar) {source target : String}
    (hedge : grammar.Conforms source target) : ∃ kind ∈ grammar.kinds, kind.name = source := by
  have hne : source ∈ grammar.kinds.map NodeKind.name := by
    by_contra hnot
    rw [Conforms, Step, targets, h.conformances_eq_nil hnot] at hedge
    simp at hedge
  exact List.mem_map.mp hne

/-- What a kind conforms to is declared. -/
lemma exists_target (h : Tabulates declarations grammar) {kind : NodeKind}
    (hkind : kind ∈ grammar.kinds) {conformance : Conformance}
    (hmem : conformance ∈ grammar.conformances kind.name) :
    ∃ target ∈ grammar.kinds, target.name = conformance.target := by
  obtain ⟨_, _, hcase⟩ := h.conformance_cases hkind hmem
  rcases hcase with hbase | ⟨_, hlisted⟩ | ⟨target, htarget, hwrapper⟩
  · rw [Catalog.baseConformance?_eq_some_iff] at hbase
    obtain ⟨base, hmem, hname, _⟩ := h.exists_base hkind hbase.1
    exact ⟨base, hmem, hname⟩
  · obtain ⟨_, target, hfound, _⟩ := Catalog.listedConformance_cases hlisted
    obtain ⟨hmem, hname⟩ := Catalog.mem_and_name_of_kind? hfound
    exact ⟨target, hmem, hname⟩
  · exact ⟨target, List.mem_of_mem_filter htarget,
      (Catalog.wrapperConformance?_cases hwrapper).1.symm⟩

lemma targets_subset (h : Tabulates declarations grammar) (source : String) :
    ∀ target ∈ grammar.targets source, target ∈ grammar.kinds.map NodeKind.name := by
  intro target htarget
  obtain ⟨kind, hkind, rfl⟩ := h.exists_kind_of_conforms htarget
  obtain ⟨conformance, hmem, rfl⟩ := List.mem_map.mp htarget
  obtain ⟨found, hfound, hname⟩ := h.exists_target hkind hmem
  exact List.mem_map.mpr ⟨found, hfound, hname⟩

/-- A kind has at most one conformance to each target. -/
lemma nodup_targets (h : Tabulates declarations grammar) (name : String) :
    (grammar.targets name).Nodup := by
  by_cases hname : name ∈ grammar.kinds.map NodeKind.name
  · obtain ⟨kind, hkind, rfl⟩ := List.mem_map.mp hname
    have hdirect := h.directConformances_eq hkind
    rw [Catalog.directConformances] at hdirect
    split at hdirect
    · simp only [Except.ok.injEq] at hdirect
      simp [targets, ← hdirect]
    · rw [bind_eq_ok_iff] at hdirect
      obtain ⟨listed, _, hdirect⟩ := hdirect
      rw [pure_eq_ok_iff] at hdirect
      rw [targets, ← hdirect]
      exact nodup_keys_keepFirst _ _ _
  · simp [targets, h.conformances_eq_nil hname]

/-- A kind with a conformance is neither the root nor the base of collections. -/
lemma not_root_of_conforms (h : Tabulates declarations grammar) {source target : String}
    (hedge : grammar.Conforms source target) :
    source ≠ rootName ∧ source ≠ collectionBaseName := by
  obtain ⟨kind, hkind, rfl⟩ := h.exists_kind_of_conforms hedge
  obtain ⟨conformance, hmem, _⟩ := List.mem_map.mp hedge
  obtain ⟨hroot, hcollection, _⟩ := h.conformance_cases hkind hmem
  exact ⟨(h.isRoot_eq_false_iff hkind).mp hroot, hcollection⟩

/-- A kind conforms to its base, unless that is the root or the base of collections. -/
lemma conforms_base (h : Tabulates declarations grammar) {kind : NodeKind}
    (hkind : kind ∈ grammar.kinds) (hname : kind.name ≠ collectionBaseName) {base : String}
    (hbase : kind.base = some base) (hroot : base ≠ rootName)
    (hcollection : base ≠ collectionBaseName) : grammar.Conforms kind.name base := by
  have hdirect := h.directConformances_eq hkind
  have hnotRoot : kind.isRoot = false := by simp [NodeKind.isRoot, hbase]
  rw [Catalog.directConformances, if_neg (by simp [hnotRoot, hname]), bind_eq_ok_iff] at hdirect
  obtain ⟨listed, _, hdirect⟩ := hdirect
  rw [pure_eq_ok_iff] at hdirect
  have hconformance : Catalog.baseConformance? kind = some ⟨base, .upcast⟩ :=
    Catalog.baseConformance?_eq_some_iff.mpr ⟨hbase, hroot, hcollection, rfl⟩
  rw [Conforms, Step, targets, ← hdirect, hconformance]
  simp [keepFirst]

/-- The base of collections is a target only if it wraps values, unless it is listed as one. -/
lemma isBase_eq_false_of_conforms (h : Tabulates declarations grammar)
    (hlisted : ∀ entry ∈ declarations.expressibleAs, collectionBaseName ∉ entry.2)
    {source : String} {target : NodeKind} (htarget : target ∈ grammar.kinds)
    (hname : target.name = collectionBaseName) (hedge : grammar.Conforms source target.name) :
    target.isBase = false := by
  obtain ⟨kind, hkind, rfl⟩ := h.exists_kind_of_conforms hedge
  obtain ⟨conformance, hmem, heq⟩ := List.mem_map.mp hedge
  obtain ⟨_, _, hcase⟩ := h.conformance_cases hkind hmem
  rcases hcase with hbase | ⟨hlist, _⟩ | ⟨wrapper, hwrapper, hconformance⟩
  · exact absurd (heq.trans hname) (Catalog.baseConformance?_eq_some_iff.mp hbase).2.2.1
  · obtain ⟨entry, hentry, hlist⟩ := List.mem_flatMap.mp hlist
    rw [heq, hname] at hlist
    exact absurd hlist (hlisted entry (List.mem_of_mem_filter hentry))
  · obtain ⟨hwrapper, hconcrete⟩ := List.mem_filter.mp hwrapper
    have hwrapperName := (Catalog.wrapperConformance?_cases hconformance).1
    rw [h.distinctNames.eq_of_name_eq htarget hwrapper (heq.symm.trans hwrapperName)]
    exact NodeKind.isBase_eq_false_of_isConcrete hconcrete

/-! ## Paths -/

/-- The search behind the checks finds what a kind reaches. -/
lemma mem_below_iff (h : Tabulates declarations grammar) {source target : String} :
    target ∈ grammar.below source ↔ TransGen grammar.Conforms source target := by
  have hfrontier : ((grammar.targets source).map fun target => (target, ())).map Prod.fst
      = grammar.targets source := by
    simp [Function.comp_def]
  rw [below, mem_keys_explore_iff h.targets_subset (by simp) hfrontier (by simp)]
  simp

/-- A kind is found to lie on a cycle exactly if it does. -/
lemma isOnCycle_iff (h : Tabulates declarations grammar) {kind : NodeKind} :
    grammar.isOnCycle kind = true ↔ TransGen grammar.Conforms kind.name kind.name := by
  rw [isOnCycle, decide_eq_true_iff, h.mem_below_iff]

/-- What lies below an edge, the end of the edge aside, is found below it. -/
lemma mem_below_of_reflTransGen (h : Tabulates declarations grammar)
    {source target direct : String} (hedge : grammar.Conforms source direct)
    (hnot : ¬ grammar.Conforms source target)
    (hreach : ReflTransGen grammar.Conforms direct target) : target ∈ grammar.below direct := by
  rcases reflTransGen_iff_eq_or_transGen.mp hreach with rfl | hreach
  · exact absurd hedge hnot
  · exact h.mem_below_iff.mpr hreach

/-- A reported target is reached through two conformances. -/
lemma reachesTwice_of_ambiguousTarget? (h : Tabulates declarations grammar) {kind : NodeKind}
    {target : String} (hfound : grammar.ambiguousTarget? kind = some target) :
    ReachesTwice grammar.Conforms kind.name target := by
  obtain ⟨front, names, back, hlists, hnames, hearlier⟩ := exists_of_firstShared_eq_some hfound
  rw [List.nil_append, List.mem_flatten] at hearlier
  obtain ⟨others, hothers, htarget⟩ := hearlier
  -- the lists stand in the order of the conformances that they are found through
  obtain ⟨before, rest, hdirect, rfl, hrest⟩ := List.map_eq_append_iff.mp hlists
  obtain ⟨second, after, rfl, rfl, rfl⟩ := List.map_eq_cons_iff.mp hrest
  obtain ⟨first, hfirst, rfl⟩ := List.mem_map.mp hothers
  have hne : first ≠ second := by
    have hnodup := h.nodup_targets kind.name
    rw [hdirect, List.nodup_append] at hnodup
    exact hnodup.2.2 first hfirst second List.mem_cons_self
  have hedge₁ : grammar.Conforms kind.name first := by
    rw [Conforms, Step, hdirect]
    exact List.mem_append_left _ hfirst
  have hedge₂ : grammar.Conforms kind.name second := by
    rw [Conforms, Step, hdirect]
    exact List.mem_append_right _ List.mem_cons_self
  rw [List.mem_filter, h.mem_below_iff] at htarget hnames
  have hnot : target ∉ grammar.targets kind.name := of_decide_eq_true htarget.2
  exact ⟨hnot, first, second, hne, hedge₁, hedge₂, htarget.1.to_reflTransGen,
    hnames.1.to_reflTransGen⟩

/-- No target is missed. -/
lemma not_reachesTwice_of_ambiguousTarget? (h : Tabulates declarations grammar) {kind : NodeKind}
    (hnone : grammar.ambiguousTarget? kind = none) (target : String) :
    ¬ ReachesTwice grammar.Conforms kind.name target := by
  rintro ⟨hnot, d₁, d₂, hne, hedge₁, hedge₂, hreach₁, hreach₂⟩
  have hpairwise := (disjoint_of_firstShared_eq_none hnone).1
  rw [List.pairwise_map] at hpairwise
  have hdisjoint := @List.Pairwise.forall _ _ _ ⟨fun _ _ => List.Disjoint.symm⟩ hpairwise
    _ hedge₁ _ hedge₂ hne
  refine @hdisjoint target ?_ ?_
  · exact List.mem_filter.mpr
      ⟨h.mem_below_of_reflTransGen hedge₁ hnot hreach₁, decide_eq_true hnot⟩
  · exact List.mem_filter.mpr
      ⟨h.mem_below_of_reflTransGen hedge₂ hnot hreach₂, decide_eq_true hnot⟩

end Grammar.Tabulates

namespace Grammar.Accepts

variable {declarations : Declarations} {grammar : Grammar}

/-- **No path of conformances leads back** to where it starts. -/
theorem acyclic_conforms (h : Accepts declarations grammar) (name : String) :
    ¬ TransGen grammar.Conforms name name := by
  intro hcycle
  obtain ⟨_, hedge, _⟩ := TransGen.head'_iff.mp hcycle
  obtain ⟨kind, hkind, rfl⟩ := h.exists_kind_of_conforms hedge
  have hcheck := h.acyclic
  rw [checkCycles] at hcheck
  split at hcheck
  · simp at hcheck
  · next hnone => exact List.find?_eq_none.mp hnone kind hkind (h.isOnCycle_iff.mpr hcycle)

/-- **What is not a direct conformance is reached through one direct conformance only.** -/
theorem unambiguous_conforms (h : Accepts declarations grammar) {source d₁ d₂ target : String}
    (hedge₁ : grammar.Conforms source d₁) (hedge₂ : grammar.Conforms source d₂)
    (hreach₁ : TransGen grammar.Conforms d₁ target)
    (hreach₂ : TransGen grammar.Conforms d₂ target) (hnot : ¬ grammar.Conforms source target) :
    d₁ = d₂ := by
  obtain ⟨kind, hkind, rfl⟩ := h.exists_kind_of_conforms hedge₁
  have hcheck := h.unambiguous
  rw [checkAmbiguity] at hcheck
  split at hcheck
  · simp at hcheck
  · next hnone =>
      have hnone := List.findSome?_eq_none_iff.mp hnone kind hkind
      rw [Option.map_eq_none_iff] at hnone
      by_contra hne
      exact h.not_reachesTwice_of_ambiguousTarget? hnone target ⟨hnot, d₁, d₂, hne, hedge₁, hedge₂,
        hreach₁.to_reflTransGen, hreach₂.to_reflTransGen⟩

/-- Along an edge fewer kinds are left to reach. -/
lemma card_below_lt (h : Accepts declarations grammar) {source target : String}
    (hedge : grammar.Conforms source target) :
    (grammar.below target).toFinset.card < (grammar.below source).toFinset.card := by
  refine Finset.card_lt_card (Finset.ssubset_iff_subset_ne.mpr ⟨?_, ?_⟩)
  · intro name hname
    rw [List.mem_toFinset, h.mem_below_iff] at hname ⊢
    exact .head hedge hname
  · intro heq
    have hmem : target ∈ (grammar.below source).toFinset := by
      rw [List.mem_toFinset, h.mem_below_iff]
      exact .single hedge
    rw [← heq, List.mem_toFinset, h.mem_below_iff] at hmem
    exact h.acyclic_conforms target hmem

/-- Conformances may be followed in inductions. -/
theorem wellFounded_conforms (h : Accepts declarations grammar) :
    WellFounded fun target source => grammar.Conforms source target :=
  Subrelation.wf h.card_below_lt (measure fun name => (grammar.below name).toFinset.card).wf

/-! ## Everything that a kind converts to -/

/-- The search for everything that a kind converts to finds what it reaches. -/
lemma mem_reachable_iff (h : Accepts declarations grammar) {source target : String} :
    target ∈ (grammar.reachable source).map Prod.fst ↔ TransGen grammar.Conforms source target := by
  have hfrontier : ((grammar.conformances source).map fun conformance =>
      (conformance.target, conformance)).map Prod.fst = grammar.targets source := by
    simp [targets]
  rw [reachable, mem_keys_explore_iff h.targets_subset (by simp) hfrontier (by simp)]
  refine ⟨And.left, fun hreach => ⟨hreach, ?_⟩⟩
  rw [List.mem_singleton]
  rintro rfl
  exact h.acyclic_conforms _ hreach

/-- What is found carries the conformance that leads to it; a target of a direct conformance carries
that one. -/
lemma reachable_via {source target : String} {via : Conformance}
    (hfound : (target, via) ∈ grammar.reachable source) :
    via ∈ grammar.conformances source ∧ ReflTransGen grammar.Conforms via.target target
      ∧ (grammar.Conforms source target → via.target = target) := by
  obtain ⟨start, hstart, hreach⟩ := exists_reflTransGen_of_mem_explore hfound
  obtain ⟨conformance, hmem, heq⟩ := List.mem_map.mp hstart
  obtain ⟨rfl, rfl⟩ := Prod.mk.inj heq
  refine ⟨hmem, hreach, ?_⟩
  intro hedge
  obtain ⟨direct, hdirect, hname⟩ := List.mem_map.mp hedge
  have hfrontier := mem_frontier_of_mem_explore hfound (List.mem_map.mpr
    ⟨_, List.mem_map_of_mem hdirect, hname⟩)
  obtain ⟨conformance, _, heq⟩ := List.mem_map.mp hfrontier
  obtain ⟨rfl, rfl⟩ := Prod.mk.inj heq
  rfl

end Grammar.Accepts

end SyntaxForge
