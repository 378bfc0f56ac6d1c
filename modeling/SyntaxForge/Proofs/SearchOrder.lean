import SyntaxForge.Grammar.Builtin
import SyntaxForge.Proofs.ConformanceGraph
import Mathlib.Order.Lattice.Nat

/-!
# The order of a breadth-first search

`level next source n` holds what `n` steps lead to, and `distance` is the least number of steps that
lead somewhere.  `explore` finds in its `n`-th round exactly what has distance `n`:

* `IsRound` is what holds of the frontier and of the vertices seen when a round starts, and
  `IsRound.succ` is the step from one round to the next;
* `IsRound.pairwise_distance` is the run: **vertices are listed in the order of their distance**;
* `explore_eq_of_le`: the search ends by itself, because once the vertices are all seen it makes no
  difference how many rounds are left.

**`reachable_nearest_first`** puts together what `Grammar.reachable` lists for a kind: everything
the kind converts to, once, nearest first, with the one conformance that the conversion may go
through.
-/

namespace SyntaxForge

open Relation

/-! ## Distance -/

/-- What a number of steps lead to from a vertex. -/
def level (next : String → List String) (source : String) : Nat → List String
  | 0 => [source]
  | steps + 1 => (level next source steps).flatMap next

/-- The least number of steps that lead from one vertex to another. -/
noncomputable def distance (next : String → List String) (source target : String) : Nat :=
  sInf {steps | target ∈ level next source steps}

section Search

variable {τ : Type} {next : String → List String} {source : String}

lemma distance_eq {target : String} {steps : Nat} (htarget : target ∈ level next source steps)
    (hleast : ∀ fewer < steps, target ∉ level next source fewer) :
    distance next source target = steps := by
  refine le_antisymm (Nat.sInf_le htarget) (le_csInf ⟨steps, htarget⟩ ?_)
  intro other hother
  by_contra hless
  exact hleast other (not_le.mp hless) hother

/-! ## Rounds -/

/-- When a search has gone on for some rounds, the frontier is one step further away, nothing
nearer is left unseen, and what the seen vertices lead to is seen or in the frontier. -/
structure IsRound (next : String → List String) (source : String) (rounds : Nat)
    (frontier : List (String × τ)) (seen : List String) : Prop where
  ahead : ∀ entry ∈ frontier, entry.1 ∈ level next source (rounds + 1)
  nearer : ∀ steps ≤ rounds, ∀ vertex ∈ level next source steps, vertex ∈ seen
  closed : ∀ vertex ∈ seen, ∀ found ∈ next vertex, found ∈ seen ∨ found ∈ frontier.map Prod.fst

namespace IsRound

variable {rounds : Nat} {frontier : List (String × τ)} {seen : List String}

/-- A search starts with the successors of its source. -/
lemma start (hfrontier : frontier.map Prod.fst = next source) :
    IsRound next source 0 frontier [source] where
  ahead := by
    intro entry hentry
    have hstep : entry.1 ∈ next source := hfrontier ▸ List.mem_map_of_mem hentry
    simpa [level] using hstep
  nearer := by
    intro steps hsteps vertex hvertex
    rw [Nat.le_zero.mp hsteps] at hvertex
    exact hvertex
  closed := by
    intro vertex hvertex found hfound
    rw [List.mem_singleton] at hvertex
    exact Or.inr (hfrontier ▸ hvertex ▸ hfound)

/-- A vertex of the frontier was seen before, or this round lists it. -/
lemma seen_or_fresh (h : IsRound next source rounds frontier seen) {vertex found : String}
    (hvertex : vertex ∈ seen) (hfound : found ∈ next vertex) :
    found ∈ (keepFirst Prod.fst seen frontier).map Prod.fst ++ seen := by
  rw [List.mem_append]
  rcases h.closed vertex hvertex found hfound with hseen | hfrontier
  · exact Or.inr hseen
  · obtain ⟨entry, hentry, rfl⟩ := List.mem_map.mp hfrontier
    exact (mem_keys_keepFirst Prod.fst seen hentry).symm

/-- **One round leads to the next.** -/
theorem succ (h : IsRound next source rounds frontier seen) :
    IsRound next source (rounds + 1)
      ((keepFirst Prod.fst seen frontier).flatMap fun (vertex, tag) =>
        (next vertex).map fun found => (found, tag))
      ((keepFirst Prod.fst seen frontier).map Prod.fst ++ seen) where
  ahead := by
    intro entry hentry
    obtain ⟨vertex, hvertex, hstep⟩ := mem_successors.mp hentry
    exact List.mem_flatMap.mpr ⟨vertex, h.ahead _ (mem_of_mem_keepFirst hvertex).1, hstep⟩
  nearer := by
    intro steps hsteps vertex hvertex
    rcases Nat.le_succ_iff.mp hsteps with hsteps | rfl
    · exact List.mem_append_right _ (h.nearer steps hsteps vertex hvertex)
    · -- the last step comes from a vertex that is nearer, and so seen before this round
      obtain ⟨last, hlast, hstep⟩ := List.mem_flatMap.mp hvertex
      exact h.seen_or_fresh (h.nearer rounds le_rfl last hlast) hstep
  closed := by
    intro vertex hvertex found hfound
    rcases List.mem_append.mp hvertex with hvertex | hvertex
    · obtain ⟨⟨vertex, tag⟩, hentry, rfl⟩ := List.mem_map.mp hvertex
      exact Or.inr (List.mem_map.mpr
        ⟨(found, tag), mem_successors.mpr ⟨vertex, hentry, hfound⟩, rfl⟩)
    · exact Or.inl (h.seen_or_fresh hvertex hfound)

/-- A round lists what is one step further away than the rounds before it. -/
lemma distance_eq_of_fresh (h : IsRound next source rounds frontier seen) {found : String × τ}
    (hfound : found ∈ keepFirst Prod.fst seen frontier) :
    distance next source found.1 = rounds + 1 := by
  obtain ⟨hfrontier, hnew⟩ := mem_of_mem_keepFirst hfound
  refine distance_eq (h.ahead found hfrontier) ?_
  intro fewer hfewer hlevel
  exact hnew (h.nearer fewer (Nat.lt_succ_iff.mp hfewer) _ hlevel)

/-- What is listed from a round on is further away than what was listed before it. -/
lemma lt_distance : ∀ {more rounds : Nat} {frontier : List (String × τ)} {seen : List String},
    IsRound next source rounds frontier seen →
      ∀ found ∈ explore next more frontier seen, rounds < distance next source found.1
  | 0, _, _, _, _, found, hfound => by simp [explore] at hfound
  | more + 1, rounds, frontier, seen, h, found, hfound => by
      rw [explore] at hfound
      rcases List.mem_append.mp hfound with hfound | hfound
      · rw [h.distance_eq_of_fresh hfound]
        exact Nat.lt_succ_self rounds
      · exact (Nat.lt_succ_self rounds).trans (lt_distance h.succ found hfound)

/-- **Vertices are listed in the order of their distance.** -/
theorem pairwise_distance :
    ∀ {more rounds : Nat} {frontier : List (String × τ)} {seen : List String},
      IsRound next source rounds frontier seen →
        (explore next more frontier seen).Pairwise fun a b =>
          distance next source a.1 ≤ distance next source b.1
  | 0, _, _, _, _ => by simp [explore]
  | more + 1, rounds, frontier, seen, h => by
      rw [explore, List.pairwise_append]
      refine ⟨?_, pairwise_distance h.succ, ?_⟩
      · refine List.pairwise_of_forall_mem_list fun a ha b hb => ?_
        rw [h.distance_eq_of_fresh ha, h.distance_eq_of_fresh hb]
      · intro a ha b hb
        rw [h.distance_eq_of_fresh ha]
        exact (lt_distance h.succ b hb).le

end IsRound

/-! ## The end of a search -/

/-- Nothing is found from a frontier that was seen before. -/
lemma explore_eq_nil {frontier : List (String × τ)} {seen : List String}
    (h : keepFirst Prod.fst seen frontier = []) :
    ∀ rounds, explore next rounds frontier seen = []
  | 0 => rfl
  | rounds + 1 => by
      rw [explore, h]
      simp

/-- When every vertex is seen, a round finds nothing. -/
lemma keepFirst_eq_nil_of_card {vertices seen : List String} {frontier : List (String × τ)}
    (hfrontier : ∀ entry ∈ frontier, entry.1 ∈ vertices)
    (hcard : (vertices.toFinset \ seen.toFinset).card = 0) :
    keepFirst Prod.fst seen frontier = [] := by
  rw [List.eq_nil_iff_forall_not_mem]
  intro entry hentry
  obtain ⟨hmem, hnew⟩ := mem_of_mem_keepFirst hentry
  have hunseen : entry.1 ∈ vertices.toFinset \ seen.toFinset := by
    simp [hfrontier entry hmem, hnew]
  simp [Finset.card_eq_zero.mp hcard] at hunseen

/-- **The search ends by itself.**  When the rounds suffice for the vertices that are not seen yet,
more of them find nothing more. -/
theorem explore_eq_of_le {vertices : List String} (hnext : ∀ v, ∀ w ∈ next v, w ∈ vertices) :
    ∀ {rounds more : Nat} {frontier : List (String × τ)} {seen : List String},
      (∀ entry ∈ frontier, entry.1 ∈ vertices) →
      (vertices.toFinset \ seen.toFinset).card ≤ rounds → rounds ≤ more →
      explore next more frontier seen = explore next rounds frontier seen
  | 0, more, frontier, seen, hfrontier, hcard, _ => by
      have hfresh := keepFirst_eq_nil_of_card hfrontier (Nat.le_zero.mp hcard)
      rw [explore_eq_nil hfresh, explore_eq_nil hfresh]
  | rounds + 1, more + 1, frontier, seen, hfrontier, hcard, hle => by
      by_cases hfresh : keepFirst Prod.fst seen frontier = []
      · rw [explore_eq_nil hfresh, explore_eq_nil hfresh]
      · have hcard' := card_unseen_le_of_fresh hfrontier hcard hfresh
        have hsuccessors : ∀ entry ∈ (keepFirst Prod.fst seen frontier).flatMap
            (fun (vertex, tag) => (next vertex).map fun found => (found, tag)),
            entry.1 ∈ vertices := by
          intro entry hentry
          obtain ⟨vertex, _, hstep⟩ := mem_successors.mp hentry
          exact hnext vertex _ hstep
        rw [explore, explore,
          explore_eq_of_le hnext hsuccessors hcard' (Nat.le_of_succ_le_succ hle)]

end Search

/-! ## Everything that a kind converts to -/

namespace Grammar

variable {declarations : Declarations} {grammar : Grammar}

/-- The direct conformances of a kind, by their targets: where the search for everything that it
converts to starts. -/
def firstSteps (grammar : Grammar) (name : String) : List (String × Conformance) :=
  (grammar.conformances name).map fun conformance => (conformance.target, conformance)

lemma map_fst_firstSteps (grammar : Grammar) (name : String) :
    (grammar.firstSteps name).map Prod.fst = grammar.targets name := by
  simp [firstSteps, targets]

/-- A kind has one conformance to each target. -/
lemma Tabulates.eq_of_target_eq (h : Tabulates declarations grammar) {name : String}
    {a b : Conformance} (ha : a ∈ grammar.conformances name) (hb : b ∈ grammar.conformances name)
    (htarget : a.target = b.target) : a = b :=
  List.inj_on_of_nodup_map (h.nodup_targets name) ha hb htarget

/-- Of the direct conformances, the one that an entry carries is the one to its target, if there is
one, and the only one behind whose target it is found otherwise. -/
lemma Accepts.via_unique (h : Accepts declarations grammar) {name target : String}
    {via : Conformance} (hfound : (target, via) ∈ grammar.reachable name) :
    (grammar.Conforms name target →
        ∀ direct ∈ grammar.conformances name, direct.target = target ↔ direct = via)
      ∧ (¬ grammar.Conforms name target →
        ∀ direct ∈ grammar.conformances name,
          TransGen grammar.Conforms direct.target target ↔ direct = via) := by
  obtain ⟨hvia, hreach, htarget⟩ := Accepts.reachable_via hfound
  constructor
  · intro hedge direct hdirect
    constructor
    · intro heq
      exact h.eq_of_target_eq hdirect hvia (heq.trans (htarget hedge).symm)
    · rintro rfl
      exact htarget hedge
  · intro hnot direct hdirect
    have hbehind : TransGen grammar.Conforms via.target target := by
      rcases reflTransGen_iff_eq_or_transGen.mp hreach with heq | hreach
      · exact absurd (heq ▸ conforms_of_mem hvia) hnot
      · exact hreach
    constructor
    · intro hdirectReach
      refine h.eq_of_target_eq hdirect hvia ?_
      exact h.unambiguous_conforms (conforms_of_mem hdirect) (conforms_of_mem hvia) hdirectReach
        hbehind hnot
    · rintro rfl
      exact hbehind

/-- **What a kind converts to, nearest first.**  In an accepted grammar the search from a kind ends
by itself, however many rounds it may take.  It lists each kind that is reached by one or more
conformances once, and never the kind it starts from, in the order of the least number of
conformances that lead there.  An entry carries a direct conformance: the one to the kind it lists,
or, if there is none, the only one from whose target that kind is reached. -/
theorem reachable_nearest_first (h : ofDeclarations declarations = .ok grammar) (name : String) :
    (∀ rounds, grammar.kinds.length ≤ rounds →
        explore grammar.targets rounds (grammar.firstSteps name) [name] = grammar.reachable name)
      ∧ ((grammar.reachable name).map Prod.fst).Nodup
      ∧ name ∉ (grammar.reachable name).map Prod.fst
      ∧ (∀ target, target ∈ (grammar.reachable name).map Prod.fst
          ↔ TransGen grammar.Conforms name target)
      ∧ ((grammar.reachable name).Pairwise fun a b =>
          distance grammar.targets name a.1 ≤ distance grammar.targets name b.1)
      ∧ ∀ target via, (target, via) ∈ grammar.reachable name →
        via ∈ grammar.conformances name
          ∧ (grammar.Conforms name target →
            ∀ direct ∈ grammar.conformances name, direct.target = target ↔ direct = via)
          ∧ (¬ grammar.Conforms name target →
            ∀ direct ∈ grammar.conformances name,
              TransGen grammar.Conforms direct.target target ↔ direct = via) := by
  have haccepts := accepts_of_ofDeclarations h
  have hstart := IsRound.start (grammar.map_fst_firstSteps name)
  refine ⟨?_, nodup_keys_explore _ _ _ _, ?_, fun target => haccepts.mem_reachable_iff,
    hstart.pairwise_distance, ?_⟩
  · intro rounds hrounds
    refine explore_eq_of_le haccepts.targets_subset ?_ ?_ hrounds
    · intro entry hentry
      refine haccepts.targets_subset name _ ?_
      rw [← grammar.map_fst_firstSteps]
      exact List.mem_map_of_mem hentry
    · calc _ ≤ (grammar.kinds.map NodeKind.name).toFinset.card :=
            Finset.card_le_card Finset.sdiff_subset
        _ ≤ (grammar.kinds.map NodeKind.name).length := List.toFinset_card_le _
        _ = grammar.kinds.length := List.length_map _
  · intro hname
    exact haccepts.acyclic_conforms name (haccepts.mem_reachable_iff.mp hname)
  · intro target via hfound
    exact ⟨(Accepts.reachable_via hfound).1, haccepts.via_unique hfound⟩

/-- A number is a literal, which is an expression, and an item wraps any expression.  Numbers are
listed as items too, so that two ways of different length lead from a number to an item. -/
def numberDeclarations : Declarations where
  tokens := []
  kinds :=
    [Builtin.root, Builtin.exprBase, Builtin.base "Literal" "Expr",
     Builtin.node "Number" "Literal" [],
     Builtin.node "Item" rootName [Builtin.child "Content" "Expr"]]
  expressibleAs := [("Number", ["Item"])]

/-- The grammar with its conformances. -/
def numberGrammar : Grammar where
  toCatalog := numberDeclarations.toCatalog
  conformanceTable :=
    [("Syntax", []), ("Expr", [⟨"Item", .wrap "Content"⟩]), ("Literal", [⟨"Expr", .upcast⟩]),
     ("Number", [⟨"Literal", .upcast⟩, ⟨"Item", .wrap "Content"⟩]), ("Item", [])]

theorem reachable_nearest_first_number :
    numberGrammar.reachable "Number"
        = [("Literal", ⟨"Literal", .upcast⟩), ("Item", ⟨"Item", .wrap "Content"⟩),
           ("Expr", ⟨"Literal", .upcast⟩)]
      ∧ ((numberGrammar.reachable "Number").Pairwise fun a b =>
          distance numberGrammar.targets "Number" a.1 ≤ distance numberGrammar.targets "Number" b.1)
      ∧ ∀ direct ∈ numberGrammar.conformances "Number",
          TransGen numberGrammar.Conforms direct.target "Expr" ↔ direct = ⟨"Literal", .upcast⟩ := by
  have haccepted : ofDeclarations numberDeclarations = .ok numberGrammar := by decide +kernel
  obtain ⟨_, _, _, _, horder, hvia⟩ := reachable_nearest_first haccepted "Number"
  have hnot : "Expr" ∉ numberGrammar.targets "Number" := by decide +kernel
  refine ⟨by decide +kernel, horder, ?_⟩
  exact (hvia "Expr" ⟨"Literal", .upcast⟩ (by decide +kernel)).2.2 hnot

end Grammar

end SyntaxForge
