import SyntaxForge.Grammar.Search
import Mathlib.Data.Finset.Card
import Mathlib.Data.List.Nodup
import Mathlib.Logic.Relation

/-!
# What a breadth-first search finds

`explore` lists vertices round by round.  It lists each of them once and none that was seen before
(`nodup_keys_explore`, `not_mem_seen_of_mem_explore`), every vertex it lists is reached from the
vertex of the frontier whose tag it carries (`exists_reflTransGen_of_mem_explore`), and a vertex of
the first frontier keeps its own tag (`mem_frontier_of_mem_explore`).

**`mem_keys_explore_iff`** says that nothing is missed: with as many rounds as there are vertices,
the search from the successors of a vertex finds exactly what the vertex reaches.  The induction is
on the rounds; what carries it is that a round either finds a new vertex or leaves nothing to find
(`explore_closed`).
-/

namespace SyntaxForge

open Relation

/-- One step of a graph that is given by its successors. -/
def Step (next : String → List String) (source target : String) : Prop :=
  target ∈ next source

/-! ## Keeping the first of each key -/

section KeepFirst

variable {α : Type} {key : α → String}

lemma mem_of_mem_keepFirst {a : α} : ∀ {seen : List String} {list : List α},
    a ∈ keepFirst key seen list → a ∈ list ∧ key a ∉ seen
  | _, [], h => by simp [keepFirst] at h
  | seen, b :: rest, h => by
      rw [keepFirst] at h
      split at h
      · obtain ⟨hmem, hseen⟩ := mem_of_mem_keepFirst h
        exact ⟨List.mem_cons_of_mem _ hmem, hseen⟩
      · next hb =>
          rcases List.mem_cons.mp h with rfl | h
          · exact ⟨List.mem_cons_self, hb⟩
          · obtain ⟨hmem, hseen⟩ := mem_of_mem_keepFirst h
            exact ⟨List.mem_cons_of_mem _ hmem, fun hs => hseen (List.mem_cons_of_mem _ hs)⟩

/-- No key is kept twice. -/
lemma nodup_keys_keepFirst (key : α → String) : ∀ (seen : List String) (list : List α),
    ((keepFirst key seen list).map key).Nodup
  | _, [] => by simp [keepFirst]
  | seen, b :: rest => by
      rw [keepFirst]
      split
      · exact nodup_keys_keepFirst key seen rest
      · rw [List.map_cons, List.nodup_cons]
        refine ⟨?_, nodup_keys_keepFirst key (key b :: seen) rest⟩
        intro hmem
        obtain ⟨a, ha, heq⟩ := List.mem_map.mp hmem
        exact (mem_of_mem_keepFirst ha).2 (heq ▸ List.mem_cons_self)

/-- No key is lost. -/
lemma mem_keys_keepFirst (key : α → String) {a : α} :
    ∀ (seen : List String) {list : List α}, a ∈ list →
      key a ∈ seen ∨ key a ∈ (keepFirst key seen list).map key
  | _, [], h => by simp at h
  | seen, b :: rest, h => by
      rw [keepFirst]
      rcases List.mem_cons.mp h with rfl | h
      · split
        · next hb => exact Or.inl hb
        · exact Or.inr (by simp)
      · split
        · exact mem_keys_keepFirst key seen h
        · rcases mem_keys_keepFirst key (key b :: seen) h with hs | hk
          · rcases List.mem_cons.mp hs with heq | hs
            · exact Or.inr (by simp [heq])
            · exact Or.inl hs
          · exact Or.inr (List.mem_cons_of_mem _ hk)

end KeepFirst

/-! ## Rounds of a search -/

section Explore

variable {τ : Type} {next : String → List String}

/-- The frontier of the next round: what the fresh vertices lead to. -/
lemma mem_successors {fresh : List (String × τ)} {found : String × τ} :
    (found ∈ fresh.flatMap fun (vertex, tag) => (next vertex).map fun found => (found, tag))
      ↔ ∃ vertex, (vertex, found.2) ∈ fresh ∧ found.1 ∈ next vertex := by
  simp only [List.mem_flatMap, List.mem_map, Prod.exists]
  constructor
  · rintro ⟨vertex, tag, hfresh, target, htarget, rfl⟩
    exact ⟨vertex, hfresh, htarget⟩
  · rintro ⟨vertex, hfresh, htarget⟩
    exact ⟨vertex, found.2, hfresh, found.1, htarget, rfl⟩

/-- Nothing is listed that was seen before. -/
lemma not_mem_seen_of_mem_explore {found : String × τ} :
    ∀ {rounds : Nat} {frontier : List (String × τ)} {seen : List String},
      found ∈ explore next rounds frontier seen → found.1 ∉ seen
  | 0, _, _, h => by simp [explore] at h
  | rounds + 1, frontier, seen, h => by
      rw [explore] at h
      rcases List.mem_append.mp h with h | h
      · exact (mem_of_mem_keepFirst h).2
      · intro hseen
        exact not_mem_seen_of_mem_explore h (List.mem_append_right _ hseen)

/-- Nothing is listed twice. -/
lemma nodup_keys_explore (next : String → List String) :
    ∀ (rounds : Nat) (frontier : List (String × τ)) (seen : List String),
      ((explore next rounds frontier seen).map Prod.fst).Nodup
  | 0, _, _ => by simp [explore]
  | rounds + 1, frontier, seen => by
      rw [explore, List.map_append, List.nodup_append]
      refine ⟨nodup_keys_keepFirst _ _ _, nodup_keys_explore next rounds _ _, ?_⟩
      rintro a ha b hb rfl
      obtain ⟨found, hfound, rfl⟩ := List.mem_map.mp hb
      exact not_mem_seen_of_mem_explore hfound (List.mem_append_left _ ha)

/-- **What is listed is reached** from the vertex of the frontier whose tag it carries. -/
theorem exists_reflTransGen_of_mem_explore {found : String × τ} :
    ∀ {rounds : Nat} {frontier : List (String × τ)} {seen : List String},
      found ∈ explore next rounds frontier seen →
      ∃ start, (start, found.2) ∈ frontier ∧ ReflTransGen (Step next) start found.1
  | 0, _, _, h => by simp [explore] at h
  | rounds + 1, frontier, seen, h => by
      rw [explore] at h
      rcases List.mem_append.mp h with h | h
      · exact ⟨found.1, (mem_of_mem_keepFirst h).1, .refl⟩
      · obtain ⟨start, hstart, hreach⟩ := exists_reflTransGen_of_mem_explore h
        obtain ⟨vertex, hvertex, hstep⟩ := mem_successors.mp hstart
        exact ⟨vertex, (mem_of_mem_keepFirst hvertex).1, .head hstep hreach⟩

/-- A vertex of the frontier is listed with one of the tags it has there. -/
lemma mem_frontier_of_mem_explore {rounds : Nat} {frontier : List (String × τ)}
    {seen : List String} {found : String × τ}
    (h : found ∈ explore next rounds frontier seen) (hkey : found.1 ∈ frontier.map Prod.fst) :
    found ∈ frontier := by
  cases rounds with
  | zero => simp [explore] at h
  | succ rounds =>
      rw [explore] at h
      rcases List.mem_append.mp h with h | h
      · exact (mem_of_mem_keepFirst h).1
      · -- a later round lists nothing that the first one has seen
        exfalso
        obtain ⟨entry, hentry, heq⟩ := List.mem_map.mp hkey
        have hnot := not_mem_seen_of_mem_explore h
        rw [List.mem_append, not_or] at hnot
        rcases mem_keys_keepFirst Prod.fst seen hentry with hs | hk
        · exact hnot.2 (heq ▸ hs)
        · exact hnot.1 (heq ▸ hk)

/-- Without a frontier there is nothing to find. -/
@[simp] lemma explore_nil (next : String → List String) :
    ∀ (rounds : Nat) (seen : List String), explore next rounds ([] : List (String × τ)) seen = []
  | 0, _ => rfl
  | rounds + 1, seen => by
      rw [explore, keepFirst, List.flatMap_nil, explore_nil next rounds]
      rfl

/-- Seeing a new vertex leaves fewer of them to see. -/
lemma card_unseen_lt {vertices found seen : List String} {v : String} (hv : v ∈ vertices)
    (hseen : v ∉ seen) (hfound : v ∈ found) :
    (vertices.toFinset \ (found ++ seen).toFinset).card
      < (vertices.toFinset \ seen.toFinset).card := by
  refine Finset.card_lt_card (Finset.ssubset_iff_subset_ne.mpr ⟨?_, ?_⟩)
  · intro w hw
    simp only [Finset.mem_sdiff, List.mem_toFinset, List.mem_append, not_or] at hw ⊢
    exact ⟨hw.1, hw.2.2⟩
  · intro heq
    have hmem : v ∈ vertices.toFinset \ seen.toFinset := by simp [hv, hseen]
    rw [← heq] at hmem
    simp [hfound] at hmem

/-- A round that finds anything needs one round less behind it. -/
lemma card_unseen_le_of_fresh {vertices seen : List String} {frontier : List (String × τ)}
    {rounds : Nat} (hfrontier : ∀ entry ∈ frontier, entry.1 ∈ vertices)
    (hcard : (vertices.toFinset \ seen.toFinset).card ≤ rounds + 1)
    (hfresh : keepFirst Prod.fst seen frontier ≠ []) :
    (vertices.toFinset \ ((keepFirst Prod.fst seen frontier).map Prod.fst ++ seen).toFinset).card
      ≤ rounds := by
  obtain ⟨first, hfirst⟩ := List.exists_mem_of_ne_nil _ hfresh
  obtain ⟨hmem, hnew⟩ := mem_of_mem_keepFirst hfirst
  have hlt := card_unseen_lt (hfrontier first hmem) hnew (List.mem_map_of_mem hfirst)
  omega

/-- **Enough rounds leave nothing to find.**  The vertices seen in the end include the frontier and
the successors of everything listed. -/
theorem explore_closed {vertices : List String} (hnext : ∀ v, ∀ w ∈ next v, w ∈ vertices) :
    ∀ {rounds : Nat} {frontier : List (String × τ)} {seen : List String},
      (∀ entry ∈ frontier, entry.1 ∈ vertices) →
      (vertices.toFinset \ seen.toFinset).card ≤ rounds →
      (∀ entry ∈ frontier,
          entry.1 ∈ seen ∨ entry.1 ∈ (explore next rounds frontier seen).map Prod.fst)
        ∧ ∀ v ∈ (explore next rounds frontier seen).map Prod.fst, ∀ w ∈ next v,
          w ∈ seen ∨ w ∈ (explore next rounds frontier seen).map Prod.fst
  | 0, frontier, seen, hfrontier, hcard => by
      have hall : ∀ v ∈ vertices, v ∈ seen := by
        intro v hv
        by_contra hseen
        have hempty := Finset.card_eq_zero.mp (Nat.le_zero.mp hcard)
        have hv' : v ∈ vertices.toFinset \ seen.toFinset := by simp [hv, hseen]
        simp [hempty] at hv'
      refine ⟨fun entry h => Or.inl (hall _ (hfrontier entry h)), ?_⟩
      intro v hv
      simp [explore] at hv
  | rounds + 1, frontier, seen, hfrontier, hcard => by
      rw [explore]
      generalize hfresh : keepFirst Prod.fst seen frontier = fresh
      have hkept : ∀ entry ∈ frontier, entry.1 ∈ seen ∨ entry.1 ∈ fresh.map Prod.fst := by
        intro entry hentry
        rw [← hfresh]
        exact mem_keys_keepFirst Prod.fst seen hentry
      cases fresh with
      | nil =>
          -- nothing new: the search is over, and the frontier was seen before
          simp only [List.map_nil, List.not_mem_nil, or_false] at hkept
          simp only [List.flatMap_nil, explore_nil, List.map_nil, List.nil_append,
            List.not_mem_nil, or_false, false_implies, implies_true, and_true]
          exact hkept
      | cons first others =>
          set fresh := first :: others
          set frontier' := fresh.flatMap fun (vertex, tag) =>
            (next vertex).map fun found => (found, tag) with hfrontier'
          have hsuccessors : ∀ entry ∈ frontier', entry.1 ∈ vertices := by
            intro entry hentry
            obtain ⟨vertex, _, hstep⟩ := mem_successors.mp hentry
            exact hnext vertex _ hstep
          have hcard' : (vertices.toFinset \ (fresh.map Prod.fst ++ seen).toFinset).card
              ≤ rounds := by
            rw [← hfresh]
            exact card_unseen_le_of_fresh hfrontier hcard (by simp [hfresh])
          obtain ⟨hfound, hclosed⟩ := explore_closed hnext hsuccessors hcard'
          rw [List.map_append]
          refine ⟨?_, ?_⟩
          · intro entry hentry
            exact (hkept entry hentry).imp id (List.mem_append_left _)
          · intro v hv w hw
            have hw' : w ∈ fresh.map Prod.fst ++ seen
                ∨ w ∈ (explore next rounds frontier' (fresh.map Prod.fst ++ seen)).map
                  Prod.fst := by
              rcases List.mem_append.mp hv with hv | hv
              · obtain ⟨⟨vertex, tag⟩, hentry, rfl⟩ := List.mem_map.mp hv
                exact hfound (w, tag) (mem_successors.mpr ⟨vertex, hentry, hw⟩)
              · exact hclosed v hv w hw
            rw [List.mem_append] at hw' ⊢
            tauto

/-- **A search from the successors of a vertex finds exactly what the vertex reaches**, apart from
what counts as seen already. -/
theorem mem_keys_explore_iff {vertices : List String}
    (hnext : ∀ v, ∀ w ∈ next v, w ∈ vertices) {rounds : Nat} (hrounds : vertices.length ≤ rounds)
    {source : String} {frontier : List (String × τ)}
    (hfrontier : frontier.map Prod.fst = next source) {seen : List String}
    (hseen : ∀ v ∈ seen, v = source) {v : String} :
    v ∈ (explore next rounds frontier seen).map Prod.fst
      ↔ TransGen (Step next) source v ∧ v ∉ seen := by
  have hstart : ∀ w ∈ next source, ∃ tag, (w, tag) ∈ frontier := by
    intro w hw
    rw [← hfrontier] at hw
    obtain ⟨⟨_, tag⟩, hentry, rfl⟩ := List.mem_map.mp hw
    exact ⟨tag, hentry⟩
  constructor
  · intro hv
    obtain ⟨found, hfound, rfl⟩ := List.mem_map.mp hv
    obtain ⟨start, hmem, hreach⟩ := exists_reflTransGen_of_mem_explore hfound
    have hstep : Step next source start := by
      rw [Step, ← hfrontier]
      exact List.mem_map_of_mem hmem
    exact ⟨.head' hstep hreach, not_mem_seen_of_mem_explore hfound⟩
  · rintro ⟨hreach, hv⟩
    have hvertices : ∀ entry ∈ frontier, entry.1 ∈ vertices := by
      intro entry hentry
      refine hnext source _ ?_
      rw [← hfrontier]
      exact List.mem_map_of_mem hentry
    have hcard : (vertices.toFinset \ seen.toFinset).card ≤ rounds :=
      ((Finset.card_le_card Finset.sdiff_subset).trans vertices.toFinset_card_le).trans hrounds
    obtain ⟨hfound, hclosed⟩ := explore_closed hnext hvertices hcard
    have hsource : ∀ w ∈ next source,
        w ∈ seen ∨ w ∈ (explore next rounds frontier seen).map Prod.fst := by
      intro w hw
      obtain ⟨tag, hentry⟩ := hstart w hw
      exact hfound _ hentry
    -- along the path every vertex was seen before, which makes it the source, or is listed
    have hall : v ∈ seen ∨ v ∈ (explore next rounds frontier seen).map Prod.fst := by
      clear hv
      induction hreach with
      | single hstep => exact hsource _ hstep
      | tail _ hstep ih =>
          rcases ih with ih | ih
          · exact hsource _ (hseen _ ih ▸ hstep)
          · exact hclosed _ ih _ hstep
    exact hall.resolve_left hv

end Explore

end SyntaxForge
