import Mathlib.Data.List.Forall2
import Mathlib.Data.List.Nodup
import Mathlib.Data.List.Pairwise
import Mathlib.Tactic.Lemma

/-!
# Lists, and results computed for them

Facts about lists and about computations that may fail, which say nothing about grammars or trees.

A check that goes through a list succeeds exactly if it does for every element (`forM_eq_ok_iff`).
Results that are computed for a list one by one stand in a relation to it, element by element
(`mapM_eq_ok_iff`, `mapM_eq_some_iff`), so that there are results exactly if there is one for each
element (`exists_forall₂_iff`).
-/

namespace SyntaxForge

section Relations

variable {α β : Type} {R : α → β → Prop}

/-- What is related to the elements of a list is related to one of them. -/
lemma exists_of_mem_forall₂ {b : β} :
    ∀ {list : List α} {results : List β}, List.Forall₂ R list results → b ∈ results →
      ∃ a ∈ list, R a b
  | _, _, .nil, h => by simp at h
  | _, _, .cons (a := a) hab hrest, h => by
      rcases List.mem_cons.mp h with rfl | h
      · exact ⟨a, List.mem_cons_self, hab⟩
      · obtain ⟨a', ha', hR⟩ := exists_of_mem_forall₂ hrest h
        exact ⟨a', List.mem_cons_of_mem _ ha', hR⟩

/-- A list is related to another if each of its elements is related to something. -/
lemma exists_forall₂_iff {list : List α} :
    (∃ results, List.Forall₂ R list results) ↔ ∀ a ∈ list, ∃ b, R a b := by
  induction list with
  | nil => simp
  | cons a rest ih =>
      simp only [List.forall_mem_cons, ← ih, List.forall₂_cons_left_iff]
      constructor
      · rintro ⟨_, b, others, hb, hothers, rfl⟩
        exact ⟨⟨b, hb⟩, others, hothers⟩
      · rintro ⟨⟨b, hb⟩, others, hothers⟩
        exact ⟨_, b, others, hb, hothers, rfl⟩

end Relations

/-! ## Computations that may fail with an error -/

section Results

variable {ε δ α β : Type}

lemma bind_eq_ok_iff {x : Except ε α} {f : α → Except ε β} {b : β} :
    (x >>= f) = .ok b ↔ ∃ a, x = .ok a ∧ f a = .ok b := by
  cases x <;> simp [bind, Except.bind]

lemma pure_eq_ok_iff {a b : α} : (pure a : Except ε α) = .ok b ↔ a = b := by
  simp [pure, Except.pure]

/-- Another error is no success. -/
lemma mapError_eq_ok_iff {f : ε → δ} {x : Except ε α} {a : α} :
    x.mapError f = .ok a ↔ x = .ok a := by
  cases x <;> simp [Except.mapError]

/-- A check of a list succeeds if it does for every element. -/
lemma forM_eq_ok_iff {list : List α} {f : α → Except ε Unit} :
    list.forM f = .ok () ↔ ∀ a ∈ list, f a = .ok () := by
  induction list with
  | nil => simp [List.forM, pure, Except.pure]
  | cons a rest ih =>
      rw [List.forM, bind_eq_ok_iff]
      constructor
      · rintro ⟨⟨⟩, ha, hrest⟩ b hb
        rcases List.mem_cons.mp hb with rfl | hb
        · exact ha
        · exact ih.mp hrest b hb
      · intro h
        exact ⟨(), h a List.mem_cons_self, ih.mpr fun b hb => h b (List.mem_cons_of_mem _ hb)⟩

/-- Results computed for a list stand in the same order as its elements. -/
lemma mapM_eq_ok_iff {f : α → Except ε β} {list : List α} {results : List β} :
    list.mapM f = .ok results ↔ List.Forall₂ (fun a b => f a = .ok b) list results := by
  induction list generalizing results with
  | nil => rw [List.mapM_nil, pure_eq_ok_iff, List.forall₂_nil_left_iff, eq_comm]
  | cons a rest ih =>
      simp only [List.mapM_cons, bind_eq_ok_iff, pure_eq_ok_iff, ih, List.forall₂_cons_left_iff]
      constructor
      · rintro ⟨b, hb, others, hothers, rfl⟩
        exact ⟨b, others, hb, hothers, rfl⟩
      · rintro ⟨b, others, hb, hothers, rfl⟩
        exact ⟨b, hb, others, hothers, rfl⟩

/-- A list has results if each of its elements has one. -/
lemma exists_mapM_eq_ok_iff {f : α → Except ε β} {list : List α} :
    (∃ results, list.mapM f = .ok results) ↔ ∀ a ∈ list, ∃ b, f a = .ok b := by
  simp only [mapM_eq_ok_iff, exists_forall₂_iff]

end Results

/-! ## Computations that may have no result -/

section Options

variable {α β : Type} {f : α → Option β} {list : List α}

lemma mapM_eq_some_iff {results : List β} :
    list.mapM f = some results ↔ List.Forall₂ (fun a b => f a = some b) list results := by
  induction list generalizing results with
  | nil => simp [eq_comm]
  | cons a rest ih =>
      simp only [List.mapM_cons, Option.pure_def, Option.bind_eq_bind, Option.bind_eq_some_iff,
        Option.some.injEq, ih, List.forall₂_cons_left_iff]
      constructor
      · rintro ⟨b, hb, others, hothers, rfl⟩
        exact ⟨b, others, hb, hothers, rfl⟩
      · rintro ⟨b, others, hb, hothers, rfl⟩
        exact ⟨b, hb, others, hothers, rfl⟩

lemma exists_mapM_eq_some_iff :
    (∃ results, list.mapM f = some results) ↔ ∀ a ∈ list, ∃ b, f a = some b := by
  simp only [mapM_eq_some_iff, exists_forall₂_iff]

/-- What is kept of a list without repetitions has none if no two elements give the same. -/
lemma nodup_filterMap_iff (hlist : list.Nodup) :
    (list.filterMap f).Nodup
      ↔ ∀ a ∈ list, ∀ b ∈ list, a ≠ b → ∀ x, f a = some x → f b ≠ some x := by
  have hsymm : Std.Symm fun a b : α => ∀ x, f a = some x → ∀ y, f b = some y → x ≠ y :=
    ⟨fun a b hab y hb x ha heq => hab x ha y hb heq.symm⟩
  rw [List.Nodup, List.pairwise_filterMap]
  constructor
  · intro h a ha b hb hne x hax hbx
    exact h.forall ha hb hne x hax x hbx rfl
  · intro h
    refine hlist.pairwise_of_forall_ne fun a ha b hb hne => ?_
    rintro x hax y hby rfl
    exact h a ha b hb hne x hax hby

/-- What is read off the kept results is part of what is read off the list. -/
lemma sublist_map_filterMap {γ : Type} {g : α → γ} {g' : β → γ}
    (hf : ∀ a b, f a = some b → g' b = g a) :
    ∀ list : List α, ((list.filterMap f).map g').Sublist (list.map g)
  | [] => .slnil
  | a :: rest => by
      cases ha : f a with
      | none =>
          rw [List.filterMap_cons_none ha]
          exact (sublist_map_filterMap hf rest).cons _
      | some b =>
          rw [List.filterMap_cons_some ha, List.map_cons, List.map_cons, hf a b ha]
          exact (sublist_map_filterMap hf rest).cons_cons _

end Options

/-- An element that is left out contributes nothing. -/
lemma flatMap_filter {α β : Type} (p : α → Bool) (f : α → List β) (list : List α) :
    (list.filter p).flatMap f = list.flatMap fun a => if p a then f a else [] := by
  induction list with
  | nil => rfl
  | cons a rest ih => by_cases h : p a <;> simp [h, ih]

end SyntaxForge
