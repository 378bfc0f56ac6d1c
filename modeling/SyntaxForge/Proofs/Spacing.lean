import SyntaxForge.Tree.Trivia
import Mathlib.Tactic.Lemma

/-!
# Respacing runs of trivia

`Trivia.respacedFrom indent` walks over a run and carries the whitespace of the closest indented
line.  Two facts make it behave well under concatenation.  It never touches the first piece of a
run (`head?_respacedFrom`), so what stands in front sees the same neighbour before and after; and
a line it has indented is an indented line for whoever comes next, with the same whitespace.

* **`respacedFrom_respacedFrom`**: a second pass over a respaced run finds nothing new to do.
* **`respaced_append_respaced`**: respacing a run whose tail is respaced already is respacing the
  whole run once.
-/

namespace SyntaxForge

namespace Trivia

/-- The whitespace carried along is a run of spaces or tabs, if there is any. -/
def IsIndent (indent : Option Piece) : Prop :=
  ∀ piece ∈ indent, piece.isSpaceOrTab = true

lemma isIndent_none : IsIndent none := by
  intro piece h
  simp at h

lemma isIndent_some {piece : Piece} (h : piece.isSpaceOrTab = true) : IsIndent (some piece) := by
  intro other h'
  simp only [Option.mem_def, Option.some.injEq] at h'
  exact h' ▸ h

/-- Whitespace is no newline. -/
lemma isNewline_of_isSpaceOrTab {piece : Piece} (h : piece.isSpaceOrTab = true) :
    piece.isNewline = false := by
  cases piece <;> simp [Piece.isSpaceOrTab, Piece.isNewline] at h ⊢

/-! ## One step of the walk -/

@[simp] lemma respacedFrom_nil (indent : Option Piece) : respacedFrom indent [] = [] := rfl

/-- Away from newlines nothing happens. -/
lemma respacedFrom_cons_other {piece : Piece} (h : piece.isNewline = false)
    (indent : Option Piece) (rest : Trivia) :
    respacedFrom indent (piece :: rest) = piece :: respacedFrom indent rest := by
  rw [respacedFrom, if_neg (by simp [h])]

/-- A line that starts with whitespace is kept, and its whitespace carried on. -/
lemma respacedFrom_cons_indented {piece next : Piece} {rest : Trivia}
    (h : piece.isNewline = true) (hnext : rest.head? = some next)
    (hspace : next.isSpaceOrTab = true) (indent : Option Piece) :
    respacedFrom indent (piece :: rest) = piece :: respacedFrom (some next) rest := by
  rw [respacedFrom, if_pos h, hnext]
  simp only [hspace, if_true]

/-- An empty line is kept as it is. -/
lemma respacedFrom_cons_newline {piece next : Piece} {rest : Trivia}
    (h : piece.isNewline = true) (hnext : rest.head? = some next)
    (hnewline : next.isNewline = true) (indent : Option Piece) :
    respacedFrom indent (piece :: rest) = piece :: respacedFrom indent rest := by
  have hspace : next.isSpaceOrTab = false := by
    cases hs : next.isSpaceOrTab
    · rfl
    · rw [isNewline_of_isSpaceOrTab hs] at hnewline
      exact hnewline.symm
  rw [respacedFrom, if_pos h, hnext]
  simp only [hspace, hnewline, if_true, Bool.false_eq_true, if_false]

/-- Any other line gets the whitespace that is carried along. -/
lemma respacedFrom_cons_bare {piece : Piece} {rest : Trivia} (h : piece.isNewline = true)
    (hnext : ∀ next ∈ rest.head?, next.isSpaceOrTab = false ∧ next.isNewline = false)
    (indent : Option Piece) :
    respacedFrom indent (piece :: rest)
      = piece :: (indent.toList ++ respacedFrom indent rest) := by
  rw [respacedFrom, if_pos h]
  cases rest with
  | nil => simp
  | cons next rest =>
      obtain ⟨hspace, hnewline⟩ := hnext next (by simp)
      simp [hspace, hnewline]

/-- The three ways a line can go on after a newline, as the walk tells them apart. -/
lemma newline_cases (rest : Trivia) :
    (∃ next, rest.head? = some next ∧ next.isSpaceOrTab = true)
      ∨ (∃ next, rest.head? = some next ∧ next.isNewline = true)
      ∨ ∀ next ∈ rest.head?, next.isSpaceOrTab = false ∧ next.isNewline = false := by
  cases rest with
  | nil => exact Or.inr (Or.inr (by simp))
  | cons next rest =>
      cases hspace : next.isSpaceOrTab
      · cases hnewline : next.isNewline
        · exact Or.inr (Or.inr (by simp [hspace, hnewline]))
        · exact Or.inr (Or.inl ⟨next, rfl, hnewline⟩)
      · exact Or.inl ⟨next, rfl, hspace⟩

/-! ## Passes one after the other -/

/-- Respacing keeps the first piece where it is. -/
@[simp] lemma head?_respacedFrom (indent : Option Piece) (trivia : Trivia) :
    (respacedFrom indent trivia).head? = trivia.head? := by
  cases trivia with
  | nil => rfl
  | cons piece rest =>
      rw [respacedFrom]
      split
      · split
        · split
          · rfl
          · split <;> rfl
        · rfl
      · rfl

/-- **A second pass finds nothing to do**, as long as the first one carried no other whitespace
than the second. -/
theorem respacedFrom_respacedFrom (trivia : Trivia) :
    ∀ {outer inner : Option Piece}, IsIndent outer → inner = none ∨ inner = outer →
      respacedFrom outer (respacedFrom inner trivia) = respacedFrom outer trivia := by
  induction trivia with
  | nil => intro outer inner _ _; rfl
  | cons piece rest ih =>
      intro outer inner houter hinner
      cases hpiece : piece.isNewline with
      | false =>
          rw [respacedFrom_cons_other hpiece, respacedFrom_cons_other hpiece,
            respacedFrom_cons_other hpiece, ih houter hinner]
      | true =>
          rcases newline_cases rest with ⟨next, hnext, hspace⟩ | ⟨next, hnext, hnewline⟩ | hbare
          · -- from an indented line on, both passes carry the same whitespace
            have hnext' : (respacedFrom (some next) rest).head? = some next := by
              rw [head?_respacedFrom, hnext]
            rw [respacedFrom_cons_indented hpiece hnext hspace,
              respacedFrom_cons_indented hpiece hnext hspace,
              respacedFrom_cons_indented hpiece hnext' hspace,
              ih (isIndent_some hspace) (Or.inr rfl)]
          · have hnext' : (respacedFrom inner rest).head? = some next := by
              rw [head?_respacedFrom, hnext]
            rw [respacedFrom_cons_newline hpiece hnext hnewline,
              respacedFrom_cons_newline hpiece hnext hnewline,
              respacedFrom_cons_newline hpiece hnext' hnewline, ih houter hinner]
          · rw [respacedFrom_cons_bare hpiece hbare, respacedFrom_cons_bare hpiece hbare]
            cases inner with
            | none =>
                have hbare' : ∀ next ∈ (respacedFrom none rest).head?,
                    next.isSpaceOrTab = false ∧ next.isNewline = false := by
                  rw [head?_respacedFrom]; exact hbare
                rw [Option.toList_none, List.nil_append, respacedFrom_cons_bare hpiece hbare',
                  ih houter (Or.inl rfl)]
            | some next =>
                -- the first pass has put `next` there, and the second one reads it back
                have hsome : some next = outer := by simpa using hinner
                subst hsome
                have hspace := houter next rfl
                rw [Option.toList_some, List.singleton_append,
                  respacedFrom_cons_indented hpiece rfl hspace,
                  respacedFrom_cons_other (isNewline_of_isSpaceOrTab hspace),
                  ih houter (Or.inr rfl)]

/-- What stands in front of a run is respaced by looking at its first piece only. -/
lemma respacedFrom_append_respaced (front rest : Trivia) :
    ∀ {indent : Option Piece}, IsIndent indent →
      respacedFrom indent (front ++ respaced rest) = respacedFrom indent (front ++ rest) := by
  induction front with
  | nil =>
      intro indent hindent
      exact respacedFrom_respacedFrom rest hindent (Or.inl rfl)
  | cons piece front ih =>
      intro indent hindent
      have hhead : (front ++ respaced rest).head? = (front ++ rest).head? := by
        rw [List.head?_append, List.head?_append, respaced, head?_respacedFrom]
      rw [List.cons_append, List.cons_append]
      cases hpiece : piece.isNewline with
      | false =>
          rw [respacedFrom_cons_other hpiece, respacedFrom_cons_other hpiece, ih hindent]
      | true =>
          rcases newline_cases (front ++ rest) with
            ⟨next, hnext, hspace⟩ | ⟨next, hnext, hnewline⟩ | hbare
          · rw [respacedFrom_cons_indented hpiece hnext hspace,
              respacedFrom_cons_indented hpiece (hhead.trans hnext) hspace,
              ih (isIndent_some hspace)]
          · rw [respacedFrom_cons_newline hpiece hnext hnewline,
              respacedFrom_cons_newline hpiece (hhead.trans hnext) hnewline, ih hindent]
          · rw [respacedFrom_cons_bare hpiece hbare,
              respacedFrom_cons_bare hpiece (hhead ▸ hbare), ih hindent]

/-- **Respacing absorbs an inner run of itself.** -/
theorem respaced_append_respaced (front rest : Trivia) :
    respaced (front ++ respaced rest) = respaced (front ++ rest) :=
  respacedFrom_append_respaced front rest isIndent_none

end Trivia

end SyntaxForge
