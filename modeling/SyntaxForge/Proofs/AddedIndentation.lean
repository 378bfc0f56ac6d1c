import SyntaxForge.Proofs.BareLines

/-!
# What the spacing pass adds

`Trivia.IndentedFrom source before after` says that `after` is `before` with spaces and tabs of
`source` put in, each of them directly behind a newline.

* **`respacedFrom_indentedFrom`**: this is all that the walk does, whatever whitespace it starts
  with.
* **`respaced_eq_self_iff`**: it does nothing exactly if no bare line follows an indented line.
* **`respaced_absorbs`**: so respacing brings every run into a form that a second pass keeps, and
  respacing a part of a run first makes no difference to the whole.
-/

namespace SyntaxForge

namespace Trivia

/-- The second run is the first one with spaces and tabs of `source` put in, at most one behind
each newline and none anywhere else. -/
inductive IndentedFrom (source : Trivia) : Trivia → Trivia → Prop
  | nil : IndentedFrom source [] []
  | keep (piece : Piece) {rest after : Trivia} (hrest : IndentedFrom source rest after) :
      IndentedFrom source (piece :: rest) (piece :: after)
  | indent {newline space : Piece} {rest after : Trivia} (hnewline : newline.isNewline = true)
      (hspace : space.isSpaceOrTab = true) (hsource : space ∈ source)
      (hrest : IndentedFrom source rest after) :
      IndentedFrom source (newline :: rest) (newline :: space :: after)

/-- **The walk only puts whitespace behind newlines.**  It takes it from the run itself, or from
what it carried from the start. -/
theorem respacedFrom_indentedFrom {source : Trivia} (trivia : Trivia) :
    ∀ {indent : Option Piece}, IsIndent indent → (∀ space ∈ indent, space ∈ source) →
      (∀ piece ∈ trivia, piece ∈ source) →
      IndentedFrom source trivia (respacedFrom indent trivia) := by
  induction trivia with
  | nil =>
      intro indent _ _ _
      exact .nil
  | cons piece rest ih =>
      intro indent hindent hcarried htrivia
      have hrest : ∀ next ∈ rest, next ∈ source := by
        intro next hnext
        exact htrivia next (List.mem_cons_of_mem piece hnext)
      cases hpiece : piece.isNewline with
      | false =>
          rw [respacedFrom_cons_other hpiece]
          exact .keep piece (ih hindent hcarried hrest)
      | true =>
          rcases newline_cases rest with ⟨next, hnext, hspace⟩ | ⟨next, hnext, hnewline⟩ | hbare
          · -- what is carried from here on is a piece of the rest
            have hmem : next ∈ source := hrest next (List.mem_of_head? hnext)
            rw [respacedFrom_cons_indented hpiece hnext hspace]
            exact .keep piece (ih (isIndent_some hspace) (by simpa using hmem) hrest)
          · rw [respacedFrom_cons_newline hpiece hnext hnewline]
            exact .keep piece (ih hindent hcarried hrest)
          · rw [respacedFrom_cons_bare hpiece hbare]
            have hafter := ih hindent hcarried hrest
            cases indent with
            | none => exact .keep piece hafter
            | some space => exact .indent hpiece (hindent space rfl) (hcarried space rfl) hafter

/-! ## Runs that are kept -/

/-- Indenting bare lines with nothing keeps the run. -/
lemma indentBareLines_none (trivia : Trivia) :
    ∀ front, indentBareLines (fun _ => []) front trivia = trivia := by
  induction trivia with
  | nil => intro front; rfl
  | cons piece rest ih => intro front; simp [indentBareLines, ih]

/-- **A run is kept exactly if no bare line in it comes after an indented one.** -/
theorem respaced_eq_self_iff (trivia : Trivia) :
    respaced trivia = trivia
      ↔ ∀ front newline line, trivia = front ++ newline :: line → newline.isNewline = true →
        isBareLine line = true → lastIndentation front = [] := by
  have hwalk := respacedFrom_eq_indentBareLines trivia []
  rw [carried_nil, ← respaced] at hwalk
  have hlonger : ∀ front, ([] : Trivia).length ≤ ((lastIndentation front).take 1).length := by
    intro front
    simp
  have hlines := indentBareLines_eq_iff hlonger trivia []
  rw [indentBareLines_none, ← hwalk, eq_comm] at hlines
  rw [hlines]
  simp

/-- **Respacing a part of a run first makes no difference to the whole.**  So a second pass over a
run changes nothing.  The pass only puts spaces and tabs of the run behind newlines of it, and it
does so unless no bare line follows an indented one. -/
theorem respaced_absorbs (front trivia : Trivia) :
    respaced (front ++ respaced trivia) = respaced (front ++ trivia)
      ∧ respaced (respaced trivia) = respaced trivia
      ∧ IndentedFrom trivia trivia (respaced trivia)
      ∧ (respaced trivia = trivia
        ↔ ∀ before newline line, trivia = before ++ newline :: line → newline.isNewline = true →
          isBareLine line = true → lastIndentation before = []) := by
  refine ⟨respaced_append_respaced front trivia, respaced_append_respaced [] trivia, ?_,
    respaced_eq_self_iff trivia⟩
  exact respacedFrom_indentedFrom trivia isIndent_none (by simp) (by simp)

/-- A comment gets the indentation of the run it is put behind. -/
example : respaced ([.newlines 1, .tabs 1] ++ respaced [.newlines 1, .lineComment "// a"])
    = [.newlines 1, .tabs 1, .newlines 1, .tabs 1, .lineComment "// a"] := by decide

end Trivia

end SyntaxForge
