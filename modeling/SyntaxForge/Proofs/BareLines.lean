import SyntaxForge.Proofs.Spacing
import Mathlib.Data.List.TakeDrop
import Mathlib.Data.List.TakeWhile

/-!
# What bare lines are indented with

A line is bare if it starts without whitespace and is not empty.  `indentBareLines` indents the bare
lines of a run of trivia, each with what is made of the pieces in front of it; `lastIndentation` is
the whole indentation of the closest indented line in front, which may be several pieces long.

`Trivia.respaced` carries a single piece from line to line.

* **`respacedFrom_eq_indentBareLines`**: it indents bare lines with the first piece of the last
  indentation.
* **`respaced_indents`**: this is the whole indentation, for every bare line, exactly if no bare
  line comes after an indentation of several pieces.
-/

namespace SyntaxForge

namespace Trivia

/-! ## Indented and bare lines -/

/-- Whether what follows a newline is a line without whitespace at its start: it is neither
indented nor empty.  The end of the trivia is such a line, as the token behind it is. -/
def isBareLine (line : Trivia) : Bool :=
  line.head?.all fun next => !next.isSpaceOrTab && !next.isNewline

/-- The indentation of the last indented line: all the spaces and tabs behind the last newline that
is followed by any. -/
def lastIndentation : Trivia → Trivia
  | [] => []
  | piece :: rest =>
    if lastIndentation rest = [] ∧ piece.isNewline then rest.takeWhile Piece.isSpaceOrTab
    else lastIndentation rest

/-- Indents every bare line, according to the pieces in front of its newline. -/
def indentBareLines (indentation : Trivia → Trivia) (front : Trivia) : Trivia → Trivia
  | [] => []
  | piece :: rest =>
    piece :: ((if piece.isNewline && isBareLine rest then indentation front else [])
      ++ indentBareLines indentation (front ++ [piece]) rest)

lemma isSpaceOrTab_of_isNewline {piece : Piece} (h : piece.isNewline = true) :
    piece.isSpaceOrTab = false := by
  cases piece <;> simp [Piece.isSpaceOrTab, Piece.isNewline] at h ⊢

lemma isBareLine_iff {line : Trivia} : isBareLine line = true
    ↔ ∀ next ∈ line.head?, next.isSpaceOrTab = false ∧ next.isNewline = false := by
  cases line <;> simp [isBareLine]

/-- Whitespace alone indents no line. -/
lemma lastIndentation_eq_nil {run : Trivia} (h : ∀ piece ∈ run, piece.isSpaceOrTab = true) :
    lastIndentation run = [] := by
  induction run with
  | nil => rfl
  | cons piece rest ih =>
      rw [List.forall_mem_cons] at h
      rw [lastIndentation, ih h.2, isNewline_of_isSpaceOrTab h.1]
      simp

/-- Whitespace is the last indentation if it follows a newline; behind anything else it starts no
line. -/
lemma lastIndentation_append_cons {piece : Piece} {run : Trivia}
    (hpiece : piece.isSpaceOrTab = false) (hrun : ∀ next ∈ run, next.isSpaceOrTab = true)
    (front : Trivia) :
    lastIndentation (front ++ piece :: run)
      = if piece.isNewline ∧ run ≠ [] then run else lastIndentation front := by
  have hall : run.takeWhile Piece.isSpaceOrTab = run := List.takeWhile_eq_self_iff.mpr hrun
  induction front with
  | nil =>
      rw [List.nil_append, lastIndentation.eq_2, lastIndentation_eq_nil hrun, hall]
      cases piece.isNewline <;> cases run <;> simp [lastIndentation]
  | cons other front ih =>
      have hstop : (front ++ piece :: run).takeWhile Piece.isSpaceOrTab
          = front.takeWhile Piece.isSpaceOrTab := by
        rw [List.takeWhile_append, List.takeWhile_cons_of_neg (by simp [hpiece])]
        split
        · next hlength =>
            rw [List.append_nil, (List.takeWhile_prefix _).eq_of_length hlength]
        · rfl
      rw [List.cons_append, lastIndentation, ih, hstop, lastIndentation]
      split <;> simp_all

/-! ## The piece that is carried along -/

/-- What the spacing pass carries between two parts of a run: the first piece of the last
indentation.  It is known as soon as its newline is passed, before the whitespace itself is. -/
def carried (front rest : Trivia) : Option Piece :=
  (lastIndentation (front ++ rest.takeWhile Piece.isSpaceOrTab)).head?

/-- Nothing is carried into the first line. -/
lemma carried_nil (trivia : Trivia) : carried [] trivia = none := by
  have hrun : ∀ next ∈ trivia.takeWhile Piece.isSpaceOrTab, next.isSpaceOrTab = true := by
    intro next hnext
    exact List.mem_takeWhile_imp hnext
  simp [carried, lastIndentation_eq_nil hrun]

lemma takeWhile_eq_nil {rest : Trivia} (h : ∀ next ∈ rest.head?, next.isSpaceOrTab = false) :
    rest.takeWhile Piece.isSpaceOrTab = [] := by
  cases rest with
  | nil => rfl
  | cons next rest => exact List.takeWhile_cons_of_neg (by simp [h next rfl])

/-- Unless whitespace follows, what is carried comes from lines that have been passed. -/
lemma carried_eq (front : Trivia) {rest : Trivia}
    (h : ∀ next ∈ rest.head?, next.isSpaceOrTab = false) :
    carried front rest = (lastIndentation front).head? := by
  rw [carried, takeWhile_eq_nil h, List.append_nil]

lemma carried_append_space {piece : Piece} (h : piece.isSpaceOrTab = true) (front rest : Trivia) :
    carried (front ++ [piece]) rest = carried front (piece :: rest) := by
  rw [carried, carried, List.takeWhile_cons_of_pos h, List.append_assoc, List.singleton_append]

lemma carried_append_cons {piece : Piece} (h : piece.isSpaceOrTab = false) (front rest : Trivia) :
    carried (front ++ [piece]) rest
      = if piece.isNewline ∧ rest.takeWhile Piece.isSpaceOrTab ≠ [] then
          (rest.takeWhile Piece.isSpaceOrTab).head?
        else (lastIndentation front).head? := by
  have hrun : ∀ next ∈ rest.takeWhile Piece.isSpaceOrTab, next.isSpaceOrTab = true := by
    intro next hnext
    exact List.mem_takeWhile_imp hnext
  rw [carried, List.append_assoc, List.singleton_append, lastIndentation_append_cons h hrun front]
  split <;> rfl

/-- Behind any other piece the same is carried on. -/
lemma carried_append_other {piece : Piece} {rest : Trivia} (h : piece.isSpaceOrTab = false)
    (hline : piece.isNewline = false ∨ ∀ next ∈ rest.head?, next.isSpaceOrTab = false)
    (front : Trivia) : carried (front ++ [piece]) rest = (lastIndentation front).head? := by
  rw [carried_append_cons h, if_neg]
  rintro ⟨hnewline, hrun⟩
  rcases hline with hother | hline
  · rw [hother] at hnewline
    exact Bool.noConfusion hnewline
  · exact hrun (takeWhile_eq_nil hline)

/-- At an indented line its first piece is carried from there on. -/
lemma carried_append_newline {piece next : Piece} {rest : Trivia} (h : piece.isNewline = true)
    (hnext : rest.head? = some next) (hspace : next.isSpaceOrTab = true) (front : Trivia) :
    carried (front ++ [piece]) rest = some next := by
  obtain ⟨rest, rfl⟩ := List.head?_eq_some_iff.mp hnext
  rw [carried_append_cons (isSpaceOrTab_of_isNewline h), List.takeWhile_cons_of_pos hspace,
    if_pos ⟨h, by simp⟩, List.head?_cons]

/-- **The spacing pass indents bare lines with the first piece of the last indentation.** -/
theorem respacedFrom_eq_indentBareLines (trivia : Trivia) : ∀ front : Trivia,
    respacedFrom (carried front trivia) trivia
      = indentBareLines (fun front => (lastIndentation front).take 1) front trivia := by
  induction trivia with
  | nil => intro front; rfl
  | cons piece rest ih =>
      intro front
      rw [indentBareLines, ← ih (front ++ [piece])]
      cases hnewline : piece.isNewline with
      | false =>
          rw [respacedFrom_cons_other hnewline, Bool.false_and, if_neg (by simp), List.nil_append]
          cases hspace : piece.isSpaceOrTab with
          | true => rw [carried_append_space hspace]
          | false =>
              rw [carried_append_other hspace (Or.inl hnewline),
                carried_eq _ (by simpa using hspace)]
      | true =>
          have hspace := isSpaceOrTab_of_isNewline hnewline
          rw [carried_eq front (by simpa using hspace)]
          rcases newline_cases rest with ⟨next, hnext, hindent⟩ | ⟨next, hnext, hempty⟩ | hbare
          · have hline : isBareLine rest = false := by simp [isBareLine, hnext, hindent]
            rw [respacedFrom_cons_indented hnewline hnext hindent,
              carried_append_newline hnewline hnext hindent, hline]
            rfl
          · have hline : isBareLine rest = false := by simp [isBareLine, hnext, hempty]
            have hcarried : carried (front ++ [piece]) rest = (lastIndentation front).head? := by
              refine carried_append_other hspace (Or.inr ?_) front
              rw [hnext]
              rintro _ ⟨⟩
              exact isSpaceOrTab_of_isNewline hempty
            rw [respacedFrom_cons_newline hnewline hnext hempty, hcarried, hline]
            rfl
          · have hcarried : carried (front ++ [piece]) rest = (lastIndentation front).head? :=
              carried_append_other hspace (Or.inr fun next hnext => (hbare next hnext).1) front
            rw [respacedFrom_cons_bare hnewline hbare, hcarried, isBareLine_iff.mpr hbare,
              Bool.and_self, if_pos rfl]
            cases lastIndentation front <;> rfl

/-! ## Whole indentations -/

/-- Indenting with more makes the trivia longer. -/
lemma length_indentBareLines_le {less more : Trivia → Trivia}
    (h : ∀ front, (less front).length ≤ (more front).length) (trivia : Trivia) :
    ∀ front, (indentBareLines less front trivia).length
      ≤ (indentBareLines more front trivia).length := by
  induction trivia with
  | nil => intro front; exact Nat.le_refl _
  | cons piece rest ih =>
      intro front
      have hfront := h front
      have hrest := ih (front ++ [piece])
      simp only [indentBareLines, List.length_cons, List.length_append]
      split <;> simp <;> omega

/-- Indenting with less comes to the same only if it does for every bare line. -/
lemma indentBareLines_eq_iff {less more : Trivia → Trivia}
    (h : ∀ front, (less front).length ≤ (more front).length) (trivia : Trivia) :
    ∀ front, indentBareLines less front trivia = indentBareLines more front trivia
      ↔ ∀ before newline line, trivia = before ++ newline :: line → newline.isNewline = true →
        isBareLine line = true → less (front ++ before) = more (front ++ before) := by
  induction trivia with
  | nil => intro front; simp [indentBareLines]
  | cons piece rest ih =>
      intro front
      have hlength := length_indentBareLines_le h rest (front ++ [piece])
      rw [indentBareLines, indentBareLines, List.cons.injEq, and_iff_right rfl]
      constructor
      · -- neither part is longer on the left, so both agree
        intro heq before newline line hsplit hnewline hline
        have hsame := congrArg List.length heq
        have hfront : (if piece.isNewline && isBareLine rest then less front else []).length
            ≤ (if piece.isNewline && isBareLine rest then more front else []).length := by
          split
          · exact h front
          · exact Nat.le_refl _
        rw [List.length_append, List.length_append] at hsame
        obtain ⟨hindent, hrest⟩ := List.append_inj heq (by omega)
        cases before with
        | nil =>
            obtain ⟨rfl, rfl⟩ := List.cons.inj hsplit
            simpa [hnewline, hline] using hindent
        | cons other before =>
            obtain ⟨rfl, rfl⟩ := List.cons.inj hsplit
            have hbefore := (ih (front ++ [piece])).mp hrest before newline line rfl hnewline hline
            simpa using hbefore
      · intro hlines
        have hindent : (if piece.isNewline && isBareLine rest then less front else [])
            = if piece.isNewline && isBareLine rest then more front else [] := by
          split
          · next hbare =>
              rw [Bool.and_eq_true] at hbare
              simpa using hlines [] piece rest rfl hbare.1 hbare.2
          · rfl
        have hrest := (ih (front ++ [piece])).mpr <| by
          intro before newline line hsplit hnewline hline
          have hbefore := hlines (piece :: before) newline line (by simp [hsplit]) hnewline hline
          simpa using hbefore
        rw [hindent, hrest]

/-- **A bare line is indented with the first piece of the indentation of the closest indented line
in front of it**, or with nothing if no line in front is indented.  It gets the whole of that
indentation, for all bare lines, exactly if none of them follows an indentation of several
pieces. -/
theorem respaced_indents (trivia : Trivia) :
    respaced trivia = indentBareLines (fun front => (lastIndentation front).take 1) [] trivia
      ∧ (respaced trivia = indentBareLines lastIndentation [] trivia
        ↔ ∀ front newline line, trivia = front ++ newline :: line → newline.isNewline = true →
          isBareLine line = true → (lastIndentation front).length ≤ 1) := by
  have hrespaced := respacedFrom_eq_indentBareLines trivia []
  rw [carried_nil, ← respaced] at hrespaced
  refine ⟨hrespaced, ?_⟩
  have hshorter : ∀ front,
      ((lastIndentation front).take 1).length ≤ (lastIndentation front).length :=
    fun front => List.length_take_le' 1 _
  have hlines := indentBareLines_eq_iff hshorter trivia []
  simpa only [hrespaced, List.nil_append, List.take_eq_self_iff] using hlines

/-- Two comments; the first one is indented with spaces and a tab. -/
def tabbedComments : Trivia :=
  [.newlines 1, .spaces 2, .tabs 1, .lineComment "// a", .newlines 1, .lineComment "// b"]

/-- The second comment is indented with the spaces alone. -/
theorem respaced_tabbedComments_ne :
    lastIndentation (tabbedComments.take 4) = [.spaces 2, .tabs 1]
      ∧ respaced tabbedComments = tabbedComments.take 5 ++ [.spaces 2, .lineComment "// b"]
      ∧ respaced tabbedComments ≠ indentBareLines lastIndentation [] tabbedComments := by
  decide

end Trivia

end SyntaxForge
