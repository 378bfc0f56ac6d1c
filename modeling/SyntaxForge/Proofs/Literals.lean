import SyntaxForge.Snapshot.Literal
import Mathlib.Tactic.Lemma

/-!
# What a literal stands for

`Denotes literal value` says that a string literal stands for a text.  A plain literal without
escapes stands for what is between its quotes; a raw one stands for everything up to its first end,
verbatim.

A literal stands for one text at most (`Denotes.unique`), and what `formatLiteral` writes always
stands for one: the body that it laid out (`denotes_formatLiteral`).  For raw literals this is a
matter of counting hash signs.  Laying a text out adds only spaces and line breaks, at places where
no run of hash signs goes on, so that the longest run is the same before and after
(`hashRun_literalBody`).
-/

namespace SyntaxForge.Snapshot

/-- A string literal and the text that it stands for. -/
inductive Denotes : List Char → List Char → Prop where
  | plain {value : List Char} :
      '"' ∉ value → '\\' ∉ value → Denotes ('"' :: (value ++ ['"'])) value
  | raw (hashes : Nat) {value : List Char} : ¬ closing hashes <:+: value →
      Denotes ('r' :: (List.replicate hashes '#' ++ '"' :: (value ++ closing hashes))) value

lemma takeWhile_hashes (hashes : Nat) (rest : List Char) :
    (List.replicate hashes '#' ++ '"' :: rest).takeWhile (· = '#')
      = List.replicate hashes '#' := by
  induction hashes with
  | zero => simp
  | succ hashes ih => simp [List.replicate_succ, ih]

lemma Denotes.unique {literal a b : List Char} (ha : Denotes literal a) (hb : Denotes literal b) :
    a = b := by
  cases ha with
  | plain =>
      generalize hliteral : '"' :: (a ++ ['"']) = literal at hb
      cases hb with
      | plain => simpa using hliteral
      | raw => simp at hliteral
  | raw hashes =>
      generalize hliteral : 'r' :: (List.replicate hashes '#' ++ '"' :: (a ++ closing hashes))
        = literal at hb
      cases hb with
      | plain => simp at hliteral
      | raw others =>
          rw [List.cons.injEq] at hliteral
          have hhashes := congrArg (List.takeWhile (· = '#')) hliteral.2
          rw [takeWhile_hashes, takeWhile_hashes] at hhashes
          have heq : hashes = others := by simpa using congrArg List.length hhashes
          subst heq
          simpa using hliteral.2

/-! ## Runs of hash signs -/

@[simp] lemma hashRun_cons_of_ne {c : Char} (h : c ≠ '"') (rest : List Char) :
    hashRun (c :: rest) = hashRun rest := by
  rw [hashRun, if_neg h]

lemma hashRun_le_append (front back : List Char) : hashRun back ≤ hashRun (front ++ back) := by
  induction front with
  | nil => simp
  | cons c front ih =>
      rw [List.cons_append, hashRun]
      split
      · exact Nat.le_trans ih (Nat.le_max_right _ _)
      · exact ih

/-- A text that contains the end of a literal has a run of as many hash signs. -/
lemma le_hashRun_of_infix {hashes : Nat} {text : List Char} (h : closing hashes <:+: text) :
    hashes ≤ hashRun text := by
  obtain ⟨front, back, rfl⟩ := h
  have hrun : hashes ≤ hashRun (closing hashes ++ back) := by
    rw [closing, List.cons_append, hashRun, if_pos rfl]
    refine Nat.le_trans ?_ (Nat.le_max_left _ _)
    rw [List.takeWhile_append_of_pos (by simp)]
    simp
  rw [List.append_assoc]
  exact Nat.le_trans hrun (hashRun_le_append front _)

/-- A run that does not go on is counted on one side. -/
lemma hashRun_append {back : List Char} (h : back.head? ≠ some '#') (front : List Char) :
    hashRun (front ++ back) = max (hashRun front) (hashRun back) := by
  have hback : back.takeWhile (· = '#') = [] := by
    cases back with
    | nil => rfl
    | cons c back => exact List.takeWhile_cons_of_neg (by simpa using h)
  induction front with
  | nil => simp [hashRun]
  | cons c front ih =>
      have hrun : ((front ++ back).takeWhile (· = '#')).length
          = (front.takeWhile (· = '#')).length := by
        rw [List.takeWhile_append, hback]
        split <;> simp_all
      simp only [List.cons_append, hashRun, ih, hrun]
      split <;> omega

@[simp] lemma hashRun_spaces_append (count : Nat) (text : List Char) :
    hashRun (List.replicate count ' ' ++ text) = hashRun text := by
  induction count with
  | zero => simp
  | succ count ih => simp [List.replicate_succ, ih]

/-! ## The body of a literal -/

/-- The closing quote of several lines stands on a line of its own, if the last one is ended. -/
def closingIndent (indent : Nat) (text : List Char) : List Char :=
  if text.getLast? = some '\n' then List.replicate indent ' ' else []

lemma literalBody_of_mem {text : List Char} (h : '\n' ∈ text) (indent : Nat) :
    literalBody indent text
      = '\n' :: ((Text.lines text).flatMap (indentLine indent) ++ closingIndent indent text) := by
  rw [literalBody, if_pos h]
  rfl

lemma exists_indentLine_eq (indent : Nat) (line : List Char) :
    ∃ count, indentLine indent line = List.replicate count ' ' ++ line := by
  rw [indentLine]
  split
  · exact ⟨0, by simp⟩
  · exact ⟨indent + 2, rfl⟩

/-- Indenting lines leaves the runs of hash signs as they are. -/
lemma hashRun_flatMap_indentLine (indent : Nat) (text : List Char) :
    hashRun ((Text.lines text).flatMap (indentLine indent)) = hashRun text := by
  induction text using Text.lineInduction with
  | nil => rfl
  | last line hline hne =>
      obtain ⟨count, hcount⟩ := exists_indentLine_eq indent line
      simp [Text.lines_of_not_mem hline hne, hcount]
  | line line rest hline ih =>
      obtain ⟨count, hcount⟩ := exists_indentLine_eq indent (line ++ ['\n'])
      rw [Text.lines_append_break hline, List.flatMap_cons, hcount, List.append_assoc,
        hashRun_spaces_append, List.append_assoc, List.singleton_append,
        hashRun_append (by simp), hashRun_append (by simp), hashRun_cons_of_ne (by simp), ih,
        hashRun_cons_of_ne (by simp)]

/-- Neither does the rest of the layout. -/
lemma hashRun_literalBody (indent : Nat) (text : List Char) :
    hashRun (literalBody indent text) = hashRun text := by
  by_cases h : '\n' ∈ text
  · have hclosing : closingIndent indent text = List.replicate indent ' ' ++ []
        ∨ closingIndent indent text = [] := by
      rw [closingIndent, List.append_nil]
      split <;> simp
    rw [literalBody_of_mem h, hashRun_cons_of_ne (by simp)]
    rcases hclosing with hclosing | hclosing
    · rw [hclosing, hashRun_append (by cases indent <;> simp [List.replicate_succ]),
        hashRun_spaces_append, hashRun_flatMap_indentLine]
      simp [hashRun]
    · rw [hclosing, List.append_nil, hashRun_flatMap_indentLine]
  · rw [literalBody, if_neg h]

/-- The layout adds no characters but spaces and line breaks. -/
lemma mem_of_mem_literalBody {indent : Nat} {text : List Char} {c : Char}
    (h : c ∈ literalBody indent text) : c ∈ text ∨ c = ' ' ∨ c = '\n' := by
  by_cases hbreak : '\n' ∈ text
  · rw [literalBody_of_mem hbreak, List.mem_cons, List.mem_append, List.mem_flatMap] at h
    rcases h with rfl | ⟨line, hline, hmem⟩ | hmem
    · simp
    · obtain ⟨count, hcount⟩ := exists_indentLine_eq indent line
      rw [hcount, List.mem_append, List.mem_replicate] at hmem
      rcases hmem with ⟨_, rfl⟩ | hmem
      · simp
      · have htext : c ∈ (Text.lines text).flatten := List.mem_flatten.mpr ⟨line, hline, hmem⟩
        rw [Text.flatten_lines] at htext
        exact Or.inl htext
    · rw [closingIndent] at hmem
      split at hmem
      · exact Or.inr (Or.inl (List.eq_of_mem_replicate hmem))
      · simp at hmem
  · rw [literalBody, if_neg hbreak] at h
    exact Or.inl h

lemma denotes_raw {hashes : Nat} {value : List Char} (hhashes : hashes ≠ 0)
    (h : ¬ closing hashes <:+: value) :
    Denotes (opening hashes ++ value ++ closing hashes) value := by
  simpa [opening, hhashes] using Denotes.raw hashes h

/-- **What is written as a literal is one**, and stands for the body that was laid out: nothing in
it ends the literal early. -/
theorem denotes_formatLiteral (indent : Nat) (text : List Char) :
    ∃ literal, formatLiteral indent text = '@' :: literal
      ∧ Denotes literal (literalBody indent text) := by
  refine ⟨opening (hashesFor text) ++ literalBody indent text ++ closing (hashesFor text),
    by simp [formatLiteral], ?_⟩
  by_cases hquote : '"' ∈ text
  · -- the literal has one hash sign more than any run behind a quote
    have hhashes : hashesFor text = hashRun text + 1 := by simp [hashesFor, hquote]
    rw [hhashes]
    refine denotes_raw (by omega) ?_
    intro hquoted
    have hle := le_hashRun_of_infix hquoted
    rw [hashRun_literalBody] at hle
    omega
  · have hbody : '"' ∉ literalBody indent text := by
      intro hmem
      have := mem_of_mem_literalBody hmem
      simp [hquote] at this
    by_cases hraw : '\\' ∈ text ∨ '\n' ∈ text
    · have hhashes : hashesFor text = 1 := by simp [hashesFor, hquote, hraw]
      rw [hhashes]
      refine denotes_raw (by omega) ?_
      intro hquoted
      exact hbody (hquoted.subset List.mem_cons_self)
    · have hhashes : hashesFor text = 0 := by simp [hashesFor, hquote, hraw]
      rw [not_or] at hraw
      rw [hhashes, literalBody, if_neg hraw.2]
      exact .plain hquote hraw.1

end SyntaxForge.Snapshot
