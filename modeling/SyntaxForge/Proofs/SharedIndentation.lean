import SyntaxForge.Proofs.LiteralRoundTrip
import SyntaxForge.Proofs.Sequences
import Mathlib.Data.List.TakeWhile
import Mathlib.Data.Set.Image
import Mathlib.Order.Bounds.Defs

/-!
# Taking shared indentation off

The indentation that the lines of a snapshot share is found among the lines that are not blank, and
it is a number of bytes.  The cut takes as many bytes off every line that is long enough.

* `Dedents`: a line loses white space at its start, and exactly the shared indentation if it is not
  blank.
* `dedents_of_cutLine?`: **a cut that succeeds never does more**.  A line that is not blank starts
  with at least as much white space, and a blank line has nothing else to lose.
* **`trimIndent?_dedents`**: the text of a snapshot, and when there is none.  Where lines are
  indented with white space of different widths, the cut may fall inside a character.
-/

namespace SyntaxForge.Snapshot

/-! ## Lines of a snapshot -/

/-- The text without the line break that it starts with. -/
def behindBreak : List Char → List Char
  | '\n' :: rest => rest
  | text => text

/-- The lines that lose their indentation. -/
def rows (text : List Char) : List (List Char) := Text.lines (behindBreak text)

/-- White space is taken off the start of a line, and just so many bytes of it if the line is not
blank. -/
def Dedents (bytes : Nat) (row rest : List Char) : Prop :=
  ∃ blanks, row = blanks ++ rest ∧ (∀ c ∈ blanks, Text.isBlank c = true)
    ∧ (Text.isBlankLine row = false → Text.byteLength blanks = bytes)

/-- Between two characters, so many bytes of the line are in front. -/
def HasBoundary (bytes : Nat) (row : List Char) : Prop :=
  ∃ front back, row = front ++ back ∧ Text.byteLength front = bytes

lemma getD_stripStart?_break (text : List Char) :
    (Text.stripStart? ['\n'] text).getD text = behindBreak text := by
  cases text with
  | nil => rfl
  | cons c rest =>
      by_cases hc : c = '\n'
      · subst hc
        rfl
      · rw [Text.stripStart?, if_neg (Ne.symm hc), behindBreak]
        · rfl
        · exact fun _ h => hc (List.cons.inj h).1

/-! ## Cuts -/

section Cuts

variable {bytes : Nat} {row front white rest : List Char}

/-- Of two texts that the same line starts with, the one with fewer bytes is inside the other. -/
lemma prefix_of_byteLength_le (hfront : front <+: row) (hwhite : white <+: row)
    (h : Text.byteLength front ≤ Text.byteLength white) : front <+: white := by
  rcases List.prefix_or_prefix_of_prefix hfront hwhite with hshorter | ⟨more, rfl⟩
  · exact hshorter
  · rw [Text.byteLength_append] at h
    have hmore := Text.eq_nil_of_byteLength_eq_zero (by omega : Text.byteLength more = 0)
    simp [hmore]

lemma exists_cutLine?_iff :
    (∃ rest, cutLine? bytes row = some rest)
      ↔ (bytes < Text.byteLength row → HasBoundary bytes row) := by
  rw [cutLine?]
  split
  · next hshort => simp [Nat.not_lt.mpr hshort]
  · next hlong =>
      simp only [Option.map_eq_some_iff, Prod.exists, Text.splitBytes?_eq_some_iff,
        Nat.lt_of_not_le hlong, forall_const, HasBoundary]
      constructor
      · rintro ⟨rest, front, back, hcut, -⟩
        exact ⟨front, back, hcut⟩
      · rintro ⟨front, back, hcut⟩
        exact ⟨back, front, back, hcut, rfl⟩

/-- **A cut takes off white space only**, provided that it is not behind the white space of a line
that is not blank. -/
lemma dedents_of_cutLine? (hmargin : Text.isBlankLine row = false → bytes ≤ lineMargin row)
    (hcut : cutLine? bytes row = some rest) : Dedents bytes row rest := by
  rw [cutLine?] at hcut
  split at hcut
  · next hshort =>
      -- a line that goes on behind its margin is not that short
      have hblank : Text.isBlankLine row ≠ false := by
        intro hblank
        have hlt := lineMargin_lt hblank
        have hle := hmargin hblank
        omega
      obtain rfl := Option.some.inj hcut
      refine ⟨row.takeWhile (· = ' '), List.takeWhile_append_dropWhile.symm, fun c hc => ?_,
        fun h => absurd h hblank⟩
      have hspace : c = ' ' := by simpa using List.mem_takeWhile_imp hc
      rw [hspace]
      rfl
  · obtain ⟨⟨blanks, back⟩, hsplit, rfl⟩ := Option.map_eq_some_iff.mp hcut
    obtain ⟨rfl, rfl⟩ := Text.splitBytes?_eq_some_iff.mp hsplit
    refine ⟨blanks, rfl, fun c hc => ?_, fun _ => rfl⟩
    cases hblank : Text.isBlankLine (blanks ++ back) with
    | true =>
        rw [Text.isBlankLine, List.all_eq_true] at hblank
        exact hblank c (List.mem_append_left _ hc)
    | false =>
        have hblanks := prefix_of_byteLength_le (List.prefix_append blanks back)
          (List.takeWhile_prefix Text.isBlank) (hmargin hblank)
        exact List.mem_takeWhile_imp (hblanks.subset hc)

end Cuts

/-! ## Texts of snapshots -/

lemma trimIndent?_eq (text : List Char) :
    trimIndent? text
      = ((rows text).mapM (cutLine? (margin (rows text)))).map List.flatten := by
  rw [trimIndent?, getD_stripStart?_break]
  rfl

/-- There is a text if every line can be cut that has to be. -/
lemma exists_trimIndent?_iff {text : List Char} :
    (∃ result, trimIndent? text = some result)
      ↔ ∀ row ∈ rows text, margin (rows text) < Text.byteLength row →
        HasBoundary (margin (rows text)) row := by
  simp only [trimIndent?_eq, Option.map_eq_some_iff, exists_comm (α := List Char),
    exists_and_left, exists_eq', and_true, exists_mapM_eq_some_iff, exists_cutLine?_iff]

lemma margin_le_lineMargin {text row : List Char} (hrow : row ∈ rows text)
    (hblank : Text.isBlankLine row = false) : margin (rows text) ≤ lineMargin row :=
  (margin_spec ⟨row, hrow, hblank⟩).2 row hrow hblank

/-- **What is left of a text without its shared indentation.**  The indentation is the least one of
a line that is not blank.  There is a text exactly if every line with more bytes than that can be
cut there; it consists of the lines, each of which has lost white space at its start, and just the
shared indentation if it is not blank. -/
theorem trimIndent?_dedents (text : List Char) :
    ((∃ row ∈ rows text, Text.isBlankLine row = false) →
        IsLeast (lineMargin '' {row | row ∈ rows text ∧ Text.isBlankLine row = false})
          (margin (rows text)))
      ∧ ((∃ result, trimIndent? text = some result)
        ↔ ∀ row ∈ rows text, margin (rows text) < Text.byteLength row →
          HasBoundary (margin (rows text)) row)
      ∧ ∀ result, trimIndent? text = some result →
        ∃ rests, result = rests.flatten
          ∧ List.Forall₂ (Dedents (margin (rows text))) (rows text) rests := by
  refine ⟨fun hsome => ?_, exists_trimIndent?_iff, fun result hresult => ?_⟩
  · obtain ⟨⟨row, hrow, hblank, hmargin⟩, hleast⟩ := margin_spec hsome
    refine ⟨⟨row, ⟨hrow, hblank⟩, hmargin⟩, ?_⟩
    rintro _ ⟨other, ⟨hother, hblank⟩, rfl⟩
    exact hleast other hother hblank
  · rw [trimIndent?_eq, Option.map_eq_some_iff] at hresult
    obtain ⟨rests, hrests, rfl⟩ := hresult
    have hcuts := List.forall₂_and_left _ _ |>.mpr
      ⟨fun row hrow => margin_le_lineMargin hrow, mapM_eq_some_iff.mp hrests⟩
    exact ⟨rests, rfl, hcuts.imp fun row rest ⟨hmargin, hcut⟩ => dedents_of_cutLine? hmargin hcut⟩

/-- White space of single bytes can be cut anywhere. -/
lemma hasBoundary_of_narrow {bytes : Nat} {white : List Char}
    (hnarrow : ∀ c ∈ white, c.utf8Size = 1) (rest : List Char)
    (hbytes : bytes ≤ Text.byteLength white) : HasBoundary bytes (white ++ rest) := by
  induction white generalizing bytes with
  | nil =>
      rw [Text.byteLength, Nat.le_zero] at hbytes
      exact ⟨[], rest, rfl, hbytes.symm⟩
  | cons c white ih =>
      rw [List.forall_mem_cons] at hnarrow
      cases bytes with
      | zero => exact ⟨[], _, rfl, rfl⟩
      | succ bytes =>
          rw [Text.byteLength, hnarrow.1] at hbytes
          obtain ⟨front, back, hcut, rfl⟩ := ih hnarrow.2 (by omega : bytes ≤ _)
          refine ⟨c :: front, back, congrArg (c :: ·) hcut, ?_⟩
          rw [Text.byteLength, hnarrow.1, Nat.add_comm]

lemma mem_of_mem_rows {text row : List Char} (hrow : row ∈ rows text) {c : Char} (hc : c ∈ row) :
    c ∈ text := by
  have hmem : c ∈ behindBreak text := by
    rw [← Text.flatten_lines (behindBreak text)]
    exact List.mem_flatten_of_mem hrow hc
  unfold behindBreak at hmem
  split at hmem
  · exact List.mem_cons_of_mem _ hmem
  · exact hmem

/-- **A text that is indented with spaces and tabs loses its indentation**, and so does every text
without wider white space. -/
theorem exists_trimIndent?_of_narrow {text : List Char}
    (hnarrow : ∀ c ∈ text, Text.isBlank c = true → c.utf8Size = 1) :
    ∃ result, trimIndent? text = some result := by
  refine exists_trimIndent?_iff.mpr fun row hrow hlong => ?_
  have hwhite : ∀ c ∈ row.takeWhile Text.isBlank, c.utf8Size = 1 := by
    intro c hc
    have hmem := (List.takeWhile_prefix Text.isBlank).subset hc
    exact hnarrow c (mem_of_mem_rows hrow hmem) (List.mem_takeWhile_imp hc)
  suffices hmargin : margin (rows text) ≤ lineMargin row by
    have hcut := hasBoundary_of_narrow hwhite (row.dropWhile Text.isBlank) hmargin
    rwa [List.takeWhile_append_dropWhile] at hcut
  cases hblank : Text.isBlankLine row with
  | false => exact margin_le_lineMargin hrow hblank
  | true =>
      rw [Text.isBlankLine, List.all_eq_true] at hblank
      rw [lineMargin, List.takeWhile_eq_self_iff.mpr hblank]
      exact hlong.le

example : trimIndent? "\n    a\n      b\n    ".toList = some "a\n  b\n".toList := by decide

/-- A blank line with wider white space than the other lines cannot be cut. -/
theorem trimIndent?_wide_blank : trimIndent? "\n a\n\u00a0\n b".toList = none := by
  decide

end SyntaxForge.Snapshot
