import SyntaxForge.Proofs.Replacements

/-!
# Replacing a range again

A snapshot may differ more than once in a run, and it is found at the same range of the first text
every time.  A second replacement starts at the right place, because what stands in front of the
range has been accounted for.  It takes away as many bytes as the range had at first, though, and
not those that stand there now.

* `retexted` lists the replacements that should be in force after the second one.
* `Reached.replace?_again` says what a second replacement does.
* **`replace?_again_iff`**: it does what it should exactly if the first one has left as many bytes
  as it found.  `replaceAll_twice_ne` is a snapshot that one update gets right and two do not.
-/

namespace SyntaxForge.Snapshot

/-- The replacements with another text for one of the ranges. -/
def retexted (span : Span) (new : List Char) (done : List Replacement) : List Replacement :=
  done.map fun r => if r.span = span then { r with text := new } else r

/-- A front, and behind it a new text in place of the first bytes of the rest. -/
def overwritten? (length : Nat) (front new rest : List Char) : Option (List Char) :=
  (Text.splitBytes? length rest).map fun (_, kept) => front ++ (new ++ kept)

/-- What follows a text stays exactly if as many bytes are overwritten as the text has. -/
lemma overwritten?_eq_some_iff {length : Nat} {front new old back : List Char} :
    overwritten? length front new (old ++ back) = some (front ++ (new ++ back))
      ↔ Text.byteLength old = length := by
  constructor
  · intro h
    obtain ⟨⟨cut, kept⟩, hcut, heq⟩ := Option.map_eq_some_iff.mp h
    obtain rfl : kept = back := List.append_cancel_left (List.append_cancel_left heq)
    obtain ⟨happend, hlength⟩ := Text.splitBytes?_eq_some_iff.mp hcut
    rw [List.append_cancel_right happend, hlength]
  · intro h
    rw [overwritten?, Text.splitBytes?_eq_some_iff.mpr ⟨rfl, h⟩]
    rfl

/-! ## One range among others -/

section Disjoint

variable {text : List Char} {done others : List Replacement} {r : Replacement}

/-- Disjoint ranges start at different places. -/
lemma pairwise_start_ne (hin : ∀ r ∈ done, r.span.IsIn text)
    (hdisjoint : done.Pairwise fun a b => a.span.Disjoint b.span) :
    done.Pairwise fun a b => a.span.start ≠ b.span.start :=
  hdisjoint.imp_of_mem fun ha hb h => start_ne_of_disjoint (hin _ ha) (hin _ hb) h

/-- A new text for a range leaves the other ranges alone. -/
lemma retexted_perm (hperm : done.Perm (r :: others))
    (hothers : ∀ other ∈ others, r.span.start ≠ other.span.start) (new : List Char) :
    (retexted r.span new done).Perm ({ r with text := new } :: others) := by
  have hkept : retexted r.span new others = others := by
    refine (List.map_congr_left fun other hother => ?_).trans (List.map_id' others)
    have hne : other.span ≠ r.span := fun heq => hothers other hother (heq ▸ rfl)
    rw [if_neg hne]
  have hfirst : retexted r.span new (r :: others) = { r with text := new } :: others := by
    rw [retexted, List.map_cons, if_pos rfl, ← retexted, hkept]
  exact hfirst ▸ hperm.map _

/-- The text with the new replacements in force, the one in question put in front. -/
lemma patched_retexted (hin : ∀ other ∈ r :: others, other.span.IsIn text)
    (hdisjoint : (r :: others).Pairwise fun a b => a.span.Disjoint b.span)
    (hperm : done.Perm (r :: others)) (new : List Char) :
    patched (retexted r.span new done) text = patched ({ r with text := new } :: others) text := by
  have hstarts := List.pairwise_cons.mp (pairwise_start_ne hin hdisjoint)
  have hretexted := retexted_perm hperm hstarts.1 new
  refine patchedFrom_perm hretexted ?_ text 0
  exact (hretexted.pairwise_iff fun h => Ne.symm h).mpr (List.pairwise_cons.mpr hstarts)

end Disjoint

namespace Reached

variable {text : List Char} {done others : List Replacement} {file : EditedFile} {r : Replacement}

/-- The order in which the replacements are listed does not matter. -/
lemma of_perm (h : Reached text done file)
    (hstarts : done.Pairwise fun a b => a.span.start ≠ b.span.start) (hperm : done.Perm others) :
    Reached text others file where
  initial := h.initial
  current := h.current.trans (patchedFrom_perm hperm hstarts text 0)
  edits := h.edits.trans (hperm.map _)
  sorted := h.sorted

/-- What a run of replacements reaches, with those that were made listed in any order. -/
lemma of_replaceAll (hin : ∀ r ∈ done, r.span.IsIn text)
    (hdisjoint : done.Pairwise fun a b => a.span.Disjoint b.span)
    (hrun : (EditedFile.ofText text).replaceAll done = some file) (hperm : done.Perm others) :
    Reached text others file := by
  obtain ⟨last, hlast, hreached⟩ := (Reached.ofText text).exists_replaceAll done
    (by simpa using hin) (by simpa using hdisjoint)
  obtain rfl : last = file := Option.some.inj (hlast.symm.trans hrun)
  rw [List.append_nil] at hreached
  have hstarts : done.reverse.Pairwise fun a b => a.span.start ≠ b.span.start :=
    (done.reverse_perm.pairwise_iff fun h => Ne.symm h).mpr (pairwise_start_ne hin hdisjoint)
  exact hreached.of_perm hstarts (done.reverse_perm.trans hperm)

/-- **A second replacement takes away as many bytes as there were at first.**  They are counted from
the start of what the first one has left, and go on into what follows if that is too short. -/
theorem replace?_again (h : Reached text (r :: others) file)
    (hin : ∀ other ∈ r :: others, other.span.IsIn text)
    (hdisjoint : (r :: others).Pairwise fun a b => a.span.Disjoint b.span) :
    ∃ front back, file.current = front ++ (r.text ++ back)
      ∧ ∀ new, patched ({ r with text := new } :: others) text = front ++ (new ++ back)
        ∧ (file.replace? r.span new).map EditedFile.current
          = overwritten? r.span.length front new (r.text ++ back) := by
  obtain ⟨hlength, before, old, after, rfl, hbefore, hold⟩ := hin r List.mem_cons_self
  have havoid : Avoid others r.span := by
    intro other hother
    exact ⟨(hin other (List.mem_cons_of_mem _ hother)).1,
      ((List.pairwise_cons.mp hdisjoint).1 other hother).symm⟩
  have hpatched : ∀ new, patched ({ r with text := new } :: others) (before ++ old ++ after)
      = patchedFrom others 0 before
        ++ (new ++ patchedFrom others (r.span.start + r.span.length) after) := fun new =>
    patched_cons_eq (r := { r with text := new }) after hbefore hold hlength havoid
  have hcurrent := h.current.trans (hpatched r.text)
  refine ⟨_, _, hcurrent, fun new => ⟨hpatched new, ?_⟩⟩
  have hcut : ∀ other ∈ r :: others,
      other.span.start + other.span.length ≤ Text.byteLength before
        ∨ Text.byteLength before ≤ other.span.start := by
    intro other hother
    rcases List.mem_cons.mp hother with rfl | hother
    · exact Or.inr (Nat.le_of_eq hbefore)
    · have hother := havoid other hother
      simp only [Span.Disjoint] at hother
      omega
  have hstart := h.start_add_shift (List.append_assoc before old after) hin hdisjoint hcut
  rw [patchedFrom_cons_of_outside hlength others before (Or.inr (by omega)), hbefore] at hstart
  rw [EditedFile.replace?_eq_map hcurrent hstart, Option.map_map, overwritten?]
  rfl

end Reached

/-! ## A second replacement -/

/-- **A range may be replaced again exactly if its replacement has its length.**  Disjoint ranges of
a text have been replaced, one of them that of `r`.  Replacing this range again should leave what
stands in front of its replacement, the new text, and what follows.  It overwrites the first
`r.span.length` bytes behind the front instead, and fails if these are no whole characters.  The two
agree, and writing the same text again changes nothing, exactly if the first replacement has as many
bytes as the range. -/
theorem replace?_again_iff {text : List Char} {done : List Replacement} {file : EditedFile}
    {r : Replacement} (hin : ∀ r ∈ done, r.span.IsIn text)
    (hdisjoint : done.Pairwise fun a b => a.span.Disjoint b.span)
    (hrun : (EditedFile.ofText text).replaceAll done = some file) (hr : r ∈ done) :
    ∃ front back, file.current = front ++ (r.text ++ back)
      ∧ (∀ new, patched (retexted r.span new done) text = front ++ (new ++ back)
        ∧ (file.replace? r.span new).map EditedFile.current
          = overwritten? r.span.length front new (r.text ++ back)
        ∧ ((file.replace? r.span new).map EditedFile.current
            = some (patched (retexted r.span new done) text)
          ↔ Text.byteLength r.text = r.span.length))
      ∧ ((file.replace? r.span r.text).map EditedFile.current = some file.current
        ↔ Text.byteLength r.text = r.span.length) := by
  -- the range in question is put in front of the others
  have hperm : done.Perm (r :: done.erase r) := List.perm_cons_erase hr
  have hin' : ∀ other ∈ r :: done.erase r, other.span.IsIn text := fun other hother =>
    hin other (hperm.mem_iff.mpr hother)
  have hdisjoint' := (hperm.pairwise_iff fun h => Span.Disjoint.symm h).mp hdisjoint
  obtain ⟨front, back, hcurrent, hagain⟩ :=
    (Reached.of_replaceAll hin hdisjoint hrun hperm).replace?_again hin' hdisjoint'
  have hpatched : ∀ new, patched (retexted r.span new done) text = front ++ (new ++ back) :=
    fun new => (patched_retexted hin' hdisjoint' hperm new).trans (hagain new).1
  refine ⟨front, back, hcurrent, fun new => ⟨hpatched new, (hagain new).2, ?_⟩, ?_⟩
  · rw [(hagain new).2, hpatched]
    exact overwritten?_eq_some_iff
  · rw [(hagain r.text).2, hcurrent]
    exact overwritten?_eq_some_iff

/-- Two words, the second to be replaced by one of its own length. -/
def twoWords : List Replacement :=
  [{ span := ⟨0, 5⟩, text := "a".toList }, { span := ⟨6, 3⟩, text := "2.0".toList }]

theorem replace?_again_iff_twoWords :
    ∃ file, (EditedFile.ofText "één two three".toList).replaceAll twoWords = some file
      ∧ file.current = "a 2.0 three".toList
      ∧ (file.replace? ⟨6, 3⟩ "zwei".toList).map EditedFile.current
        = some "a zwei three".toList := by
  have hin : ∀ r ∈ twoWords, r.span.IsIn "één two three".toList := by
    intro r hr
    simp only [twoWords, List.mem_cons, List.not_mem_nil, or_false] at hr
    rcases hr with rfl | rfl
    · exact ⟨by decide, [], "één".toList, " two three".toList, by decide, by decide, by decide⟩
    · exact ⟨by decide, "één ".toList, "two".toList, " three".toList, by decide, by decide,
        by decide⟩
  have hdisjoint : twoWords.Pairwise fun a b => a.span.Disjoint b.span := by
    simp [twoWords, Span.Disjoint]
  obtain ⟨file, hrun, hreached⟩ := (Reached.ofText "één two three".toList).exists_replaceAll
    twoWords (by simpa using hin) (by simpa using hdisjoint)
  obtain ⟨front, back, _, hagain, _⟩ := replace?_again_iff hin hdisjoint hrun
    (r := { span := ⟨6, 3⟩, text := "2.0".toList }) (by decide)
  refine ⟨file, hrun, ?_, ?_⟩
  · rw [hreached.current]
    decide
  · rw [(hagain "zwei".toList).2.2.mpr (by decide)]
    decide

/-- The snapshot of a call, filled in. -/
def filledSnapshot : Replacement where
  span := ⟨2, 3⟩
  text := "@\"abc\"".toList

/-- Filling a snapshot in leaves the call with its text, and filling it in once more leaves the end
of that text behind it. -/
theorem replaceAll_twice_ne :
    ((EditedFile.ofText "f(@\"\")".toList).replaceAll [filledSnapshot]).map EditedFile.current
        = some "f(@\"abc\")".toList
      ∧ ((EditedFile.ofText "f(@\"\")".toList).replaceAll [filledSnapshot, filledSnapshot]).map
          EditedFile.current
        = some "f(@\"abc\"bc\")".toList
      ∧ ((EditedFile.ofText "f(@\"\")".toList).replaceAll [filledSnapshot, filledSnapshot]).map
          EditedFile.current
        ≠ some (patched [filledSnapshot] "f(@\"\")".toList) := by
  decide

end SyntaxForge.Snapshot
