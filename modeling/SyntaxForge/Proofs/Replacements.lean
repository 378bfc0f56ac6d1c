import SyntaxForge.Snapshot.Edits
import Mathlib.Tactic.Lemma

/-!
# Replacing ranges of a text in any order

Ranges are given in offsets of the first text, and replaced one at a time in a text that earlier
replacements have already made longer or shorter.

* `patched` says what should come out: every character that no range covers is kept, and where a
  range starts its replacement stands.  It goes over the first text once and knows nothing of the
  order of the replacements.
* `Reached` is what holds of a file between two replacements: its text is `patched`, and its edits
  are those made so far, sorted.  `Reached.exists_replace?` is the step, `Reached.exists_replaceAll`
  the run.
* **`replaceAll_eq_patched`**: disjoint ranges may be replaced in any order.

What makes the step work is `byteLength_patchedFrom`: in front of a range, the text has grown by
exactly the growth of the edits that start there.
-/

namespace SyntaxForge.Snapshot

/-- A range of the first text and what is to be written in its place. -/
structure Replacement where
  span : Span
  text : List Char
  deriving DecidableEq, Repr

namespace Span

/-- Whether the byte at an offset belongs to the range. -/
def covers (span : Span) (offset : Nat) : Bool :=
  span.start ≤ offset && offset < span.start + span.length

/-- The ranges have no byte in common. -/
def Disjoint (a b : Span) : Prop :=
  a.start + a.length ≤ b.start ∨ b.start + b.length ≤ a.start

lemma Disjoint.symm {a b : Span} (h : a.Disjoint b) : b.Disjoint a :=
  Or.symm h

/-- The range is not empty, and both of its ends are between two characters of the text. -/
def IsIn (span : Span) (text : List Char) : Prop :=
  0 < span.length ∧ ∃ front old back, text = front ++ old ++ back
    ∧ Text.byteLength front = span.start ∧ Text.byteLength old = span.length

end Span

/-! ## The text that should come out -/

/-- What is written at an offset of the first text. -/
def insertedAt (replacements : List Replacement) (offset : Nat) : List Char :=
  (replacements.filter (·.span.start = offset)).flatMap Replacement.text

/-- Whether the byte at an offset of the first text is replaced. -/
def isReplaced (replacements : List Replacement) (offset : Nat) : Bool :=
  replacements.any (·.span.covers offset)

/-- What becomes of a piece of the first text that starts at an offset. -/
def patchedFrom (replacements : List Replacement) : Nat → List Char → List Char
  | _, [] => []
  | offset, c :: rest =>
    insertedAt replacements offset ++ (if isReplaced replacements offset then [] else [c])
      ++ patchedFrom replacements (offset + c.utf8Size) rest

/-- The text with every range replaced and everything else as it is. -/
def patched (replacements : List Replacement) (text : List Char) : List Char :=
  patchedFrom replacements 0 text

lemma insertedAt_cons (r : Replacement) (rs : List Replacement) (offset : Nat) :
    insertedAt (r :: rs) offset
      = (if r.span.start = offset then r.text else []) ++ insertedAt rs offset := by
  by_cases h : r.span.start = offset <;> simp [insertedAt, h]

lemma isReplaced_cons (r : Replacement) (rs : List Replacement) (offset : Nat) :
    isReplaced (r :: rs) offset = (r.span.covers offset || isReplaced rs offset) := by
  simp [isReplaced]

@[simp] lemma patchedFrom_nil_text (rs : List Replacement) (offset : Nat) :
    patchedFrom rs offset [] = [] := rfl

lemma patchedFrom_append (rs : List Replacement) (front back : List Char) :
    ∀ offset, patchedFrom rs offset (front ++ back)
      = patchedFrom rs offset front ++ patchedFrom rs (offset + Text.byteLength front) back := by
  induction front with
  | nil => simp [Text.byteLength]
  | cons c front ih =>
      intro offset
      simp only [List.cons_append, patchedFrom, ih, Text.byteLength, List.append_assoc,
        Nat.add_assoc]

/-- Nothing to replace leaves a text as it is. -/
@[simp] lemma patchedFrom_nil (text : List Char) : ∀ offset, patchedFrom [] offset text = text := by
  induction text with
  | nil => simp
  | cons c rest ih =>
      intro offset
      simp [patchedFrom, insertedAt, isReplaced, ih]

/-- A range that lies elsewhere makes no difference to a piece of the text. -/
lemma patchedFrom_cons_of_outside {r : Replacement} (hlength : 0 < r.span.length)
    (rs : List Replacement) (text : List Char) : ∀ {offset : Nat},
    r.span.start + r.span.length ≤ offset ∨ offset + Text.byteLength text ≤ r.span.start →
      patchedFrom (r :: rs) offset text = patchedFrom rs offset text := by
  induction text with
  | nil => simp
  | cons c rest ih =>
      intro offset houtside
      have hpos := c.utf8Size_pos
      simp only [Text.byteLength] at houtside
      have hstart : r.span.start ≠ offset := by omega
      have hcovers : r.span.covers offset = false := by
        simp only [Span.covers, Bool.and_eq_false_iff, decide_eq_false_iff_not]
        omega
      rw [patchedFrom, patchedFrom, insertedAt_cons, isReplaced_cons, if_neg hstart, hcovers,
        ih (by omega)]
      simp

/-- No range is empty or meets a given one. -/
def Avoid (rs : List Replacement) (span : Span) : Prop :=
  ∀ r ∈ rs, 0 < r.span.length ∧ r.span.Disjoint span

/-- A piece that no range meets stays as it is. -/
lemma patchedFrom_of_avoid {text : List Char} {offset : Nat} :
    ∀ {rs : List Replacement}, Avoid rs ⟨offset, Text.byteLength text⟩ →
      patchedFrom rs offset text = text
  | [], _ => patchedFrom_nil text offset
  | r :: rs, h => by
      obtain ⟨hlength, hdisjoint⟩ := h r List.mem_cons_self
      rw [patchedFrom_cons_of_outside hlength rs text hdisjoint,
        patchedFrom_of_avoid fun r hr => h r (List.mem_cons_of_mem _ hr)]

lemma insertedAt_of_avoid {rs : List Replacement} {offset length : Nat} (hlength : 0 < length)
    (h : Avoid rs ⟨offset, length⟩) : insertedAt rs offset = [] := by
  rw [insertedAt, List.flatMap_eq_nil_iff]
  intro r hr
  obtain ⟨hmem, hstart⟩ := List.mem_filter.mp hr
  have hr := h r hmem
  simp only [decide_eq_true_eq, Span.Disjoint] at hstart hr
  omega

/-- Behind its start nothing is left of a range. -/
lemma patchedFrom_cons_of_inside {r : Replacement} {rs : List Replacement} (text : List Char) :
    ∀ {offset : Nat}, r.span.start < offset →
      offset + Text.byteLength text ≤ r.span.start + r.span.length →
      Avoid rs ⟨offset, Text.byteLength text⟩ → patchedFrom (r :: rs) offset text = [] := by
  induction text with
  | nil => simp
  | cons c rest ih =>
      intro offset hstart hend havoid
      have hpos := c.utf8Size_pos
      simp only [Text.byteLength] at hend havoid
      have hcovers : r.span.covers offset = true := by
        simp only [Span.covers, Bool.and_eq_true, decide_eq_true_eq]
        omega
      have hrest : Avoid rs ⟨offset + c.utf8Size, Text.byteLength rest⟩ := by
        intro other hother
        have hother := havoid other hother
        simp only [Span.Disjoint] at hother ⊢
        omega
      rw [patchedFrom, insertedAt_cons, if_neg (by omega), insertedAt_of_avoid (by omega) havoid,
        isReplaced_cons, hcovers, ih (by omega) (by omega) hrest]
      simp

/-- A range turns into its replacement. -/
lemma patchedFrom_cons_self {r : Replacement} {rs : List Replacement} {old : List Char}
    (hlength : 0 < r.span.length) (hold : Text.byteLength old = r.span.length)
    (havoid : Avoid rs r.span) : patchedFrom (r :: rs) r.span.start old = r.text := by
  cases old with
  | nil => simp only [Text.byteLength] at hold; omega
  | cons c rest =>
      have hpos := c.utf8Size_pos
      simp only [Text.byteLength] at hold
      have hcovers : r.span.covers r.span.start = true := by
        simp [Span.covers, hlength]
      have hrest : Avoid rs ⟨r.span.start + c.utf8Size, Text.byteLength rest⟩ := by
        intro other hother
        have hother := havoid other hother
        simp only [Span.Disjoint] at hother ⊢
        omega
      rw [patchedFrom, insertedAt_cons, if_pos rfl, insertedAt_of_avoid hlength havoid,
        isReplaced_cons, hcovers, patchedFrom_cons_of_inside rest (by omega) (by omega) hrest]
      simp

section Split

variable {r : Replacement} {rs : List Replacement} {front old : List Char} (back : List Char)
  (hfront : Text.byteLength front = r.span.start) (hold : Text.byteLength old = r.span.length)
  (hlength : 0 < r.span.length) (havoid : Avoid rs r.span)

include hfront hold havoid

/-- Before a range is replaced, its characters stand between what becomes of the two sides. -/
lemma patched_eq_of_avoid :
    patched rs (front ++ old ++ back)
      = patchedFrom rs 0 front ++ (old
        ++ patchedFrom rs (r.span.start + r.span.length) back) := by
  have hmid : patchedFrom rs r.span.start old = old := by
    refine patchedFrom_of_avoid ?_
    rw [hold]
    exact havoid
  simp only [patched, patchedFrom_append, Nat.zero_add, hfront, hold, hmid, List.append_assoc]

include hlength

/-- Afterwards its replacement does, and the two sides are the same. -/
lemma patched_cons_eq :
    patched (r :: rs) (front ++ old ++ back)
      = patchedFrom rs 0 front ++ (r.text
        ++ patchedFrom rs (r.span.start + r.span.length) back) := by
  simp only [patched, patchedFrom_append, Nat.zero_add, hfront, hold,
    patchedFrom_cons_self hlength hold havoid, List.append_assoc]
  rw [patchedFrom_cons_of_outside hlength rs front (Or.inr (by omega)),
    patchedFrom_cons_of_outside hlength rs back (Or.inl (Nat.le_refl _))]

end Split

/-! ## How far a place has moved -/

/-- The edit that a replacement is recorded as. -/
def Replacement.edit (r : Replacement) : Edit where
  span := r.span
  newLength := Text.byteLength r.text

lemma totalGrowth_perm {a b : List Edit} (h : a.Perm b) : totalGrowth a = totalGrowth b := by
  induction h with
  | nil => rfl
  | cons edit _ ih => simp only [totalGrowth, ih]
  | swap x y rest => simp only [totalGrowth]; omega
  | trans _ _ ih₁ ih₂ => exact ih₁.trans ih₂

/-- Of two starts of a text, the one with fewer bytes is a start of the other. -/
lemma exists_append_of_byteLength_le {a b c d : List Char} (h : a ++ b = c ++ d)
    (hle : Text.byteLength a ≤ Text.byteLength c) : ∃ gap, c = a ++ gap := by
  rcases List.append_eq_append_iff.mp h with ⟨gap, rfl, _⟩ | ⟨gap, rfl, _⟩
  · exact ⟨gap, rfl⟩
  · rw [Text.byteLength_append] at hle
    have hgap : gap = [] := Text.eq_nil_of_byteLength_eq_zero (by omega)
    exact ⟨[], by simp [hgap]⟩

/-- **In front of a cut that no range crosses, the text has grown by the growth of the ranges that
start there.** -/
theorem byteLength_patchedFrom (front back : List Char) :
    ∀ {rs : List Replacement}, (∀ r ∈ rs, r.span.IsIn (front ++ back)) →
      rs.Pairwise (fun a b => a.span.Disjoint b.span) →
      (∀ r ∈ rs, r.span.start + r.span.length ≤ Text.byteLength front
        ∨ Text.byteLength front ≤ r.span.start) →
      (Text.byteLength (patchedFrom rs 0 front) : Int)
        = Text.byteLength front + totalGrowth
            ((rs.filter (·.span.start < Text.byteLength front)).map Replacement.edit)
  | [], _, _, _ => by simp [totalGrowth]
  | r :: rs, hin, hdisjoint, hcut => by
      obtain ⟨hhead, htail⟩ := List.pairwise_cons.mp hdisjoint
      have ih := byteLength_patchedFrom front back
        (fun r hr => hin r (List.mem_cons_of_mem _ hr)) htail
        (fun r hr => hcut r (List.mem_cons_of_mem _ hr))
      obtain ⟨hlength, before, old, after, htext, hbefore, hold⟩ := hin r List.mem_cons_self
      by_cases hstart : r.span.start < Text.byteLength front
      · -- the range lies in front of the cut, and `patched_cons_eq` compares the lengths
        have hend := (hcut r List.mem_cons_self).resolve_right (by omega)
        obtain ⟨gap, rfl⟩ := exists_append_of_byteLength_le htext.symm
          (by rw [Text.byteLength_append]; omega)
        have havoid : Avoid rs r.span := by
          intro other hother
          exact ⟨(hin other (List.mem_cons_of_mem _ hother)).1, (hhead other hother).symm⟩
        have hwithout := patched_eq_of_avoid gap hbefore hold havoid
        have hwith := patched_cons_eq gap hbefore hold hlength havoid
        rw [patched] at hwithout hwith
        rw [hwithout] at ih
        rw [hwith, List.filter_cons_of_pos (by simpa using hstart), List.map_cons, totalGrowth,
          Edit.growth, Replacement.edit]
        simp only [Text.byteLength_append] at ih ⊢
        omega
      · rw [patchedFrom_cons_of_outside hlength rs front (Or.inr (by omega)), ih,
          List.filter_cons_of_neg (by simpa using hstart)]

/-! ## Sorted edits -/

/-- The edits stand in the order of their starts. -/
def SortedByStart (edits : List Edit) : Prop :=
  edits.Pairwise fun a b => a.span.start < b.span.start

namespace EditedFile

variable {file : EditedFile}

/-- In sorted edits, the walk up to a place meets all edits in front of it. -/
lemma before_eq_filter (h : SortedByStart file.edits) (start : Nat) :
    file.before start = file.edits.filter (·.span.start < start) := by
  rw [before]
  generalize file.edits = edits at h
  induction edits with
  | nil => rfl
  | cons edit rest ih =>
      obtain ⟨hhead, hrest⟩ := List.pairwise_cons.mp h
      by_cases hedit : edit.span.start < start
      · simp [hedit, ih hrest]
      · rw [List.takeWhile_cons_of_neg (by simpa using hedit), eq_comm, List.filter_eq_nil_iff]
        intro other hother
        rcases List.mem_cons.mp hother with rfl | hother
        · simpa using hedit
        · have := hhead other hother
          simp only [decide_eq_true_eq]
          omega

/-- The other edits are not in front of it. -/
lemma le_of_mem_behind (h : SortedByStart file.edits) {start : Nat} {edit : Edit}
    (hedit : edit ∈ file.behind start) : start ≤ edit.span.start := by
  rw [behind] at hedit
  generalize file.edits = edits at h hedit
  induction edits with
  | nil => simp at hedit
  | cons first rest ih =>
      obtain ⟨hhead, hrest⟩ := List.pairwise_cons.mp h
      by_cases hfirst : first.span.start < start
      · rw [List.dropWhile_cons_of_pos (by simpa using hfirst)] at hedit
        exact ih hrest hedit
      · rw [List.dropWhile_cons_of_neg (by simpa using hfirst)] at hedit
        rcases List.mem_cons.mp hedit with rfl | hedit
        · omega
        · have := hhead edit hedit
          omega

/-- An edit with a new start is put where it belongs. -/
lemma sortedByStart_insert (h : SortedByStart file.edits) {edit : Edit}
    (hnew : ∀ other ∈ file.edits, other.span.start ≠ edit.span.start) :
    SortedByStart (file.before edit.span.start ++ edit :: file.behind edit.span.start) := by
  have hparts : SortedByStart (file.before edit.span.start ++ file.behind edit.span.start) := by
    rw [before, behind, List.takeWhile_append_dropWhile]
    exact h
  obtain ⟨hbefore, hbehind, hacross⟩ := List.pairwise_append.mp hparts
  have hless : ∀ other ∈ file.before edit.span.start, other.span.start < edit.span.start := by
    intro other hother
    rw [before_eq_filter h] at hother
    simpa using (List.mem_filter.mp hother).2
  refine List.pairwise_append.mpr ⟨hbefore, List.pairwise_cons.mpr ⟨?_, hbehind⟩, ?_⟩
  · intro other hother
    have hle := le_of_mem_behind h hother
    have hne := hnew other ((List.dropWhile_sublist _).subset hother)
    omega
  · intro earlier hearlier later hlater
    rcases List.mem_cons.mp hlater with rfl | hlater
    · exact hless earlier hearlier
    · exact hacross earlier hearlier later hlater

/-- Where a range starts now, as many bytes as it had at first are replaced. -/
lemma replace?_eq_map {span : Span} {front rest : List Char}
    (hcurrent : file.current = front ++ rest)
    (hstart : (span.start : Int) + file.shift span.start = Text.byteLength front)
    (new : List Char) :
    file.replace? span new = (Text.splitBytes? span.length rest).map fun (_, back) =>
      { file with
        current := front ++ (new ++ back)
        edits := file.before span.start
          ++ { span, newLength := Text.byteLength new } :: file.behind span.start } := by
  have hfront : Text.splitBytes? (Text.byteLength front) file.current = some (front, rest) :=
    Text.splitBytes?_eq_some_iff.mpr ⟨hcurrent, rfl⟩
  rw [replace?]
  cases hback : Text.splitBytes? span.length rest <;> simp [hstart, hfront, hback]

/-- A range that is found between two parts of the current text is replaced there. -/
lemma replace?_eq_some {span : Span} {front old back : List Char}
    (hcurrent : file.current = front ++ (old ++ back))
    (hstart : (span.start : Int) + file.shift span.start = Text.byteLength front)
    (hold : Text.byteLength old = span.length) (new : List Char) :
    file.replace? span new = some
      { file with
        current := front ++ (new ++ back)
        edits := file.before span.start
          ++ { span, newLength := Text.byteLength new } :: file.behind span.start } := by
  rw [replace?_eq_map hcurrent hstart, Text.splitBytes?_eq_some_iff.mpr ⟨rfl, hold⟩]
  rfl

/-- Replaces one range after the other. -/
def replaceAll (file : EditedFile) (replacements : List Replacement) : Option EditedFile :=
  replacements.foldlM (fun file r => file.replace? r.span r.text) file

end EditedFile

/-! ## The run -/

/-- What holds of a file that started as a text, after some replacements. -/
structure Reached (text : List Char) (done : List Replacement) (file : EditedFile) : Prop where
  initial : file.initial = text
  current : file.current = patched done text
  edits : file.edits.Perm (done.map Replacement.edit)
  sorted : SortedByStart file.edits

namespace Reached

variable {text : List Char} {done : List Replacement} {file : EditedFile}

lemma ofText (text : List Char) : Reached text [] (.ofText text) where
  initial := rfl
  current := by simp [EditedFile.ofText, patched]
  edits := .refl _
  sorted := .nil

/-- A place has moved by the growth of the ranges in front of it. -/
lemma shift_eq (h : Reached text done file) (start : Nat) :
    file.shift start = totalGrowth ((done.filter (·.span.start < start)).map Replacement.edit) := by
  rw [EditedFile.shift, EditedFile.before_eq_filter h.sorted, totalGrowth_perm (h.edits.filter _),
    List.filter_map]
  rfl

/-- A cut of the first text that no range crosses is now where the replaced front ends. -/
lemma start_add_shift (h : Reached text done file) {front back : List Char}
    (htext : text = front ++ back) (hin : ∀ r ∈ done, r.span.IsIn text)
    (hdisjoint : done.Pairwise fun a b => a.span.Disjoint b.span)
    (hcut : ∀ r ∈ done, r.span.start + r.span.length ≤ Text.byteLength front
      ∨ Text.byteLength front ≤ r.span.start) :
    (Text.byteLength front : Int) + file.shift (Text.byteLength front)
      = Text.byteLength (patchedFrom done 0 front) := by
  subst htext
  rw [h.shift_eq, byteLength_patchedFrom front back hin hdisjoint hcut]

/-- **One more range can be replaced**, if it is disjoint from the others. -/
theorem exists_replace? (h : Reached text done file) {r : Replacement}
    (hin : ∀ other ∈ r :: done, other.span.IsIn text)
    (hdisjoint : (r :: done).Pairwise fun a b => a.span.Disjoint b.span) :
    ∃ next, file.replace? r.span r.text = some next ∧ Reached text (r :: done) next := by
  obtain ⟨hhead, htail⟩ := List.pairwise_cons.mp hdisjoint
  obtain ⟨hlength, front, old, back, rfl, hfront, hold⟩ := hin r List.mem_cons_self
  have havoid : Avoid done r.span := by
    intro other hother
    exact ⟨(hin other (List.mem_cons_of_mem _ hother)).1, (hhead other hother).symm⟩
  have hcurrent := h.current
  rw [patched_eq_of_avoid back hfront hold havoid] at hcurrent
  have hcut : ∀ other ∈ done, other.span.start + other.span.length ≤ Text.byteLength front
      ∨ Text.byteLength front ≤ other.span.start := by
    intro other hother
    have hother := havoid other hother
    simp only [Span.Disjoint] at hother
    omega
  -- the range now starts where the replaced front ends
  have hstart := h.start_add_shift (List.append_assoc front old back)
    (fun other hother => hin other (List.mem_cons_of_mem _ hother)) htail hcut
  rw [hfront] at hstart
  have hnew : ∀ other ∈ file.edits, other.span.start ≠ r.edit.span.start := by
    intro other hother
    obtain ⟨before, hbefore, rfl⟩ := List.mem_map.mp (h.edits.mem_iff.mp hother)
    have hbefore := havoid before hbefore
    simp only [Span.Disjoint, Replacement.edit] at hbefore ⊢
    omega
  have hedits : (r.edit :: file.edits).Perm ((r :: done).map Replacement.edit) :=
    h.edits.cons r.edit
  refine ⟨_, EditedFile.replace?_eq_some hcurrent hstart hold r.text, h.initial, ?_, ?_,
    EditedFile.sortedByStart_insert h.sorted hnew⟩
  · exact (patched_cons_eq back hfront hold hlength havoid).symm
  · refine List.perm_middle.trans (.trans (.of_eq ?_) hedits)
    rw [EditedFile.before, EditedFile.behind, List.takeWhile_append_dropWhile, Replacement.edit]

/-- **A run of replacements succeeds**, and reaches what they ask for. -/
theorem exists_replaceAll : ∀ (rest : List Replacement) {done : List Replacement}
    {file : EditedFile},
    Reached text done file → (∀ r ∈ rest ++ done, r.span.IsIn text) →
      (rest ++ done).Pairwise (fun a b => a.span.Disjoint b.span) →
      ∃ last, file.replaceAll rest = some last ∧ Reached text (rest.reverse ++ done) last
  | [], done, file, h, _, _ => ⟨file, rfl, h⟩
  | r :: rest, done, file, h, hin, hdisjoint => by
      -- the next range joins those that are done, which only changes the order
      have hperm : (r :: rest ++ done).Perm (rest ++ r :: done) := List.perm_middle.symm
      have hin' : ∀ other ∈ rest ++ r :: done, other.span.IsIn text := fun other hother =>
        hin other (hperm.mem_iff.mpr hother)
      have hdisjoint' := (hperm.pairwise_iff fun h => Span.Disjoint.symm h).mp hdisjoint
      obtain ⟨next, hnext, hreached⟩ := h.exists_replace?
        (fun other hother => hin' other (List.mem_append_right _ hother))
        (List.pairwise_append.mp hdisjoint').2.1
      obtain ⟨last, hlast, hreached⟩ := exists_replaceAll rest hreached hin' hdisjoint'
      refine ⟨last, ?_, by simpa using hreached⟩
      rw [EditedFile.replaceAll, List.foldlM_cons, hnext]
      exact hlast

end Reached

/-! ## Any order -/

lemma insertedAt_perm {a b : List Replacement} (h : a.Perm b) (offset : Nat)
    (hstarts : a.Pairwise fun r s => r.span.start ≠ s.span.start) :
    insertedAt a offset = insertedAt b offset := by
  induction h with
  | nil => rfl
  | cons r _ ih => rw [insertedAt_cons, insertedAt_cons, ih (List.pairwise_cons.mp hstarts).2]
  | swap r s rest =>
      have hne := (List.pairwise_cons.mp hstarts).1 r List.mem_cons_self
      simp only [insertedAt_cons, ← List.append_assoc]
      -- at most one of the two starts here
      by_cases hr : r.span.start = offset
      · simp [hr, show s.span.start ≠ offset by omega]
      · simp [hr]
  | trans h₁ _ ih₁ ih₂ =>
      exact (ih₁ hstarts).trans (ih₂ ((h₁.pairwise_iff fun h => Ne.symm h).mp hstarts))

/-- The order of disjoint replacements makes no difference to what should come out. -/
lemma patchedFrom_perm {a b : List Replacement} (h : a.Perm b)
    (hstarts : a.Pairwise fun r s => r.span.start ≠ s.span.start) (text : List Char) :
    ∀ offset, patchedFrom a offset text = patchedFrom b offset text := by
  induction text with
  | nil => simp
  | cons c rest ih =>
      intro offset
      rw [patchedFrom, patchedFrom, insertedAt_perm h offset hstarts, isReplaced, isReplaced,
        h.any_eq, ih]

lemma start_ne_of_disjoint {text : List Char} {a b : Span} (ha : a.IsIn text) (hb : b.IsIn text)
    (h : a.Disjoint b) : a.start ≠ b.start := by
  have := ha.1
  have := hb.1
  simp only [Span.Disjoint] at h
  omega

/-- **Disjoint ranges may be replaced in any order.**  Given ranges of a text, none of them empty
and no two with a byte in common, replacing them in any order succeeds and leaves the text with
every range replaced and everything else unchanged.  It succeeds at every step on the way, where the
edits made so far are recorded in the order of their starts. -/
theorem replaceAll_eq_patched {text : List Char} {replacements order : List Replacement}
    (hin : ∀ r ∈ replacements, r.span.IsIn text)
    (hdisjoint : replacements.Pairwise fun a b => a.span.Disjoint b.span)
    (horder : order.Perm replacements) :
    (∃ file, (EditedFile.ofText text).replaceAll order = some file
        ∧ file.current = patched replacements text)
      ∧ ∀ done rest, order = done ++ rest →
        ∃ file, (EditedFile.ofText text).replaceAll done = some file
          ∧ file.edits.Perm (done.map Replacement.edit) ∧ SortedByStart file.edits := by
  have hin' : ∀ r ∈ order, r.span.IsIn text := fun r hr => hin r (horder.mem_iff.mp hr)
  have hdisjoint' := (horder.pairwise_iff fun h => Span.Disjoint.symm h).mpr hdisjoint
  constructor
  · obtain ⟨file, hrun, hreached⟩ := (Reached.ofText text).exists_replaceAll order
      (by simpa using hin') (by simpa using hdisjoint')
    refine ⟨file, hrun, ?_⟩
    rw [hreached.current, List.append_nil]
    refine patchedFrom_perm ((List.reverse_perm order).trans horder) ?_ text 0
    rw [List.pairwise_reverse]
    refine hdisjoint'.imp_of_mem ?_
    intro a b ha hb h
    exact (start_ne_of_disjoint (hin' a ha) (hin' b hb) h).symm
  · rintro done rest rfl
    obtain ⟨file, hrun, hreached⟩ := (Reached.ofText text).exists_replaceAll done
      (fun r hr => hin' r (List.mem_append_left _ (by simpa using hr)))
      (by simpa using (List.pairwise_append.mp hdisjoint').1)
    refine ⟨file, hrun, hreached.edits.trans ?_, hreached.sorted⟩
    rw [List.append_nil]
    exact (List.reverse_perm done).map _

/-- Three words, each to be replaced by one of another length. -/
def threeWords : List Replacement :=
  [{ span := ⟨0, 5⟩, text := "a".toList }, { span := ⟨6, 3⟩, text := "zwei".toList },
   { span := ⟨10, 5⟩, text := "3".toList }]

theorem replaceAll_eq_patched_threeWords :
    ∃ file, (EditedFile.ofText "één two three".toList).replaceAll threeWords.reverse = some file
      ∧ file.current = "a zwei 3".toList := by
  have hin : ∀ r ∈ threeWords, r.span.IsIn "één two three".toList := by
    intro r hr
    simp only [threeWords, List.mem_cons, List.not_mem_nil, or_false] at hr
    rcases hr with rfl | rfl | rfl
    · exact ⟨by decide, [], "één".toList, " two three".toList, by decide, by decide, by decide⟩
    · exact ⟨by decide, "één ".toList, "two".toList, " three".toList, by decide, by decide,
        by decide⟩
    · exact ⟨by decide, "één two ".toList, "three".toList, [], by decide, by decide, by decide⟩
  have hdisjoint : threeWords.Pairwise fun a b => a.span.Disjoint b.span := by
    simp [threeWords, Span.Disjoint]
  obtain ⟨file, hrun, hcurrent⟩ :=
    (replaceAll_eq_patched hin hdisjoint (List.reverse_perm threeWords)).1
  refine ⟨file, hrun, ?_⟩
  rw [hcurrent]
  decide

end SyntaxForge.Snapshot
