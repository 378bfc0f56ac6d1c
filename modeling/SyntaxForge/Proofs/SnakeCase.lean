import SyntaxForge.Api.Buildables
import Mathlib.Data.Set.Function
import Mathlib.Tactic.Lemma

/-!
# Names in snake case

Snake case forgets which letters are capitals and keeps an underscore in front of every capital but
the first.  For the names that kinds and slots are declared with (`Text.IsPascal`) this is enough:
`Text.pascal` starts every word with a capital and makes all other letters small, which gives the
name back.

* `Text.Recases`: what the argument asks of a way to recase letters.  Making them capital and making
  them small both have it (`Text.recases_toUpper`, `Text.recases_toLower`).
* **`Text.leftInvOn_pascal`**: names are read back from either conversion.
* **`Api.lowerSnake_eq_of_fieldName_eq`**: the underscore behind a keyword is told from those of the
  conversion, which never stand at the end.
* **`Api.snake_keeps_apart`**: kinds with different names go by different names in trees, and slots
  with different names have different fields.
-/

namespace SyntaxForge

namespace Text

/-! ## Recasing letters -/

/-- A way to recase letters that leaves a character what it is up to its case, and makes no
underscore of anything else. -/
structure Recases (recase : Char → Char) : Prop where
  ne_underscore {c : Char} (h : c ≠ '_') : recase c ≠ '_'
  toUpper_recase {c : Char} (h : c.isLower = false) : (recase c).toUpper = c
  toLower_recase {c : Char} (h : c.isUpper = false) : (recase c).toLower = c

theorem recases_toUpper : Recases Char.toUpper where
  ne_underscore := by
    intro c h
    cases hlower : c.isLower with
    | false => rwa [toUpper_eq_self hlower]
    | true =>
        intro heq
        have hupper := isUpper_toUpper hlower
        rw [heq] at hupper
        exact absurd hupper (by decide)
  toUpper_recase := by
    intro c h
    rw [toUpper_eq_self h, toUpper_eq_self h]
  toLower_recase := by
    intro c h
    cases hlower : c.isLower with
    | false => rw [toUpper_eq_self hlower, toLower_eq_self h]
    | true => exact toLower_toUpper hlower

theorem recases_toLower : Recases Char.toLower where
  ne_underscore := by
    intro c h
    cases hupper : c.isUpper with
    | false => rwa [toLower_eq_self hupper]
    | true =>
        intro heq
        have hlower := isLower_toLower hupper
        rw [heq] at hlower
        exact absurd hlower (by decide)
  toUpper_recase := by
    intro c h
    cases hupper : c.isUpper with
    | false => rw [toLower_eq_self hupper, toUpper_eq_self h]
    | true => exact toUpper_toLower hupper
  toLower_recase := by
    intro c h
    rw [toLower_eq_self h, toLower_eq_self h]

/-! ## Reading names back -/

/-- A name of words without underscores that does not start with a small letter. -/
def IsPascal (name : String) : Prop :=
  '_' ∉ name.toList ∧ name.toList.head?.any Char.isLower = false

instance : DecidablePred IsPascal := fun _ => inferInstanceAs (Decidable (_ ∧ _))

/-- Joins words: the underscores go, and a letter is a capital exactly where a word starts. -/
def pascalFrom (isStart : Bool) : List Char → List Char
  | [] => []
  | c :: rest =>
    if c = '_' then pascalFrom true rest
    else (if isStart then c.toUpper else c.toLower) :: pascalFrom false rest

/-- `LeftBrace` for `left_brace` and for `LEFT_BRACE`. -/
def pascal (name : String) : String :=
  String.ofList (pascalFrom true name.toList)

/-- What a character behind the first one is converted to. -/
def snakePart (recase : Char → Char) (c : Char) : List Char :=
  if c.isUpper then ['_', recase c] else [recase c]

lemma snake_cons (recase : Char → Char) (c : Char) (rest : List Char) :
    snake recase (c :: rest) = recase c :: rest.flatMap (snakePart recase) := rfl

variable {recase : Char → Char}

/-- A letter is read back where a word starts, if it is no small one. -/
lemma pascalFrom_true_cons (h : Recases recase) {c : Char} (hc : c ≠ '_')
    (hlower : c.isLower = false) (rest : List Char) :
    pascalFrom true (recase c :: rest) = c :: pascalFrom false rest := by
  simp [pascalFrom, h.ne_underscore hc, h.toUpper_recase hlower]

/-- Inside a name every character is read back, capitals by their underscore. -/
lemma pascalFrom_snakePart (h : Recases recase) {c : Char} (hc : c ≠ '_') (rest : List Char) :
    pascalFrom false (snakePart recase c ++ rest) = c :: pascalFrom false rest := by
  cases hupper : c.isUpper with
  | false => simp [snakePart, hupper, pascalFrom, h.ne_underscore hc, h.toLower_recase hupper]
  | true =>
      have hstart := pascalFrom_true_cons h hc (isLower_eq_false hupper) rest
      simpa [snakePart, hupper, pascalFrom] using hstart

/-- All of a name behind its first character is read back. -/
lemma pascalFrom_flatMap (h : Recases recase) {name : List Char} (hname : '_' ∉ name) :
    pascalFrom false (name.flatMap (snakePart recase)) = name := by
  induction name with
  | nil => rfl
  | cons c rest ih =>
      rw [List.mem_cons, not_or] at hname
      rw [List.flatMap_cons, pascalFrom_snakePart h (Ne.symm hname.1), ih hname.2]

lemma pascalFrom_snake (h : Recases recase) {name : List Char} (hname : '_' ∉ name)
    (hfirst : name.head?.any Char.isLower = false) :
    pascalFrom true (snake recase name) = name := by
  cases name with
  | nil => rfl
  | cons c rest =>
      rw [List.mem_cons, not_or] at hname
      rw [snake_cons, pascalFrom_true_cons h (Ne.symm hname.1) hfirst,
        pascalFrom_flatMap h hname.2]

/-- **Names are read back from snake case.** -/
theorem leftInvOn_pascal (h : Recases recase) :
    Set.LeftInvOn pascal (fun name => String.ofList (snake recase name.toList))
      {name | IsPascal name} := by
  intro name hname
  rw [pascal, String.toList_ofList, pascalFrom_snake h hname.1 hname.2, String.ofList_toList]

lemma injOn_upperSnake : Set.InjOn upperSnake {name | IsPascal name} :=
  (leftInvOn_pascal recases_toUpper).injOn

lemma injOn_lowerSnake : Set.InjOn lowerSnake {name | IsPascal name} :=
  (leftInvOn_pascal recases_toLower).injOn

/-! ## The end of a converted name -/

/-- Underscores are put in front of letters, so a converted name ends as the name does. -/
lemma getLast?_snake (name : List Char) :
    (snake recase name).getLast? = name.getLast?.map recase := by
  cases name with
  | nil => rfl
  | cons c rest =>
      rw [snake_cons]
      rcases rest.eq_nil_or_concat with rfl | ⟨front, last, rfl⟩
      · rfl
      · have hlast : (snakePart recase last).getLast? = some (recase last) := by
          rw [snakePart]
          split <;> rfl
        simp [List.getLast?_cons, List.getLast?_append, hlast]

/-- A converted name does not end in an underscore. -/
lemma lowerSnake_ne_append_underscore {name : String} (hname : IsPascal name) (word : String) :
    lowerSnake name ≠ word ++ "_" := by
  intro heq
  have hlist := congrArg String.toList heq
  rw [lowerSnake, String.toList_ofList, String.toList_append] at hlist
  have hlast : name.toList.getLast?.map Char.toLower = some '_' := by
    rw [← getLast?_snake, hlist]
    simp
  rw [Option.map_eq_some_iff] at hlast
  obtain ⟨c, hc, hunderscore⟩ := hlast
  refine recases_toLower.ne_underscore ?_ hunderscore
  rintro rfl
  exact hname.1 (List.mem_of_getLast? hc)

end Text

namespace Api

open Text

/-- **Fields tell as much as the converted names.** -/
theorem lowerSnake_eq_of_fieldName_eq {slot other : Slot} (hslot : IsPascal slot.name)
    (hother : IsPascal other.name) (h : fieldName slot = fieldName other) :
    lowerSnake slot.name = lowerSnake other.name := by
  simp only [fieldName] at h
  split at h
  · split at h
    · exact (String.append_left_inj "_").mp h
    · exact absurd h.symm (lowerSnake_ne_append_underscore hother _)
  · split at h
    · exact absurd h (lowerSnake_ne_append_underscore hslot _)
    · exact h

/-- **Snake case keeps names apart.**  Both conversions are injective on names without underscores
that do not start with a small letter.  So kinds with different such names go by different names in
trees, and slots with different such names have different fields, also where a field gets an
underscore for being a keyword. -/
theorem snake_keeps_apart :
    Set.InjOn upperSnake {name | IsPascal name}
      ∧ Set.InjOn lowerSnake {name | IsPascal name}
      ∧ (∀ kind other : NodeKind, IsPascal kind.name → IsPascal other.name →
        kind.name ≠ other.name → kind.kindName ≠ other.kindName)
      ∧ ∀ slot other : Slot, IsPascal slot.name → IsPascal other.name →
        slot.name ≠ other.name → fieldName slot ≠ fieldName other := by
  refine ⟨injOn_upperSnake, injOn_lowerSnake, ?_, ?_⟩
  · intro kind other hkind hother hne heq
    exact hne (injOn_upperSnake hkind hother heq)
  · intro slot other hslot hother hne heq
    exact hne (injOn_lowerSnake hslot hother (lowerSnake_eq_of_fieldName_eq hslot hother heq))

/-- Two names that differ in the case of a letter only.  In small letters the first is a keyword,
so that its field ends in an underscore. -/
theorem snake_keeps_apart_inAndIN :
    IsPascal "In" ∧ IsPascal "IN"
      ∧ upperSnake "In" ≠ upperSnake "IN"
      ∧ fieldName { name := "In", type := .anyToken } = "in_"
      ∧ fieldName { name := "In", type := .anyToken }
        ≠ fieldName { name := "IN", type := .anyToken } := by
  have hword : IsPascal "In" := by decide +kernel
  have hletters : IsPascal "IN" := by decide +kernel
  obtain ⟨hupper, _, _, hfields⟩ := snake_keeps_apart
  refine ⟨hword, hletters, ?_, by decide +kernel, hfields _ _ hword hletters (by decide)⟩
  intro heq
  exact absurd (hupper hword hletters heq) (by decide)

/-- Neither condition on names can go. -/
example : upperSnake "AB" = upperSnake "A_b" ∧ lowerSnake "Ab" = lowerSnake "ab" := by
  decide +kernel

end Api

end SyntaxForge
