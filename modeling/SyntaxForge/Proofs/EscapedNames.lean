import SyntaxForge.Builder.Token
import Mathlib.Tactic.Lemma

/-!
# Names between backticks

A name of generated code is a plain word, or an escaped one, which is a plain word between a pair of
backticks (`Identifier.IsName`).  The recognizer takes a pair of backticks off and starts over, so
that it does not notice how many pairs there are.

* `Identifier.Ticked depth text`: a plain word between `depth` pairs of backticks.  The number of
  pairs is determined by the text (`Ticked.depth_unique`).
* **`Identifier.isIdentifier_iff`**: the recognizer accepts exactly these texts.
* **`Token.identifier_accepts`**: it accepts a text exactly if that is a name, as long as there is
  no second pair of backticks.
-/

namespace SyntaxForge

namespace Identifier

/-- A word of letters, digits and underscores that does not start with a digit. -/
inductive IsWord : List Char → Prop
  | intro {first : Char} {rest : List Char} (hfirst : first = '_' ∨ Text.isAlphabetic first = true)
      (hrest : ∀ c ∈ rest, c = '_' ∨ Text.isAlphanumeric c = true) : IsWord (first :: rest)

/-- A plain word, or an escaped one. -/
def IsName (text : List Char) : Prop :=
  IsWord text ∨ ∃ inner, IsWord inner ∧ text = '\x60' :: inner ++ ['\x60']

/-- A plain word between so many pairs of backticks. -/
inductive Ticked : Nat → List Char → Prop
  | word {text : List Char} (hword : IsWord text) : Ticked 0 text
  | pair {depth : Nat} {inner : List Char} (hinner : Ticked depth inner) :
      Ticked (depth + 1) ('\x60' :: inner ++ ['\x60'])

variable {text inner : List Char}

lemma isPlain_eq_true_iff : isPlain text = true ↔ IsWord text := by
  constructor
  · intro h
    cases text with
    | nil => simp [isPlain] at h
    | cons first rest =>
        rw [isPlain, Bool.and_eq_true, List.all_eq_true] at h
        exact ⟨by simpa [isStart] using h.1, fun c hc => by simpa [isPart] using h.2 c hc⟩
  · rintro ⟨hfirst, hrest⟩
    rw [isPlain, Bool.and_eq_true, List.all_eq_true]
    exact ⟨by simpa [isStart] using hfirst, fun c hc => by simpa [isPart] using hrest c hc⟩

/-- A backtick is no letter. -/
lemma not_isWord_backtick (rest : List Char) : ¬ IsWord ('\x60' :: rest) := by
  rintro ⟨hfirst, _⟩
  revert hfirst
  decide

lemma unquote?_eq_some_iff :
    unquote? text = some inner ↔ text = '\x60' :: inner ++ ['\x60'] := by
  simp only [unquote?, Option.bind_eq_some_iff, Text.stripStart?_eq_some_iff,
    Text.stripEnd?_eq_some_iff]
  constructor
  · rintro ⟨tail, rfl, rfl⟩
    rfl
  · rintro rfl
    exact ⟨inner ++ ['\x60'], rfl, rfl⟩

namespace Ticked

variable {depth other : Nat}

/-- What stands between two backticks has one pair less. -/
lemma of_pair (h : Ticked depth ('\x60' :: inner ++ ['\x60'])) :
    ∃ less, depth = less + 1 ∧ Ticked less inner := by
  generalize htext : '\x60' :: inner ++ ['\x60'] = text at h
  cases h with
  | word hword =>
      rw [← htext] at hword
      exact absurd hword (not_isWord_backtick _)
  | @pair less found hfound =>
      obtain rfl : inner = found := by simpa using htext
      exact ⟨less, rfl, hfound⟩

/-- The number of pairs is determined by the text. -/
lemma depth_unique (h : Ticked depth text) (hother : Ticked other text) : depth = other := by
  induction h generalizing other with
  | word hword =>
      cases hother with
      | word _ => rfl
      | pair _ => exact absurd hword (not_isWord_backtick _)
  | pair _ ih =>
      obtain ⟨less, rfl, hless⟩ := hother.of_pair
      rw [ih hless]

/-- One pair of backticks makes an escaped word of a plain one. -/
lemma isName_iff (h : Ticked depth text) : IsName text ↔ depth ≤ 1 := by
  constructor
  · rintro (hword | ⟨inner, hinner, rfl⟩)
    · have hdepth := h.depth_unique (.word hword)
      omega
    · exact Nat.le_of_eq (h.depth_unique (.pair (.word hinner)))
  · intro hdepth
    cases h with
    | word hword => exact Or.inl hword
    | @pair less inner hinner =>
        obtain rfl : less = 0 := by omega
        cases hinner with
        | word hinner => exact Or.inr ⟨inner, hinner, rfl⟩

end Ticked

lemma IsName.exists_ticked (h : IsName text) : ∃ depth, Ticked depth text := by
  rcases h with hword | ⟨inner, hinner, rfl⟩
  · exact ⟨0, .word hword⟩
  · exact ⟨1, .pair (.word hinner)⟩

/-- **The recognizer does not count backticks.** -/
theorem isIdentifier_iff : isIdentifier text = true ↔ ∃ depth, Ticked depth text := by
  fun_induction isIdentifier text with
  | case1 text inner hinner ih =>
      obtain rfl := unquote?_eq_some_iff.mp hinner
      rw [ih]
      constructor
      · rintro ⟨depth, h⟩
        exact ⟨depth + 1, h.pair⟩
      · rintro ⟨_, h⟩
        obtain ⟨less, -, hless⟩ := h.of_pair
        exact ⟨less, hless⟩
  | case2 text hnone =>
      rw [isPlain_eq_true_iff]
      constructor
      · exact fun hword => ⟨0, .word hword⟩
      · rintro ⟨_, h⟩
        cases h with
        | word hword => exact hword
        | pair _ =>
            rw [unquote?_eq_some_iff.mpr rfl] at hnone
            exact absurd hnone (Option.some_ne_none _)

end Identifier

namespace Token

open Identifier

lemma identifier_eq_ok_iff {text : String} {token : Token} :
    identifier text = .ok token ↔ isIdentifier text.toList = true ∧ token = name text := by
  rw [identifier]
  split
  · next h => simp [h, eq_comm]
  · next h => simp [h]

lemma exists_identifier_iff {text : String} :
    (∃ token, identifier text = .ok token) ↔ isIdentifier text.toList = true := by
  simp only [identifier_eq_ok_iff, exists_and_left, exists_eq, and_true]

/-- **Which texts are taken for identifiers.**  These are the plain words between any number of
pairs of backticks.  A text is therefore accepted exactly if it is a name, unless there are two
pairs or more. -/
theorem identifier_accepts (text : String) :
    ((∃ token, identifier text = .ok token) ↔ ∃ depth, Ticked depth text.toList)
      ∧ (((∃ token, identifier text = .ok token) ↔ IsName text.toList)
        ↔ ∀ depth, Ticked depth text.toList → depth ≤ 1) := by
  rw [exists_identifier_iff, isIdentifier_iff]
  refine ⟨Iff.rfl, fun h depth hticked => ?_, fun h => ⟨?_, IsName.exists_ticked⟩⟩
  · exact hticked.isName_iff.mp (h.mp ⟨depth, hticked⟩)
  · rintro ⟨depth, hticked⟩
    exact hticked.isName_iff.mpr (h depth hticked)

/-- Two pairs of backticks are accepted, although an escaped word has only one. -/
theorem identifier_accepts_two_pairs :
    (∃ token, identifier "``a``" = .ok token) ∧ ¬ IsName "``a``".toList := by
  have hword : IsWord ['a'] := ⟨by decide, by simp⟩
  have hticked : Ticked 2 "``a``".toList := (Ticked.word hword).pair.pair
  constructor
  · exact exists_identifier_iff.mpr (isIdentifier_iff.mpr ⟨2, hticked⟩)
  · rw [hticked.isName_iff]
    decide

end Token

end SyntaxForge
