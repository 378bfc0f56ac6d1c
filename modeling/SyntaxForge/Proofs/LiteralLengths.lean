import SyntaxForge.Proofs.Literals
import Mathlib.Data.List.TakeWhile
import Mathlib.Tactic.SplitIfs

/-!
# Where a literal ends

In a file a literal is measured by offsets: its opening quote is looked for among the bytes of the
file, the text is cut behind that byte, and the end is the offset of the first closing quote in what
follows.  `literalLength` measures a literal this way, and fails if the cut is not between two
characters; `literal?` takes the same literal off character by character.

* **`literalLength_eq`**: no cut ever fails, and the two agree.  A byte that looks like a quote is
  one, as the bytes of all other characters are either their own or too large.
* **`Denotes.literal?_append`**: a literal that stands for a text is found whole, whatever follows.
* **`literalLength_formatLiteral`**: nothing in a text that is written as a literal ends it early.
-/

namespace SyntaxForge

namespace Text

/-! ## The byte of a quote -/

/-- Only a quote starts with the byte of a quote. -/
lemma head?_utf8EncodeChar_eq_quote_iff (c : Char) :
    (String.utf8EncodeChar c).head? = some 0x22 ↔ c = '"' := by
  have hquote : c = '"' ↔ c.val.toNat = 34 := by
    rw [← Char.val_inj, ← UInt32.toNat_inj]
    rfl
  simp only [String.utf8EncodeChar, hquote]
  split_ifs <;> simp only [List.head?_cons, Option.some.injEq, ← UInt8.toNat_inj,
    UInt8.toNat_ofNat', UInt8.reduceToNat] <;> omega

lemma head?_bytes_eq_quote_iff (text : List Char) :
    (bytes text).head? = some 0x22 ↔ text.head? = some '"' := by
  cases text with
  | nil => simp [bytes]
  | cons c rest =>
      have hne : String.utf8EncodeChar c ≠ [] := by
        rw [← List.length_pos_iff, String.length_utf8EncodeChar]
        exact c.utf8Size_pos
      obtain ⟨first, others, hbytes⟩ := List.exists_cons_of_ne_nil hne
      have hfirst := head?_utf8EncodeChar_eq_quote_iff c
      rw [hbytes, List.head?_cons] at hfirst
      rw [bytes, List.flatMap_cons, hbytes, List.cons_append, List.head?_cons, hfirst,
        List.head?_cons, Option.some.injEq]

/-- The byte behind some characters is a quote exactly if the next character is. -/
lemma getElem?_bytes_eq_quote_iff (front rest : List Char) :
    (bytes (front ++ rest))[byteLength front]? = some 0x22 ↔ rest.head? = some '"' := by
  rw [bytes, List.flatMap_append, ← bytes, ← bytes, ← length_bytes,
    List.getElem?_append_right (Nat.le_refl _), Nat.sub_self, ← List.head?_eq_getElem?,
    head?_bytes_eq_quote_iff]

end Text

namespace Snapshot

/-! ## Measuring by offsets -/

lemma byteLength_closing (hashes : Nat) : Text.byteLength (closing hashes) = hashes + 1 := by
  rw [closing, Text.byteLength, Text.byteLength_replicate _ rfl, Nat.add_comm]
  rfl

lemma offsetOf?_closing (hashes : Nat) (text : List Char) :
    (Text.offsetOf? (closing hashes) text).map (· + (hashes + 1))
      = (rawBody? hashes text).map fun found => Text.byteLength found.1 := by
  induction text with
  | nil => simp [Text.offsetOf?, rawBody?, closing]
  | cons c rest ih =>
      rw [Text.offsetOf?, rawBody?]
      split
      · simp [byteLength_closing]
      · have ih := congrArg (Option.map (c.utf8Size + ·)) ih
        simpa [Function.comp_def, Text.byteLength, Nat.add_assoc] using ih

lemma quoteOffset?_eq (text : List Char) :
    ∀ isEscaped, (quoteOffset? isEscaped text).map (· + 1)
      = (plainBody? isEscaped text).map fun found => Text.byteLength found.1 := by
  induction text with
  | nil => simp [quoteOffset?, plainBody?]
  | cons c rest ih =>
      intro isEscaped
      rw [quoteOffset?, plainBody?]
      split
      · rfl
      · have ih := congrArg (Option.map (c.utf8Size + ·)) (ih (!isEscaped && c = '\\'))
        simpa [Function.comp_def, Text.byteLength, Nat.add_assoc] using ih

/-- Behind a byte that is a quote there is a cut. -/
lemma lengthFrom_quote (front body : List Char) (ending : List Char → Option Nat) :
    lengthFrom (Text.byteLength front) ending (front ++ '"' :: body)
      = .ok ((ending body).map (Text.byteLength front + 1 + ·)) := by
  have hbyte : (Text.bytes (front ++ '"' :: body))[Text.byteLength front]? = some 0x22 := by
    rw [Text.getElem?_bytes_eq_quote_iff, List.head?_cons]
  have hcut : Text.splitBytes? (Text.byteLength front + 1) (front ++ '"' :: body)
      = some (front ++ ['"'], body) := by
    rw [Text.splitBytes?_eq_some_iff, Text.byteLength_append]
    exact ⟨by simp, rfl⟩
  rw [lengthFrom, if_pos hbyte, hcut]

lemma lengthFrom_other (front : List Char) {rest : List Char} (h : rest.head? ≠ some '"')
    (ending : List Char → Option Nat) :
    lengthFrom (Text.byteLength front) ending (front ++ rest) = .ok none := by
  rw [lengthFrom, if_neg (by rwa [Text.getElem?_bytes_eq_quote_iff])]

/-- A raw literal is opened by characters of one byte each. -/
lemma byteLength_takeWhile_hash (raw : List Char) :
    Text.byteLength ('r' :: raw.takeWhile (· = '#')) = (raw.takeWhile (· = '#')).length + 1 := by
  have hrun : raw.takeWhile (· = '#') = List.replicate (raw.takeWhile (· = '#')).length '#' := by
    refine List.eq_replicate_of_mem ?_
    intro c hc
    simpa using List.mem_takeWhile_imp hc
  rw [Text.byteLength, hrun, Text.byteLength_replicate _ rfl, List.length_replicate, Nat.add_comm]
  rfl

lemma literalLength_raw (raw : List Char) :
    literalLength ('r' :: raw)
      = .ok ((literal? ('r' :: raw)).map fun found => Text.byteLength found.1) := by
  have htext := List.takeWhile_append_dropWhile (p := (· = '#')) (l := raw)
  have hfront := byteLength_takeWhile_hash raw
  have hlength : literalLength ('r' :: raw) = lengthFrom ((raw.takeWhile (· = '#')).length + 1)
      (fun body => (Text.offsetOf? (closing (raw.takeWhile (· = '#')).length) body).map
        (· + ((raw.takeWhile (· = '#')).length + 1)))
      ('r' :: raw.takeWhile (· = '#') ++ raw.dropWhile (· = '#')) := by
    rw [List.cons_append, htext]
    rfl
  by_cases hquote : (raw.dropWhile (· = '#')).head? = some '"'
  · obtain ⟨body, hbody⟩ := List.head?_eq_some_iff.mp hquote
    have hliteral : literal? ('r' :: raw)
        = (rawBody? (raw.takeWhile (· = '#')).length body).map fun found =>
          ('r' :: raw.takeWhile (· = '#') ++ '"' :: found.1, found.2) := by
      rw [literal?, hbody]
      rfl
    rw [hlength, hbody, ← hfront, lengthFrom_quote, hfront, offsetOf?_closing, hliteral,
      Option.map_map, Option.map_map]
    refine congrArg (fun f => Except.ok (Option.map f _)) (funext fun found => ?_)
    have hinner : Text.byteLength ('"' :: found.1) = 1 + Text.byteLength found.1 := rfl
    simp only [Function.comp_apply, Text.byteLength_append, hfront, hinner]
    omega
  · have hliteral : literal? ('r' :: raw) = none := by
      rw [literal?]
      split
      · next body hbody => exact absurd (by rw [hbody]; rfl) hquote
      · rfl
    rw [hlength, ← hfront, lengthFrom_other _ hquote, hliteral]
    rfl

lemma literalLength_plain {text : List Char} (h : text.head? ≠ some 'r') :
    literalLength text = .ok ((literal? text).map fun found => Text.byteLength found.1) := by
  have hstrip : Text.stripStart? ['r'] text = none := by
    cases text with
    | nil => rfl
    | cons c rest => simpa [Text.stripStart?, eq_comm] using h
  have hlength : literalLength text
      = lengthFrom (Text.byteLength []) (fun body => (quoteOffset? false body).map (· + 1))
        ([] ++ text) := by
    rw [literalLength, hstrip]
    rfl
  by_cases hquote : text.head? = some '"'
  · obtain ⟨body, rfl⟩ := List.head?_eq_some_iff.mp hquote
    have hliteral : literal? ('"' :: body)
        = (plainBody? false body).map fun found => ('"' :: found.1, found.2) := rfl
    rw [hlength, lengthFrom_quote, quoteOffset?_eq, hliteral, Option.map_map, Option.map_map]
    rfl
  · have hliteral : literal? text = none := by
      rw [literal?.eq_def]
      split
      · exact absurd rfl hquote
      · exact absurd rfl h
      · rfl
    rw [hlength, lengthFrom_other _ hquote, hliteral]
    rfl

/-- **No cut fails**, and measuring a literal gives the bytes of the one that is taken off. -/
theorem literalLength_eq (text : List Char) :
    literalLength text = .ok ((literal? text).map fun found => Text.byteLength found.1) := by
  by_cases hraw : text.head? = some 'r'
  · obtain ⟨raw, rfl⟩ := List.head?_eq_some_iff.mp hraw
    exact literalLength_raw raw
  · exact literalLength_plain hraw

/-! ## A literal is found whole -/

/-- The end of a raw literal does not start inside its text. -/
lemma not_closing_prefix {hashes : Nat} {value : List Char} (h : ¬ closing hashes <:+: value)
    (hvalue : value ≠ []) (rest : List Char) :
    ¬ closing hashes <+: value ++ (closing hashes ++ rest) := by
  rintro ⟨after, heq⟩
  rcases List.append_eq_append_iff.mp heq with ⟨inner, rfl, _⟩ | ⟨overlap, hoverlap, hrest⟩
  · exact h ⟨[], inner, by simp⟩
  · -- what the end has in common with the next one would be hash signs, but it starts with a quote
    cases value with
    | nil => exact hvalue rfl
    | cons c value =>
        cases overlap with
        | nil => exact h ⟨[], [], by simpa using hoverlap⟩
        | cons d overlap =>
            simp only [closing, List.cons_append, List.cons.injEq] at hoverlap hrest
            have hd : d ∈ List.replicate hashes '#' := by simp [hoverlap.2]
            rw [List.eq_of_mem_replicate hd] at hrest
            exact absurd hrest.1 (by decide)

lemma rawBody?_append {hashes : Nat} {value : List Char} (h : ¬ closing hashes <:+: value)
    (rest : List Char) :
    rawBody? hashes (value ++ (closing hashes ++ rest)) = some (value ++ closing hashes, rest) := by
  induction value with
  | nil => simp [closing, rawBody?]
  | cons c value ih =>
      have hvalue : ¬ closing hashes <:+: value := fun hmem => h (List.infix_cons hmem)
      have hprefix := not_closing_prefix h (by simp) rest
      rw [List.cons_append, ← List.isPrefixOf_iff_prefix] at hprefix
      rw [List.cons_append, rawBody?, if_neg hprefix, ih hvalue]
      rfl

lemma plainBody?_append {value : List Char} (hquote : '"' ∉ value) (hescape : '\\' ∉ value)
    (rest : List Char) : plainBody? false (value ++ '"' :: rest) = some (value ++ ['"'], rest) := by
  induction value with
  | nil => simp [plainBody?]
  | cons c value ih =>
      simp only [List.mem_cons, not_or] at hquote hescape
      simp [plainBody?, Ne.symm hquote.1, Ne.symm hescape.1, ih hquote.2 hescape.2]

/-- **A literal that stands for a text is found whole**, whatever follows it. -/
theorem Denotes.literal?_append {literal value : List Char} (h : Denotes literal value)
    (rest : List Char) : literal? (literal ++ rest) = some (literal, rest) := by
  cases h with
  | plain hquote hescape =>
      simp [literal?, plainBody?_append hquote hescape]
  | raw hashes hclosing =>
      simp [literal?, rawBody?_append hclosing]

/-- **What is written as a literal is found whole**, by characters and by offsets, whatever follows
it: neither a quote in the text, with any number of hash signs behind it, nor a backslash ends it
early.  Measuring a literal never fails, whatever the text. -/
theorem literalLength_formatLiteral :
    (∀ source, literalLength source
        = .ok ((literal? source).map fun found => Text.byteLength found.1))
      ∧ ∀ (indent : Nat) (text rest : List Char), ∃ literal,
        formatLiteral indent text = '@' :: literal
          ∧ literal? (literal ++ rest) = some (literal, rest)
          ∧ literalLength (literal ++ rest) = .ok (some (Text.byteLength literal)) := by
  refine ⟨literalLength_eq, ?_⟩
  intro indent text rest
  obtain ⟨literal, hliteral, hdenotes⟩ := denotes_formatLiteral indent text
  have hfound := hdenotes.literal?_append rest
  exact ⟨literal, hliteral, hfound, by rw [literalLength_eq, hfound]; rfl⟩

end Snapshot

end SyntaxForge
