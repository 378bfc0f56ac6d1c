/-!
# Byte offsets

Positions in a file count the bytes of its UTF-8 form (`bytes`).  A pattern is found at an offset
(`offsetOf?`), but a text can be cut at an offset only between two characters: `splitBytes?` succeeds
exactly there.
-/

namespace SyntaxForge.Text

/-- The number of bytes of a text in UTF-8. -/
def byteLength : List Char → Nat
  | [] => 0
  | c :: rest => c.utf8Size + byteLength rest

/-- The bytes of a text in UTF-8. -/
def bytes (text : List Char) : List UInt8 := text.flatMap String.utf8EncodeChar

/-- The offset of the first place where a pattern occurs. -/
def offsetOf? (pattern : List Char) : List Char → Option Nat
  | [] => if pattern = [] then some 0 else none
  | c :: rest =>
    if pattern.isPrefixOf (c :: rest) then some 0
    else (offsetOf? pattern rest).map (c.utf8Size + ·)

/-- Cuts a text behind its first bytes.  There is no such cut inside a character or past the
end. -/
def splitBytes? : Nat → List Char → Option (List Char × List Char)
  | 0, text => some ([], text)
  | _ + 1, [] => none
  | n + 1, c :: rest =>
    if c.utf8Size ≤ n + 1 then
      (splitBytes? (n + 1 - c.utf8Size) rest).map fun (front, back) => (c :: front, back)
    else none

@[simp] theorem byteLength_append (left right : List Char) :
    byteLength (left ++ right) = byteLength left + byteLength right := by
  induction left with
  | nil => simp [byteLength]
  | cons c rest ih => simp [byteLength, ih, Nat.add_assoc]

theorem eq_nil_of_byteLength_eq_zero {text : List Char} (h : byteLength text = 0) : text = [] := by
  cases text with
  | nil => rfl
  | cons c rest =>
    have hpos := c.utf8Size_pos
    simp only [byteLength] at h
    omega

theorem length_bytes (text : List Char) : (bytes text).length = byteLength text := by
  induction text with
  | nil => rfl
  | cons c rest ih =>
    rw [bytes, List.flatMap_cons, List.length_append, ← bytes, ih, String.length_utf8EncodeChar,
      byteLength]

/-- A run of a character that takes one byte has as many bytes as characters. -/
theorem byteLength_replicate (count : Nat) {c : Char} (h : c.utf8Size = 1) :
    byteLength (List.replicate count c) = count := by
  induction count with
  | zero => rfl
  | succ count ih => rw [List.replicate_succ, byteLength, ih, h, Nat.add_comm]

/-- The bytes of a string are those of its characters. -/
theorem byteLength_toList (text : String) : byteLength text.toList = text.utf8ByteSize := by
  have h (chars : List Char) : byteLength chars = (String.ofList chars).utf8ByteSize := by
    induction chars with
    | nil => simp [byteLength]
    | cons c rest ih =>
      rw [byteLength, ih, show c :: rest = [c] ++ rest from rfl, String.ofList_append,
        String.utf8ByteSize_append, ← String.singleton_eq_ofList, String.utf8ByteSize_singleton]
  rw [h, String.ofList_toList]

/-- A cut succeeds exactly between two characters. -/
theorem splitBytes?_eq_some_iff {n : Nat} {text front back : List Char} :
    splitBytes? n text = some (front, back) ↔ text = front ++ back ∧ byteLength front = n := by
  induction text generalizing n front with
  | nil =>
    cases n with
    | zero => cases front <;> simp [splitBytes?, eq_comm, byteLength]
    | succ n => cases front <;> simp [splitBytes?, byteLength]
  | cons c rest ih =>
    have hc := c.utf8Size_pos
    cases n with
    | zero =>
      cases front with
      | nil => simp [splitBytes?, eq_comm, byteLength]
      | cons d front =>
        have hd := d.utf8Size_pos
        simp only [splitBytes?, byteLength, Option.some.injEq, Prod.mk.injEq]
        constructor
        · rintro ⟨h, -⟩
          cases h
        · rintro ⟨-, h⟩
          omega
    | succ n =>
      rw [splitBytes?]
      split
      · next h =>
        simp only [Option.map_eq_some_iff, Prod.exists, Prod.mk.injEq]
        constructor
        · rintro ⟨a, b, hsplit, rfl, rfl⟩
          obtain ⟨rfl, hlen⟩ := ih.1 hsplit
          exact ⟨rfl, by simp only [byteLength]; omega⟩
        · rintro ⟨htext, hlen⟩
          cases front with
          | nil => simp [byteLength] at hlen
          | cons d front =>
            simp only [List.cons_append, List.cons.injEq] at htext
            obtain ⟨rfl, rfl⟩ := htext
            simp only [byteLength] at hlen
            exact ⟨front, back, ih.2 ⟨rfl, by omega⟩, rfl, rfl⟩
      · next h =>
        simp only [reduceCtorEq, false_iff, not_and]
        rintro htext hlen
        cases front with
        | nil => simp [byteLength] at hlen
        | cons d front =>
          simp only [List.cons_append, List.cons.injEq] at htext
          obtain ⟨rfl, rfl⟩ := htext
          simp only [byteLength] at hlen
          omega

end SyntaxForge.Text
