/-!
# Case conversion

Names are declared in Pascal case (`LeftBrace`) and turned into the other conventions by these
functions.  Only ASCII letters have a case here: every other character is kept as it is.

* `upperSnake`: `LeftBrace` becomes `LEFT_BRACE`;
* `lowerSnake`: `LeftBrace` becomes `left_brace`;
* `lowerCamel`: `LeftBrace` becomes `leftBrace`;
* `capitalized`: `struct` becomes `Struct`.

Making a letter capital and making it small undo each other (`toLower_toUpper`, `toUpper_toLower`),
and neither changes anything else.
-/

namespace SyntaxForge.Text

/-! ## Conversions -/

/-- Puts an underscore in front of every capital but the first character, and recases each
character with `recase`. -/
def snake (recase : Char → Char) : List Char → List Char
  | [] => []
  | c :: rest => recase c :: rest.flatMap fun d => if d.isUpper then ['_', recase d] else [recase d]

/-- `LEFT_BRACE` for `LeftBrace`. -/
def upperSnake (name : String) : String :=
  String.ofList (snake Char.toUpper name.toList)

/-- `left_brace` for `LeftBrace`. -/
def lowerSnake (name : String) : String :=
  String.ofList (snake Char.toLower name.toList)

/-- Recases the first character only. -/
def recaseFirst (recase : Char → Char) : List Char → List Char
  | [] => []
  | c :: rest => recase c :: rest

/-- `leftBrace` for `LeftBrace`. -/
def lowerCamel (name : String) : String :=
  String.ofList (recaseFirst Char.toLower name.toList)

/-- `Struct` for `struct`. -/
def capitalized (word : String) : String :=
  String.ofList (recaseFirst Char.toUpper word.toList)

example : upperSnake "LeftSquareBracket" = "LEFT_SQUARE_BRACKET" := by decide +kernel
example : lowerSnake "InheritedTypeCollection" = "inherited_type_collection" := by decide +kernel
example : lowerCamel "ElseBody" = "elseBody" := by decide +kernel

/-! ## Capitals and small letters -/

/-- The capitals are the letters from `A` to `Z`. -/
theorem isUpper_iff_val {c : Char} : c.isUpper = true ↔ 'A'.val ≤ c.val ∧ c.val ≤ 'Z'.val :=
  decide_eq_true_iff

/-- The small letters are those from `a` to `z`. -/
theorem isLower_iff_val {c : Char} : c.isLower = true ↔ 'a'.val ≤ c.val ∧ c.val ≤ 'z'.val :=
  Bool.and_eq_true_iff.trans (and_congr decide_eq_true_iff decide_eq_true_iff)

theorem isUpper_iff {c : Char} : c.isUpper = true ↔ 65 ≤ c.toNat ∧ c.toNat ≤ 90 := by
  rw [isUpper_iff_val]
  exact and_congr UInt32.le_iff_toNat_le UInt32.le_iff_toNat_le

theorem isLower_iff {c : Char} : c.isLower = true ↔ 97 ≤ c.toNat ∧ c.toNat ≤ 122 := by
  rw [isLower_iff_val]
  exact and_congr UInt32.le_iff_toNat_le UInt32.le_iff_toNat_le

theorem isLower_eq_false {c : Char} (h : c.isUpper = true) : c.isLower = false := by
  rw [Bool.eq_false_iff, ne_eq, isLower_iff]
  rw [isUpper_iff] at h
  omega

theorem toNat_toUpper {c : Char} (h : c.isLower = true) : c.toUpper.toNat = c.toNat - 32 := by
  have hbounds := isLower_iff.mp h
  have hshift : ('A'.val - 'a'.val).toNat = 2 ^ 32 - 32 := rfl
  have hupper : c.toUpper = ⟨c.val + ('A'.val - 'a'.val), _⟩ := dif_pos (isLower_iff_val.mp h)
  rw [hupper]
  change (c.val + ('A'.val - 'a'.val)).toNat = c.toNat - 32
  rw [UInt32.toNat_add, hshift, Char.toNat_val]
  omega

theorem toNat_toLower {c : Char} (h : c.isUpper = true) : c.toLower.toNat = c.toNat + 32 := by
  have hbounds := isUpper_iff.mp h
  have hshift : ('a'.val - 'A'.val).toNat = 32 := rfl
  have hlower : c.toLower = ⟨c.val + ('a'.val - 'A'.val), _⟩ := dif_pos (isUpper_iff_val.mp h)
  rw [hlower]
  change (c.val + ('a'.val - 'A'.val)).toNat = c.toNat + 32
  rw [UInt32.toNat_add, hshift, Char.toNat_val]
  omega

/-- Only small letters have another capital. -/
theorem toUpper_eq_self {c : Char} (h : c.isLower = false) : c.toUpper = c := by
  refine dif_neg ?_
  intro hcase
  rw [isLower_iff_val.mpr hcase] at h
  exact Bool.noConfusion h

/-- Only capitals have another small letter. -/
theorem toLower_eq_self {c : Char} (h : c.isUpper = false) : c.toLower = c := by
  refine dif_neg ?_
  intro hcase
  rw [isUpper_iff_val.mpr hcase] at h
  exact Bool.noConfusion h

theorem isUpper_toUpper {c : Char} (h : c.isLower = true) : c.toUpper.isUpper = true := by
  have hbounds := isLower_iff.mp h
  rw [isUpper_iff, toNat_toUpper h]
  omega

theorem isLower_toLower {c : Char} (h : c.isUpper = true) : c.toLower.isLower = true := by
  have hbounds := isUpper_iff.mp h
  rw [isLower_iff, toNat_toLower h]
  omega

theorem toLower_toUpper {c : Char} (h : c.isLower = true) : c.toUpper.toLower = c := by
  have hbounds := isLower_iff.mp h
  rw [← Char.toNat_inj, toNat_toLower (isUpper_toUpper h), toNat_toUpper h]
  omega

theorem toUpper_toLower {c : Char} (h : c.isUpper = true) : c.toLower.toUpper = c := by
  rw [← Char.toNat_inj, toNat_toUpper (isLower_toLower h), toNat_toLower h]
  omega

end SyntaxForge.Text
