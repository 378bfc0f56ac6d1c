import SyntaxForge.Text.CharClass

/-!
# Lines

The lines of a text, each with the line break that ends it; only the last line may have none.
-/

namespace SyntaxForge.Text

/-- The lines of a text, each with its line break. -/
def lines : List Char → List (List Char)
  | [] => []
  | c :: rest =>
    if c = '\n' then [c] :: lines rest
    else
      match lines rest with
      | [] => [[c]]
      | line :: more => (c :: line) :: more

/-- The lines make up the text. -/
@[simp] theorem flatten_lines (text : List Char) : (lines text).flatten = text := by
  induction text with
  | nil => rfl
  | cons c rest ih =>
    rw [lines]
    split
    · simp [ih]
    · split
      · next h => simpa [h] using ih
      · next h => simpa [h] using ih

/-- A line break ends the first line. -/
theorem lines_append_break {line : List Char} (h : '\n' ∉ line) (rest : List Char) :
    lines (line ++ '\n' :: rest) = (line ++ ['\n']) :: lines rest := by
  induction line with
  | nil => simp [lines]
  | cons c line ih =>
    simp only [List.mem_cons, not_or] at h
    rw [List.cons_append, lines, if_neg (Ne.symm h.1), ih h.2]
    rfl

/-- A text without line breaks is a single line. -/
theorem lines_of_not_mem {line : List Char} (h : '\n' ∉ line) (hline : line ≠ []) :
    lines line = [line] := by
  induction line with
  | nil => exact absurd rfl hline
  | cons c line ih =>
    simp only [List.mem_cons, not_or] at h
    rw [lines, if_neg (Ne.symm h.1)]
    cases line with
    | nil => rfl
    | cons d line => rw [ih h.2 (by simp)]

/-- Induction over a text line by line. -/
theorem lineInduction {motive : List Char → Prop} (nil : motive [])
    (last : ∀ line, '\n' ∉ line → line ≠ [] → motive line)
    (line : ∀ line rest, '\n' ∉ line → motive rest → motive (line ++ '\n' :: rest))
    (text : List Char) : motive text := by
  by_cases h : '\n' ∈ text
  · obtain ⟨front, rest, rfl, hfront⟩ := List.eq_append_cons_of_mem h
    exact line front rest hfront (lineInduction nil last line rest)
  · by_cases htext : text = []
    · exact htext ▸ nil
    · exact last text h htext
termination_by text.length

/-- Whether a line has nothing but white space on it. -/
def isBlankLine (line : List Char) : Bool := line.all isBlank

/-- Line breaks of one character in place of those of two. -/
def unifyBreaks : List Char → List Char
  | '\r' :: '\n' :: rest => '\n' :: unifyBreaks rest
  | c :: rest => c :: unifyBreaks rest
  | [] => []

end SyntaxForge.Text
