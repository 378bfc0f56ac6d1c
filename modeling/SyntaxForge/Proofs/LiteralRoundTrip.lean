import SyntaxForge.Proofs.Literals
import SyntaxForge.Snapshot.Expectation

/-!
# Which texts a literal gives back

Writing a text as a literal indents its lines with the code around it, and reading the literal takes
the indentation off again.  The two do not always undo each other:

* blank lines are written as they are, but are cut like any other line when they are read;
* white space that all lines share is taken for indentation;
* if there is nothing but blank lines, no indentation is found, and that of the closing quote stays.

`Restorable` describes the texts that none of this touches.  **`expected?_formatLiteral_iff`** says
that these are exactly the texts that a literal gives back.
-/

namespace SyntaxForge.Snapshot

/-! ## Lines of a literal -/

/-- The lines of an indented text are its lines, indented; what follows the last line break starts
a line of its own. -/
lemma lines_flatMap_indentLine (indent : Nat) {text tail : List Char}
    (h : tail = [] ∨ text = [] ∨ text.getLast? = some '\n') :
    Text.lines ((Text.lines text).flatMap (indentLine indent) ++ tail)
      = (Text.lines text).map (indentLine indent) ++ Text.lines tail := by
  induction text using Text.lineInduction with
  | nil => simp [Text.lines]
  | last line hline hne =>
      have htail : tail = [] := by
        rcases h with h | h | h
        · exact h
        · exact absurd h hne
        · exact absurd (List.mem_of_getLast? h) hline
      obtain ⟨count, hcount⟩ := exists_indentLine_eq indent line
      have hindented : '\n' ∉ List.replicate count ' ' ++ line := by simp [hline]
      simp [htail, Text.lines_of_not_mem hline hne, hcount,
        Text.lines_of_not_mem hindented (by simp [hne]), Text.lines]
  | line line rest hline ih =>
      obtain ⟨count, hcount⟩ := exists_indentLine_eq indent (line ++ ['\n'])
      have hindented : '\n' ∉ List.replicate count ' ' ++ line := by simp [hline]
      have hrest : tail = [] ∨ rest = [] ∨ rest.getLast? = some '\n' := by
        cases rest with
        | nil => simp
        | cons c rest => simpa [List.getLast?_append] using h
      have hbreak := Text.lines_append_break hindented
        ((Text.lines rest).flatMap (indentLine indent) ++ tail)
      simp only [Text.lines_append_break hline, List.flatMap_cons, List.map_cons, hcount,
        List.append_assoc, List.cons_append, List.nil_append] at hbreak ⊢
      rw [hbreak, ih hrest]

lemma isBlankLine_indentLine (indent : Nat) (line : List Char) :
    Text.isBlankLine (indentLine indent line) = Text.isBlankLine line := by
  rw [indentLine]
  split
  · rfl
  · next h =>
      rw [Text.isBlankLine, Bool.not_eq_true] at h
      rw [Text.isBlankLine, Text.isBlankLine, List.all_append, h, Bool.and_false]

/-- The lines that a literal of several lines is read as. -/
def literalRows (indent : Nat) (text : List Char) : List (List Char) :=
  (Text.lines text).map (indentLine indent) ++ Text.lines (closingIndent indent text)

lemma trimIndent?_literalBody {text : List Char} (h : '\n' ∈ text) (indent : Nat) :
    trimIndent? (literalBody indent text)
      = ((literalRows indent text).mapM (cutLine? (margin (literalRows indent text)))).map
          List.flatten := by
  have hclosing : closingIndent indent text = [] ∨ text = [] ∨ text.getLast? = some '\n' := by
    rw [closingIndent]
    split <;> simp_all
  rw [literalBody_of_mem h, trimIndent?, Text.stripStart?, if_pos rfl, Text.stripStart?,
    Option.getD_some, lines_flatMap_indentLine indent hclosing]
  rfl

/-! ## Margins -/

lemma margin_eq_zero {rows : List (List Char)} (h : ∀ row ∈ rows, Text.isBlankLine row = true) :
    margin rows = 0 := by
  have hnone : (rows.filter fun row => !Text.isBlankLine row) = [] := by
    rw [List.filter_eq_nil_iff]
    intro row hrow
    simp [h row hrow]
  rw [margin, hnone]
  rfl

/-- The margin is the least one of a line that is not blank. -/
lemma margin_spec {rows : List (List Char)} (h : ∃ row ∈ rows, Text.isBlankLine row = false) :
    (∃ row ∈ rows, Text.isBlankLine row = false ∧ lineMargin row = margin rows)
      ∧ ∀ row ∈ rows, Text.isBlankLine row = false → margin rows ≤ lineMargin row := by
  obtain ⟨row, hrow, hblank⟩ := h
  have hmem : row ∈ rows.filter fun row => !Text.isBlankLine row := by simp [hrow, hblank]
  cases hmin : ((rows.filter fun row => !Text.isBlankLine row).map lineMargin).min? with
  | none =>
      rw [List.min?_eq_none_iff, List.map_eq_nil_iff] at hmin
      simp [hmin] at hmem
  | some least =>
      have hmargin : margin rows = least := by rw [margin, hmin, Option.getD_some]
      rw [List.min?_eq_some_iff] at hmin
      obtain ⟨hleast, hall⟩ := hmin
      rw [hmargin]
      constructor
      · obtain ⟨found, hfound, heq⟩ := List.mem_map.mp hleast
        simp only [List.mem_filter, Bool.not_eq_true'] at hfound
        exact ⟨found, hfound.1, hfound.2, heq⟩
      · intro other hother hother'
        exact hall _ (List.mem_map_of_mem (by simp [hother, hother']))

lemma lineMargin_indentLine {line : List Char} (h : Text.isBlankLine line = false) (indent : Nat) :
    lineMargin (indentLine indent line) = indent + 2 + lineMargin line := by
  have hspaces : ∀ c ∈ List.replicate (indent + 2) ' ', Text.isBlank c = true := by
    intro c hc
    rw [List.eq_of_mem_replicate hc]
    rfl
  rw [indentLine, if_neg (by simp [h]), lineMargin, List.takeWhile_append_of_pos hspaces,
    Text.byteLength_append, Text.byteLength_replicate _ rfl, lineMargin]

/-- A line that is not blank goes on behind its margin. -/
lemma lineMargin_lt {line : List Char} (h : Text.isBlankLine line = false) :
    lineMargin line < Text.byteLength line := by
  induction line with
  | nil => simp [Text.isBlankLine] at h
  | cons c line ih =>
      have hpos := c.utf8Size_pos
      rw [lineMargin, Text.byteLength]
      by_cases hc : Text.isBlank c = true
      · have hline : Text.isBlankLine line = false := by simpa [Text.isBlankLine, hc] using h
        have ih := ih hline
        rw [lineMargin] at ih
        rw [List.takeWhile_cons_of_pos hc, Text.byteLength]
        omega
      · rw [List.takeWhile_cons_of_neg hc, Text.byteLength]
        omega

/-! ## Cuts -/

/-- Nothing is cut off without a margin. -/
@[simp] lemma cutLine?_zero (line : List Char) : cutLine? 0 line = some line := by
  rw [cutLine?]
  split
  · next h => rw [Text.eq_nil_of_byteLength_eq_zero (Nat.le_zero.mp h)]; rfl
  · rw [Text.splitBytes?]; rfl

/-- A cut leaves the end of a line. -/
lemma suffix_of_cutLine? {bytes : Nat} {line cut : List Char} (h : cutLine? bytes line = some cut) :
    cut <:+ line := by
  rw [cutLine?] at h
  split at h
  · rw [← Option.some.inj h]
    exact List.dropWhile_suffix _
  · obtain ⟨⟨front, back⟩, hsplit, rfl⟩ := Option.map_eq_some_iff.mp h
    obtain ⟨rfl, _⟩ := Text.splitBytes?_eq_some_iff.mp hsplit
    exact List.suffix_append _ _

/-- A line without indentation of its own survives a cut if it is short and starts with no space. -/
lemma cutLine?_eq_self_iff {bytes : Nat} (hbytes : 0 < bytes) (line : List Char) :
    cutLine? bytes line = some line
      ↔ Text.byteLength line ≤ bytes ∧ line.head? ≠ some ' ' := by
  rw [cutLine?]
  split
  · next hle =>
      simp only [Option.some.injEq, hle, true_and]
      cases line with
      | nil => simp
      | cons c line =>
          by_cases hc : c = ' '
          · have hshorter := (List.dropWhile_suffix (l := line) (· = ' ')).length_le
            simp only [hc, decide_true, List.dropWhile_cons_of_pos, List.head?_cons, ne_eq,
              not_true_eq_false, iff_false]
            intro heq
            rw [heq, List.length_cons] at hshorter
            omega
          · simp [hc, List.dropWhile_cons_of_neg]
  · next hlt =>
      constructor
      · intro h
        obtain ⟨⟨front, back⟩, hsplit, rfl⟩ := Option.map_eq_some_iff.mp h
        obtain ⟨heq, hfront⟩ := Text.splitBytes?_eq_some_iff.mp hsplit
        have hnil : front = [] := by simpa using heq
        rw [hnil, Text.byteLength] at hfront
        omega
      · rintro ⟨hle, _⟩
        exact absurd hle hlt

/-- Cutting an indented line takes the indentation off first. -/
lemma splitBytes?_spaces_append (count bytes : Nat) (line : List Char) :
    (Text.splitBytes? (count + bytes) (List.replicate count ' ' ++ line)).map Prod.snd
      = (Text.splitBytes? bytes line).map Prod.snd := by
  induction count with
  | zero => simp
  | succ count ih =>
      have hsize : ' '.utf8Size = 1 := rfl
      rw [List.replicate_succ, List.cons_append, Nat.succ_add, Text.splitBytes?, hsize,
        if_pos (by omega), Option.map_map]
      exact ih

section Indented

variable {indent bytes : Nat} {line : List Char} (hblank : Text.isBlankLine line = false)
  (hmargin : indent + 2 ≤ bytes) (hline : bytes ≤ indent + 2 + lineMargin line)

include hblank hmargin hline

lemma cutLine?_indentLine :
    cutLine? bytes (indentLine indent line)
      = (Text.splitBytes? (bytes - (indent + 2)) line).map Prod.snd := by
  have hlt := lineMargin_lt hblank
  have hlong : ¬ Text.byteLength (List.replicate (indent + 2) ' ' ++ line) ≤ bytes := by
    rw [Text.byteLength_append, Text.byteLength_replicate _ rfl]
    omega
  obtain ⟨rest, rfl⟩ := Nat.exists_eq_add_of_le hmargin
  rw [indentLine, if_neg (by simp [hblank]), cutLine?, if_neg hlong, splitBytes?_spaces_append]
  simp

/-- An indented line comes back if nothing but its indentation is cut off. -/
lemma cutLine?_indentLine_eq_self_iff :
    cutLine? bytes (indentLine indent line) = some line ↔ bytes = indent + 2 := by
  rw [cutLine?_indentLine hblank hmargin hline]
  constructor
  · intro h
    obtain ⟨⟨front, back⟩, hsplit, rfl⟩ := Option.map_eq_some_iff.mp h
    obtain ⟨heq, hfront⟩ := Text.splitBytes?_eq_some_iff.mp hsplit
    have hnil : front = [] := by simpa using heq
    rw [hnil, Text.byteLength] at hfront
    omega
  · rintro rfl
    simp [Text.splitBytes?]

end Indented

/-! ## The round trip -/

section Cuts

variable {cut : List Char → Option (List Char)}

lemma length_flatten_le_of_mapM : ∀ {rows cuts : List (List Char)},
    (∀ row ∈ rows, ∀ rest, cut row = some rest → rest <:+ row) → rows.mapM cut = some cuts →
      cuts.flatten.length ≤ rows.flatten.length
  | [], cuts, _, h => by simp_all
  | row :: rows, cuts, hsuffix, h => by
      simp only [List.mapM_cons, Option.pure_def, Option.bind_eq_bind, Option.bind_eq_some_iff,
        Option.some.injEq] at h
      obtain ⟨rest, hrest, others, hothers, rfl⟩ := h
      have hle := (hsuffix row List.mem_cons_self rest hrest).length_le
      have ih := length_flatten_le_of_mapM
        (fun row hrow => hsuffix row (List.mem_cons_of_mem _ hrow)) hothers
      simp only [List.flatten_cons, List.length_append]
      omega

/-- Lines that are cut to their ends make up the same text only if none of them changes. -/
lemma mapM_flatten_eq_iff : ∀ {rows : List (List Char)},
    (∀ row ∈ rows, ∀ rest, cut row = some rest → rest <:+ row) →
      ((rows.mapM cut).map List.flatten = some rows.flatten ↔ ∀ row ∈ rows, cut row = some row)
  | [], _ => by simp
  | row :: rows, hsuffix => by
      have hrows := fun row hrow => hsuffix row (List.mem_cons_of_mem _ hrow)
      rw [List.forall_mem_cons, ← mapM_flatten_eq_iff hrows, List.mapM_cons]
      cases hrow : cut row with
      | none => simp
      | some rest =>
          cases hcuts : rows.mapM cut with
          | none => simp
          | some cuts =>
              -- no part gets longer, so that all of them keep their length
              have hrest := (hsuffix row List.mem_cons_self rest hrow).length_le
              have hothers := length_flatten_le_of_mapM hrows hcuts
              simp only [Option.pure_def, Option.bind_eq_bind, Option.bind_some, Option.map_some,
                List.flatten_cons, Option.some.injEq]
              constructor
              · intro h
                have hlength := congrArg List.length h
                rw [List.length_append, List.length_append] at hlength
                exact List.append_inj h (by omega)
              · rintro ⟨rfl, h⟩
                rw [h]

/-- The line of the closing quote is there or not. -/
lemma lines_closingIndent (indent : Nat) (text : List Char) :
    Text.lines (closingIndent indent text) = []
      ∨ Text.lines (closingIndent indent text) = [List.replicate indent ' '] := by
  rw [closingIndent]
  split
  · cases indent with
    | zero => exact Or.inl rfl
    | succ indent => exact Or.inr (Text.lines_of_not_mem (by simp) (by simp))
  · exact Or.inl rfl

/-- As long as the line of the closing quote vanishes, the text is put together from its own
lines. -/
lemma mapM_literalRows {indent : Nat} (hclosing : cut (List.replicate indent ' ') = some [])
    (text : List Char) :
    ((literalRows indent text).mapM cut).map List.flatten
      = ((Text.lines text).mapM fun line => cut (indentLine indent line)).map List.flatten := by
  have hmap : ((Text.lines text).map (indentLine indent)).mapM cut
      = (Text.lines text).mapM fun line => cut (indentLine indent line) := List.mapM_map
  rw [literalRows, List.mapM_append, hmap]
  rcases lines_closingIndent indent text with h | h
  · cases (Text.lines text).mapM fun line => cut (indentLine indent line) <;> simp [h]
  · cases (Text.lines text).mapM fun line => cut (indentLine indent line) <;> simp [h, hclosing]

end Cuts

lemma isBlankLine_of_mem_lines_closingIndent {indent : Nat} {text row : List Char}
    (h : row ∈ Text.lines (closingIndent indent text)) : Text.isBlankLine row = true := by
  rcases lines_closingIndent indent text with hlines | hlines
  · simp [hlines] at h
  · rw [hlines, List.mem_singleton] at h
    subst h
    have hspace : Text.isBlank ' ' = true := rfl
    simp [Text.isBlankLine, hspace]

/-- Unless all lines are blank, the margin is two spaces more than the code around the literal and
what the lines of the text share. -/
lemma margin_literalRows (indent : Nat) {text : List Char}
    (h : ∃ line ∈ Text.lines text, Text.isBlankLine line = false) :
    (∃ line ∈ Text.lines text, Text.isBlankLine line = false
        ∧ margin (literalRows indent text) = indent + 2 + lineMargin line)
      ∧ ∀ line ∈ Text.lines text, Text.isBlankLine line = false →
        margin (literalRows indent text) ≤ indent + 2 + lineMargin line := by
  have hrow : ∀ line ∈ Text.lines text, indentLine indent line ∈ literalRows indent text :=
    fun line hline => List.mem_append_left _ (List.mem_map_of_mem hline)
  obtain ⟨line, hline, hblank⟩ := h
  obtain ⟨⟨row, hmem, hrowBlank, hleast⟩, hall⟩ := margin_spec
    ⟨_, hrow line hline, (isBlankLine_indentLine indent line).trans hblank⟩
  constructor
  · rcases List.mem_append.mp hmem with hmem | hmem
    · obtain ⟨least, hfound, rfl⟩ := List.mem_map.mp hmem
      rw [isBlankLine_indentLine] at hrowBlank
      rw [lineMargin_indentLine hrowBlank] at hleast
      exact ⟨least, hfound, hrowBlank, hleast.symm⟩
    · rw [isBlankLine_of_mem_lines_closingIndent hmem] at hrowBlank
      simp at hrowBlank
  · intro other hother hblank
    rw [← lineMargin_indentLine hblank]
    exact hall _ (hrow other hother) ((isBlankLine_indentLine indent other).trans hblank)

/-- A line without margin that is not blank starts with something else than white space. -/
lemma head_not_blank_iff (line : List Char) :
    line.head?.any (!Text.isBlank ·) = true
      ↔ Text.isBlankLine line = false ∧ lineMargin line = 0 := by
  cases line with
  | nil => simp [Text.isBlankLine]
  | cons c line =>
      have hpos := c.utf8Size_pos
      by_cases hc : Text.isBlank c = true
      · simp only [List.head?_cons, Option.any_some, hc, Bool.not_true, Bool.false_eq_true,
          false_iff, not_and, lineMargin, List.takeWhile_cons_of_pos, Text.byteLength]
        omega
      · simp [hc, Text.isBlankLine, lineMargin, List.takeWhile_cons_of_neg, Text.byteLength]

/-- Blank lines come back as they are, and so does the indentation of the closing quote. -/
lemma trimIndent?_literalBody_of_blank {text : List Char} (hbreak : '\n' ∈ text)
    (hblank : ∀ line ∈ Text.lines text, Text.isBlankLine line = true) (indent : Nat) :
    trimIndent? (literalBody indent text) = some (text ++ closingIndent indent text) := by
  have hrows : literalRows indent text
      = Text.lines text ++ Text.lines (closingIndent indent text) := by
    rw [literalRows, List.append_left_inj]
    refine (List.map_congr_left ?_).trans (List.map_id _)
    intro line hline
    rw [indentLine, if_pos (hblank line hline), id]
  have hmargin : margin (literalRows indent text) = 0 := by
    refine margin_eq_zero ?_
    intro row hrow
    rw [hrows, List.mem_append] at hrow
    exact hrow.elim (hblank row) isBlankLine_of_mem_lines_closingIndent
  have hself : ((literalRows indent text).mapM (cutLine? 0)).map List.flatten
      = some (literalRows indent text).flatten :=
    (mapM_flatten_eq_iff fun _ _ _ h => suffix_of_cutLine? h).mpr fun row _ => cutLine?_zero row
  rw [trimIndent?_literalBody hbreak, hmargin, hself, hrows]
  simp

/-- With other lines among them, the text comes back if the margin is that of the literal alone and
no blank line loses anything to it. -/
lemma trimIndent?_literalBody_iff {text : List Char} (hbreak : '\n' ∈ text)
    (hsome : ∃ line ∈ Text.lines text, Text.isBlankLine line = false) (indent : Nat) :
    trimIndent? (literalBody indent text) = some text
      ↔ (∃ line ∈ Text.lines text, line.head?.any (!Text.isBlank ·) = true)
        ∧ ∀ line ∈ Text.lines text, Text.isBlankLine line = true →
          Text.byteLength line ≤ indent + 2 ∧ line.head? ≠ some ' ' := by
  obtain ⟨⟨least, hleast, hleastBlank, hmargin⟩, hall⟩ := margin_literalRows indent hsome
  rw [trimIndent?_literalBody hbreak]
  generalize margin (literalRows indent text) = bytes at hmargin hall
  have hge : indent + 2 ≤ bytes := by omega
  have hclosing : cutLine? bytes (List.replicate indent ' ') = some [] := by
    rw [cutLine?, if_pos (by rw [Text.byteLength_replicate _ rfl]; omega)]
    simp
  have hsuffix : ∀ line ∈ Text.lines text, ∀ rest,
      cutLine? bytes (indentLine indent line) = some rest → rest <:+ line := by
    intro line hline rest hrest
    cases hblank : Text.isBlankLine line with
    | true =>
        rw [indentLine, if_pos hblank] at hrest
        exact suffix_of_cutLine? hrest
    | false =>
        rw [cutLine?_indentLine hblank hge (hall line hline hblank)] at hrest
        obtain ⟨⟨front, back⟩, hsplit, rfl⟩ := Option.map_eq_some_iff.mp hrest
        obtain ⟨rfl, _⟩ := Text.splitBytes?_eq_some_iff.mp hsplit
        exact List.suffix_append _ _
  have hlines := mapM_flatten_eq_iff hsuffix
  rw [Text.flatten_lines] at hlines
  rw [mapM_literalRows hclosing, hlines]
  constructor
  · intro hself
    have hbytes : bytes = indent + 2 :=
      (cutLine?_indentLine_eq_self_iff hleastBlank hge (hall least hleast hleastBlank)).mp
        (hself least hleast)
    refine ⟨⟨least, hleast, (head_not_blank_iff least).mpr ⟨hleastBlank, by omega⟩⟩, ?_⟩
    intro line hline hblank
    have hcut := hself line hline
    rw [indentLine, if_pos hblank, cutLine?_eq_self_iff (by omega), hbytes] at hcut
    exact hcut
  · rintro ⟨⟨flush, hflush, hhead⟩, hblanks⟩ line hline
    obtain ⟨hflushBlank, hflushMargin⟩ := (head_not_blank_iff flush).mp hhead
    have hbytes : bytes = indent + 2 := by
      have := hall flush hflush hflushBlank
      omega
    cases hblank : Text.isBlankLine line with
    | true =>
        rw [indentLine, if_pos hblank, cutLine?_eq_self_iff (by omega), hbytes]
        exact hblanks line hline hblank
    | false =>
        exact (cutLine?_indentLine_eq_self_iff hblank hge (hall line hline hblank)).mpr hbytes

/-- The texts that come back from a literal in a line with some indentation.  A text of one line
always does.  One of blank lines only does if nothing stands in front of the closing quote.
Otherwise some line has to start without white space, and blank lines have to be short and start
with no space. -/
def Restorable (indent : Nat) (text : List Char) : Prop :=
  '\n' ∉ text
    ∨ ((∀ line ∈ Text.lines text, Text.isBlankLine line = true)
      ∧ (indent = 0 ∨ text.getLast? ≠ some '\n'))
    ∨ ((∃ line ∈ Text.lines text, line.head?.any (!Text.isBlank ·) = true)
      ∧ ∀ line ∈ Text.lines text, Text.isBlankLine line = true →
        Text.byteLength line ≤ indent + 2 ∧ line.head? ≠ some ' ')

instance (indent : Nat) (text : List Char) : Decidable (Restorable indent text) :=
  inferInstanceAs (Decidable (_ ∨ _ ∨ _))

lemma closingIndent_eq_nil_iff (indent : Nat) (text : List Char) :
    closingIndent indent text = [] ↔ indent = 0 ∨ text.getLast? ≠ some '\n' := by
  rw [closingIndent]
  split
  · next h => simp [h]
  · next h => simp [h]

/-- Several lines come back exactly if the text is restorable. -/
lemma trimIndent?_eq_some_iff_restorable {text : List Char} (hbreak : '\n' ∈ text) (indent : Nat) :
    trimIndent? (literalBody indent text) = some text ↔ Restorable indent text := by
  by_cases hblank : ∀ line ∈ Text.lines text, Text.isBlankLine line = true
  · have hflush : ¬ ∃ line ∈ Text.lines text, line.head?.any (!Text.isBlank ·) = true := by
      rintro ⟨line, hline, hhead⟩
      rw [head_not_blank_iff, hblank line hline] at hhead
      simp at hhead
    have hself : text ++ closingIndent indent text = text ↔ closingIndent indent text = [] := by
      simp
    rw [trimIndent?_literalBody_of_blank hbreak hblank, Option.some.injEq, hself,
      closingIndent_eq_nil_iff]
    constructor
    · intro h
      exact Or.inr (Or.inl ⟨hblank, h⟩)
    · rintro (h | ⟨_, h⟩ | ⟨h, _⟩)
      · exact absurd hbreak h
      · exact h
      · exact absurd h hflush
  · have hsome : ∃ line ∈ Text.lines text, Text.isBlankLine line = false := by
      simpa using hblank
    rw [trimIndent?_literalBody_iff hbreak hsome, Restorable]
    simp only [hbreak, not_true_eq_false, false_or, hblank, false_and]

/-- **A literal gives a text back exactly if the text is restorable.**  What is written behind the
mark is always a literal, and an expectation with the data that it stands for expects the text that
was written, or another one (or none), depending on the text and the indentation alone. -/
theorem expected?_formatLiteral_iff (position : Position) (indent : Nat) (text : List Char) :
    ∃ literal, formatLiteral indent text = '@' :: literal
      ∧ (∃ data, Denotes literal data)
      ∧ ∀ data, Denotes literal data →
        (Expectation.expected? { position, data := String.ofList data } = some (String.ofList text)
          ↔ Restorable indent text) := by
  obtain ⟨literal, hliteral, hdenotes⟩ := denotes_formatLiteral indent text
  refine ⟨literal, hliteral, ⟨_, hdenotes⟩, ?_⟩
  intro data hdata
  rw [hdata.unique hdenotes, Expectation.expected?]
  simp only [String.toList_ofList]
  by_cases hbreak : '\n' ∈ text
  · have hmem : '\n' ∈ literalBody indent text := by
      rw [literalBody_of_mem hbreak]
      exact List.mem_cons_self
    rw [if_pos hmem, ← trimIndent?_eq_some_iff_restorable hbreak]
    cases trimIndent? (literalBody indent text) <;> simp [String.ofList_inj]
  · rw [literalBody, if_neg hbreak, if_neg hbreak]
    simp [Restorable, hbreak]

/-- A blank line that holds spaces loses some of them. -/
theorem expected?_ne_of_spaces_on_blank_line :
    ∃ literal data, formatLiteral 0 "a\n    \nb\n".toList = '@' :: literal ∧ Denotes literal data
      ∧ Expectation.expected? { position := ⟨"t.rs", 1, 1⟩, data := String.ofList data }
        = some "a\n  \nb\n" := by
  obtain ⟨literal, hliteral, hdenotes⟩ := denotes_formatLiteral 0 "a\n    \nb\n".toList
  exact ⟨literal, _, hliteral, hdenotes, by decide⟩

end SyntaxForge.Snapshot
