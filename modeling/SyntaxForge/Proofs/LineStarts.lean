import SyntaxForge.Proofs.WrittenTokens

/-!
# Starts of lines

Putting a tree on a new line takes its leading trivia off, respaces it behind the line break and
puts it back at the root.  Nothing of this can be seen in the tokens of the tree, from left to
right, as long as the leading trivia is a number of line breaks of the same format and then a run
without any: **`Aligned.leaves_lead`**.

* `Element.leaves_splitAll` reads the walk of `Tree.split` off the tokens: the leading trivia is the
  longest run of trivia they start with.  This needs that every other token has a text, or the walk
  would pass over it.
* `IsLineStart.respaced_append` is the work of the spacing pass.  Without any indentation a line
  break is a single piece and the next piece may be whitespace that the pass carries on; with some
  it is two pieces and the indentation is carried on.  Either way no later line is left to indent.
* `Aligned` describes the tokens of a tree that opens like this, in a form that is closed under
  concatenation.
-/

namespace SyntaxForge

/-! ## Tokens of trivia -/

/-- The token that holds a piece. -/
def Piece.leaf (piece : Piece) : Leaf where
  kind := .trivia piece.kind
  text := piece.text

lemma Piece.leaf_injective : Function.Injective Piece.leaf := by
  intro piece other h
  simp only [leaf, Leaf.mk.injEq, Kind.trivia.injEq] at h
  rw [← ofText_text piece, h.1, h.2, ofText_text]

/-- The tokens that hold the pieces of a run. -/
def Trivia.leaves (trivia : Trivia) : List Leaf :=
  trivia.map Piece.leaf

namespace Trivia

@[simp] lemma leaves_nil : leaves [] = [] := rfl

@[simp] lemma leaves_append (front back : Trivia) :
    leaves (front ++ back) = leaves front ++ leaves back := by
  simp [leaves]

lemma leaves_injective : Function.Injective leaves :=
  Piece.leaf_injective.list_map

lemma isTrivia_of_mem_leaves {trivia : Trivia} : ∀ leaf ∈ trivia.leaves, leaf.kind.isTrivia := by
  intro leaf h
  obtain ⟨piece, -, rfl⟩ := List.mem_map.mp h
  rfl

@[simp] lemma leavesOf_toElements (trivia : Trivia) :
    Element.leavesOf trivia.toElements = trivia.leaves := by
  induction trivia with
  | nil => rfl
  | cons piece rest ih => rw [toElements_cons, Element.leavesOf, ih]; rfl

end Trivia

/-! ## The walk to the first token, seen from the tokens -/

/-- A token holds a piece of trivia, or else it has a text. -/
inductive Leaf.IsSound : Leaf → Prop where
  | piece (piece : Piece) : IsSound piece.leaf
  | token {leaf : Leaf} : leaf.kind.isTrivia = false → leaf.text ≠ "" → IsSound leaf

namespace Leaf.IsSound

lemma of_mem_leaves {trivia : Trivia} : ∀ leaf ∈ trivia.leaves, leaf.IsSound := by
  intro leaf h
  obtain ⟨piece, -, rfl⟩ := List.mem_map.mp h
  exact .piece piece

/-- The piece can be read back. -/
lemma ofText_leaf {kind : TriviaKind} {text : String}
    (h : IsSound { kind := .trivia kind, text }) :
    (Piece.ofText text kind).leaf = { kind := .trivia kind, text } := by
  generalize hleaf : ({ kind := .trivia kind, text } : Leaf) = leaf at h
  cases h with
  | piece piece =>
      simp only [Piece.leaf, Leaf.mk.injEq, Kind.trivia.injEq] at hleaf
      rw [hleaf.1, hleaf.2, Piece.ofText_text]
  | token hkind _ =>
      subst hleaf
      simp [Kind.isTrivia] at hkind

end Leaf.IsSound

namespace Element

/-- Elements have text if one of their tokens has. -/
lemma anyHasText_eq (elements : List Element) :
    anyHasText elements = (leavesOf elements).any (·.text ≠ "") := by
  induction elements using listInduction with
  | nil => rfl
  | trivia kind text rest ih => rw [anyHasText, hasText, ih]; simp [leavesOf, leaves]
  | token kind text rest _ ih => rw [anyHasText, hasText, ih]; simp [leavesOf, leaves]
  | node kind children rest ihchildren ihrest =>
      rw [anyHasText, hasText, ihchildren, ihrest]
      simp [leavesOf, leaves]

/-- Behind leading trivia there is either nothing at all or a token with a text. -/
lemma anyHasText_of_leavesOf_eq_dropWhile {elements : List Element} {leaves : List Leaf}
    (hsound : ∀ leaf ∈ leaves, leaf.IsSound)
    (h : leavesOf elements = leaves.dropWhile (·.kind.isTrivia)) :
    anyHasText elements = !(leaves.dropWhile (·.kind.isTrivia)).isEmpty := by
  rw [anyHasText_eq, h]
  cases hrest : leaves.dropWhile (·.kind.isTrivia) with
  | nil => rfl
  | cons leaf rest =>
      have hmem : leaf ∈ leaves := (List.dropWhile_sublist _).subset (hrest ▸ List.mem_cons_self)
      have hreal := List.head?_dropWhile_not (·.kind.isTrivia) leaves
      rw [hrest] at hreal
      cases hsound leaf hmem with
      | piece piece => simp [Piece.leaf, Kind.isTrivia] at hreal
      | token _ hne => simp [hne]

/-- **The walk takes off the run of trivia that the tokens start with.** -/
theorem leaves_splitAll (elements : List Element)
    (hsound : ∀ leaf ∈ leavesOf elements, leaf.IsSound) :
    (splitAll elements).1.leaves = (leavesOf elements).takeWhile (·.kind.isTrivia)
      ∧ leavesOf (splitAll elements).2 = (leavesOf elements).dropWhile (·.kind.isTrivia) := by
  induction elements using listInduction with
  | nil => simp [leavesOf]
  | trivia kind text rest ih =>
      simp only [leavesOf, leaves, List.singleton_append, List.forall_mem_cons] at hsound
      obtain ⟨htake, hdrop⟩ := ih hsound.2
      have hpiece := hsound.1.ofText_leaf
      rw [Trivia.leaves] at htake
      simp [Trivia.leaves, leavesOf, leaves, Kind.isTrivia, hpiece, htake, hdrop]
  | token kind text rest hkind _ =>
      simp [splitAll_cons_token hkind, leavesOf, leaves, hkind]
  | node kind children rest ihchildren ihrest =>
      rw [leavesOf, leaves, List.forall_mem_append] at hsound
      obtain ⟨htake, hdrop⟩ := ihchildren hsound.1
      obtain ⟨htakeRest, hdropRest⟩ := ihrest hsound.2
      have htext := anyHasText_of_leavesOf_eq_dropWhile hsound.1 hdrop
      have hall := List.takeWhile_append_dropWhile (p := (·.kind.isTrivia)) (l := leavesOf children)
      rw [leavesOf, leaves, splitAll_cons_node, List.takeWhile_append, List.dropWhile_append, htext]
      cases hrest : (leavesOf children).dropWhile (·.kind.isTrivia) with
      | nil =>
          -- the node is all trivia, and the walk goes on behind it
          rw [hrest, List.append_nil] at hall
          rw [hrest] at hdrop
          simp [leavesOf, leaves, htake, hall, hdrop, htakeRest, hdropRest]
      | cons leaf more =>
          have hlength : ((leavesOf children).takeWhile (·.kind.isTrivia)).length
              ≠ (leavesOf children).length := by
            rw [hrest] at hall
            rw [← congrArg List.length hall]
            simp
          rw [hrest] at hdrop
          simp [hlength, leavesOf, leaves, htake, hdrop]

end Element

/-! ## Line breaks -/

/-- A line break is a newline piece and, unless the line is flush left, a run of spaces. -/
lemma Format.newLine_eq (format : Format) :
    format.newLine = .newlines 1
      :: if format.depth * format.width = 0 then []
        else [.spaces (format.depth * format.width)] := rfl

namespace Trivia

/-- Some line breaks of a format, and a run without any. -/
inductive IsLineStart (format : Format) : Trivia → Prop where
  | inline {trivia : Trivia} :
      (∀ piece ∈ trivia, piece.isNewline = false) → IsLineStart format trivia
  | newLine {trivia : Trivia} :
      IsLineStart format trivia → IsLineStart format (format.newLine ++ trivia)

/-- Away from newlines nothing happens. -/
lemma respacedFrom_inline {trivia : Trivia} (h : ∀ piece ∈ trivia, piece.isNewline = false)
    (indent : Option Piece) : respacedFrom indent trivia = trivia := by
  induction trivia with
  | nil => rfl
  | cons piece rest ih =>
      rw [List.forall_mem_cons] at h
      rw [respacedFrom_cons_other h.1, ih h.2]

/-- With some indentation, every line break brings its own whitespace along. -/
lemma IsLineStart.respacedFrom_eq {format : Format} (hwide : format.depth * format.width ≠ 0)
    {trivia : Trivia} (h : IsLineStart format trivia) :
    ∀ indent, respacedFrom indent trivia = trivia := by
  induction h with
  | inline h => exact respacedFrom_inline h
  | newLine _ ih =>
      intro indent
      rw [Format.newLine_eq, if_neg hwide, List.cons_append, List.singleton_append,
        respacedFrom_cons_indented rfl rfl rfl, respacedFrom_cons_other rfl, ih]

/-- Without, the only whitespace to be carried on stands behind the last one. -/
lemma IsLineStart.respaced_cons_newline {format : Format}
    (hflush : format.depth * format.width = 0) {trivia : Trivia} (h : IsLineStart format trivia) :
    respaced (.newlines 1 :: trivia) = .newlines 1 :: trivia := by
  induction h with
  | @inline trivia h =>
      rcases newline_cases trivia with ⟨next, hnext, hspace⟩ | ⟨next, hnext, hnewline⟩ | hbare
      · rw [respaced, respacedFrom_cons_indented rfl hnext hspace, respacedFrom_inline h]
      · rw [h next (List.mem_of_mem_head? hnext)] at hnewline
        exact Bool.noConfusion hnewline
      · rw [respaced, respacedFrom_cons_bare rfl hbare, respacedFrom_inline h]
        rfl
  | newLine _ ih =>
      rw [Format.newLine_eq, if_pos hflush, List.singleton_append, respaced,
        respacedFrom_cons_newline rfl rfl rfl, ← respaced, ih]

/-- **Another line break in front leaves the spacing pass nothing to do.** -/
theorem IsLineStart.respaced_append {format : Format} {trivia : Trivia}
    (h : IsLineStart format trivia) :
    respaced (format.newLine ++ trivia) = format.newLine ++ trivia := by
  by_cases hflush : format.depth * format.width = 0
  · rw [Format.newLine_eq, if_pos hflush, List.singleton_append]
    exact h.respaced_cons_newline hflush
  · exact h.newLine.respacedFrom_eq hflush none

end Trivia

/-! ## Tokens that stand on lines -/

/-- The tokens start with some line breaks of the format, and then there is nothing left or a token
follows, with trivia in front that has no line break. -/
inductive Aligned (format : Format) : List Leaf → Prop where
  | nil : Aligned format []
  | newLine {leaves : List Leaf} :
      Aligned format leaves → Aligned format (format.newLine.leaves ++ leaves)
  | token {leading : Trivia} {leaf : Leaf} {rest : List Leaf} :
      (∀ piece ∈ leading, piece.isNewline = false) → leaf.kind.isTrivia = false → leaf.text ≠ "" →
      (∀ other ∈ rest, other.IsSound) → Aligned format (leading.leaves ++ leaf :: rest)

namespace Aligned

variable {format : Format} {leaves : List Leaf}

lemma isSound (h : Aligned format leaves) : ∀ leaf ∈ leaves, leaf.IsSound := by
  induction h with
  | nil => simp
  | newLine _ ih => exact List.forall_mem_append.mpr ⟨Leaf.IsSound.of_mem_leaves, ih⟩
  | token _ hkind htext hrest =>
      refine List.forall_mem_append.mpr ⟨Leaf.IsSound.of_mem_leaves, ?_⟩
      exact List.forall_mem_cons.mpr ⟨.token hkind htext, hrest⟩

/-- Behind a token anything may follow, and in front of it only more lines. -/
lemma append (h : Aligned format leaves) {more : List Leaf} (hmore : Aligned format more) :
    Aligned format (leaves ++ more) := by
  induction h with
  | nil => exact hmore
  | newLine _ ih => rw [List.append_assoc]; exact ih.newLine
  | token hleading hkind htext hrest =>
      rw [List.append_assoc, List.cons_append]
      exact .token hleading hkind htext (List.forall_mem_append.mpr ⟨hrest, hmore.isSound⟩)

/-- The trivia that the tokens start with is the start of a line. -/
lemma exists_takeWhile (h : Aligned format leaves) :
    ∃ trivia, Trivia.IsLineStart format trivia
      ∧ leaves.takeWhile (·.kind.isTrivia) = trivia.leaves := by
  induction h with
  | nil => exact ⟨[], .inline (by simp), rfl⟩
  | newLine _ ih =>
      obtain ⟨trivia, hstart, htake⟩ := ih
      refine ⟨format.newLine ++ trivia, hstart.newLine, ?_⟩
      rw [List.takeWhile_append_of_pos Trivia.isTrivia_of_mem_leaves, htake, Trivia.leaves_append]
  | @token leading leaf rest hleading hkind _ _ =>
      refine ⟨leading, .inline hleading, ?_⟩
      rw [List.takeWhile_append_of_pos Trivia.isTrivia_of_mem_leaves,
        List.takeWhile_cons_of_neg (by simp [hkind]), List.append_nil]

/-- **A tree is put on a new line by putting the line break in front.** -/
theorem leaves_lead {tree : Tree} (h : Aligned format tree.leaves) :
    (tree.lead [] (some format.newLine)).leaves = format.newLine.leaves ++ tree.leaves := by
  obtain ⟨trivia, hstart, htrivia⟩ := h.exists_takeWhile
  obtain ⟨htake, hdrop⟩ := Element.leaves_splitAll tree.children h.isSound
  have hleading : tree.leading = trivia :=
    Trivia.leaves_injective (htake.trans htrivia)
  rw [Tree.lead_some, List.append_nil, hleading, hstart.respaced_append, Tree.leaves,
    Tree.withLeading, Element.leavesOf_append, Trivia.leavesOf_toElements, Trivia.leaves_append,
    ← htrivia, List.append_assoc]
  congr 1
  exact (congrArg _ hdrop).trans List.takeWhile_append_dropWhile

end Aligned

end SyntaxForge
