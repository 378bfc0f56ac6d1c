import SyntaxForge.Proofs.Indentation

/-!
# The walk to the first token

`Tree.split` takes the trivia in front of the first token off a tree, however deep that token is.
Two results say how far this goes.

* **`Tree.leading_lens`**: reading and replacing leading trivia are the two halves of a lens, and
  the text of a tree is the text of its leading trivia and a rest that no replacement touches.
* **`Tree.leading_skims`**: the walk removes tokens of trivia and nothing else, all other tokens and
  all nodes stay, and no trivia is left in front.  What it removes is what stands in front of the
  first token, provided that this token has a text.

The walk learns from the text of a node whether it has met a token in there, so a nested token
without text does not stop it: **`Tree.leading_behind_empty_token`**.  `Leaf.Skims` describes the
walk as it can be seen in the tokens, such tokens included.
-/

namespace SyntaxForge

/-! ## Texts -/

namespace Leaf

/-- A run of spaces, tabs or newlines has only its own character in its text. -/
def IsPlainRun (leaf : Leaf) : Prop :=
  match leaf.kind with
  | .trivia .spaces => ∀ c ∈ leaf.text.toList, c = ' '
  | .trivia .tabs => ∀ c ∈ leaf.text.toList, c = '\t'
  | .trivia .newlines => ∀ c ∈ leaf.text.toList, c = '\n'
  | _ => True

instance : DecidablePred IsPlainRun := fun leaf => by
  unfold IsPlainRun
  split
  · exact List.decidableBAll _ _
  · exact List.decidableBAll _ _
  · exact List.decidableBAll _ _
  · exact instDecidableTrue

@[simp] lemma chars_nil : chars [] = [] := rfl

/-- Tokens without text add none. -/
lemma chars_eq_nil {leaves : List Leaf} (h : ∀ leaf ∈ leaves, leaf.text = "") :
    chars leaves = [] := by
  simpa [chars] using h

end Leaf

namespace Piece

/-- A text of one character is given by its number of bytes. -/
lemma ofList_replicate_utf8ByteSize {text : String} {c : Char} (hsize : c.utf8Size = 1)
    (h : ∀ other ∈ text.toList, other = c) :
    String.ofList (List.replicate text.utf8ByteSize c) = text := by
  obtain ⟨count, hcount⟩ : ∃ count, text.toList = List.replicate count c :=
    ⟨text.toList.length, List.eq_replicate_of_mem h⟩
  rw [← Text.byteLength_toList, hcount, Text.byteLength_replicate count hsize, ← hcount,
    String.ofList_toList]

/-- A token of trivia has the text of its piece, if it is a plain run. -/
lemma text_ofText {kind : TriviaKind} {text : String}
    (h : Leaf.IsPlainRun { kind := .trivia kind, text }) : (ofText text kind).text = text := by
  cases kind with
  | spaces => exact ofList_replicate_utf8ByteSize rfl h
  | tabs => exact ofList_replicate_utf8ByteSize rfl h
  | newlines => exact ofList_replicate_utf8ByteSize rfl h
  | lineComment => rfl
  | docLineComment => rfl
  | unexpectedText => rfl

end Piece

namespace Trivia

lemma text_cons (piece : Piece) (rest : Trivia) :
    Trivia.text (piece :: rest) = piece.text ++ Trivia.text rest := by
  rw [text, List.map_cons, String.join_cons, text]

lemma text_append (front back : Trivia) :
    Trivia.text (front ++ back) = front.text ++ back.text := by
  rw [text, List.map_append, String.join_append, text, text]

end Trivia

namespace Element

/-- Elements without text have only tokens without text. -/
lemma text_eq_of_not_anyHasText {elements : List Element} (h : ¬ anyHasText elements = true) :
    ∀ leaf ∈ leavesOf elements, leaf.text = "" := by
  simpa [anyHasText_eq] using h

/-- The text of what is taken off and of what is left is the whole text. -/
lemma chars_splitAll (elements : List Element)
    (hplain : ∀ leaf ∈ leavesOf elements, leaf.IsPlainRun) :
    Leaf.chars (leavesOf elements)
      = (splitAll elements).1.text.toList ++ Leaf.chars (leavesOf (splitAll elements).2) := by
  induction elements using listInduction with
  | nil => simp [Trivia.text]
  | trivia kind text rest ih =>
      simp only [leavesOf, leaves, List.singleton_append, List.forall_mem_cons] at hplain
      rw [splitAll_cons_trivia, leavesOf, leaves, List.singleton_append, Leaf.chars_cons,
        ih hplain.2, Trivia.text_cons, Piece.text_ofText hplain.1, String.toList_append,
        List.append_assoc]
  | token kind text rest hkind _ => simp [splitAll_cons_token hkind, Trivia.text]
  | node kind children rest ihchildren ihrest =>
      rw [leavesOf, leaves, List.forall_mem_append] at hplain
      rw [splitAll_cons_node, leavesOf, leaves, Leaf.chars_append, ihchildren hplain.1]
      split
      · rw [leavesOf, leaves, Leaf.chars_append, List.append_assoc]
      · next htext =>
          -- no text is left in the node, so the two runs of trivia meet
          have hempty := Leaf.chars_eq_nil (text_eq_of_not_anyHasText htext)
          rw [leavesOf, leaves, Leaf.chars_append, hempty, List.append_nil, List.nil_append,
            ihrest hplain.2, Trivia.text_append, String.toList_append, List.append_assoc]

end Element

namespace Tree

/-- The text of a tree with other trivia in front. -/
lemma text_withLeading (tree : Tree) (trivia : Trivia) :
    (tree.withLeading trivia).text = trivia.text ++ tree.split.2.text := by
  rw [← String.toList_inj, String.toList_append, toList_text, toList_text, leaves, withLeading,
    Element.leavesOf_append, Leaf.chars_append, Trivia.leavesOf_toElements, Leaf.chars_leaves]
  rfl

/-- The text of a tree starts with its leading trivia. -/
lemma text_eq_leading_append {tree : Tree} (hplain : ∀ leaf ∈ tree.leaves, leaf.IsPlainRun) :
    tree.text = tree.leading.text ++ tree.split.2.text := by
  rw [← String.toList_inj, String.toList_append, toList_text, toList_text]
  exact Element.chars_splitAll tree.children hplain

/-- **Leading trivia is a lens.**  What is put in front of a tree is read back piece by piece, the
second of two replacements wins, and a tree whose runs are plain is printed as its leading trivia
and a rest that stays the same under every replacement. -/
theorem leading_lens (tree : Tree) :
    (∀ trivia, (tree.withLeading trivia).leading = trivia)
      ∧ (∀ first second,
          (tree.withLeading first).withLeading second = tree.withLeading second)
      ∧ ((∀ leaf ∈ tree.leaves, leaf.IsPlainRun) →
          ∃ rest, tree.text = tree.leading.text ++ rest
            ∧ ∀ trivia, (tree.withLeading trivia).text = trivia.text ++ rest) := by
  refine ⟨tree.leading_withLeading, tree.withLeading_withLeading, fun hplain => ?_⟩
  exact ⟨tree.split.2.text, text_eq_leading_append hplain, tree.text_withLeading⟩

/-- A statement on a line of its own: the first token stands behind a newline and the spaces inside
its expression. -/
def indentedItem : Tree where
  kind := .node "CodeBlockItem"
  children := [.token (.trivia .newlines) "\n",
    .node (.node "IdentifierExpr")
      [.token (.trivia .spaces) "  ", .token (.token Builtin.identifier) "name"],
    .token (.token Builtin.semicolon) ";"]

theorem leading_lens_indentedItem :
    indentedItem.leading = [.newlines 1, .spaces 2]
      ∧ (indentedItem.withLeading [.tabs 0]).leading = [.tabs 0]
      ∧ ∃ rest, indentedItem.text = indentedItem.leading.text ++ rest
        ∧ ∀ trivia, (indentedItem.withLeading trivia).text = trivia.text ++ rest := by
  obtain ⟨hget, -, htext⟩ := indentedItem.leading_lens
  exact ⟨by decide, hget _, htext (by decide)⟩

end Tree

/-! ## Tokens -/

/-- The piece that a token holds, if it is trivia. -/
def Leaf.piece? (leaf : Leaf) : Option Piece :=
  Piece.ofToken? leaf.kind leaf.text

/-- The walk, seen in the tokens: `Skims leaves removed rest` says that it removes tokens of trivia
and passes over tokens without text, until it stops and leaves everything else as it is. -/
inductive Leaf.Skims : List Leaf → List Leaf → List Leaf → Prop where
  | stop (leaves : List Leaf) : Skims leaves [] leaves
  | remove {leaf : Leaf} {leaves removed rest : List Leaf} : leaf.kind.isTrivia →
      Skims leaves removed rest → Skims (leaf :: leaves) (leaf :: removed) rest
  | pass {leaf : Leaf} {leaves removed rest : List Leaf} : leaf.text = "" →
      Skims leaves removed rest → Skims (leaf :: leaves) removed (leaf :: rest)

namespace Leaf.Skims

variable {leaves removed rest : List Leaf}

/-- Where the walk stops does not matter for what follows. -/
lemma append (h : Skims leaves removed rest) (more : List Leaf) :
    Skims (leaves ++ more) removed (rest ++ more) := by
  induction h with
  | stop leaves => exact .stop (leaves ++ more)
  | remove hkind _ ih => exact .remove hkind ih
  | pass htext _ ih => exact .pass htext ih

/-- Tokens without text can all be passed over. -/
lemma pass_all {passed : List Leaf} (hpassed : ∀ leaf ∈ passed, leaf.text = "")
    (h : Skims leaves removed rest) : Skims (passed ++ leaves) removed (passed ++ rest) := by
  induction passed with
  | nil => exact h
  | cons leaf passed ih =>
      rw [List.forall_mem_cons] at hpassed
      exact .pass hpassed.1 (ih hpassed.2)

/-- If the walk leaves no text behind, another one may follow. -/
lemma trans (h : Skims leaves removed rest) (hrest : ∀ leaf ∈ rest, leaf.text = "")
    {leaves' removed' rest' : List Leaf} (h' : Skims leaves' removed' rest') :
    Skims (leaves ++ leaves') (removed ++ removed') (rest ++ rest') := by
  induction h with
  | stop leaves => exact pass_all hrest h'
  | remove hkind _ ih => exact .remove hkind (ih hrest)
  | pass htext _ ih =>
      rw [List.forall_mem_cons] at hrest
      exact .pass htext (ih hrest.2)

/-- **A first token with a text stops the walk**: if it leaves no trivia in front, then it has
removed exactly what stands in front of that token. -/
lemma eq_append (h : Skims leaves removed rest)
    (hfront : ∀ leaf ∈ rest.head?, leaf.kind.isTrivia = false)
    (hfirst : ∀ leaf ∈ (leaves.filter fun leaf => !leaf.kind.isTrivia).head?, leaf.text ≠ "") :
    leaves = removed ++ rest := by
  induction h with
  | stop leaves => rfl
  | remove hkind _ ih =>
      rw [List.cons_append, ← ih hfront (by simpa [hkind] using hfirst)]
  | @pass leaf leaves removed rest htext _ _ =>
      -- the token passed over is now in front, so it is no trivia, and it is the first such token
      have hkind : leaf.kind.isTrivia = false := hfront leaf rfl
      exact absurd htext (hfirst leaf (by simp [hkind]))

end Leaf.Skims

/-- The elements come apart into some tokens, one after the other, and elements that have all the
nodes and the other tokens in their places. -/
inductive Element.Without : List Element → List Leaf → List Element → Prop where
  | nil : Without [] [] []
  | removed {kind : Kind} {text : String} {elements rest : List Element} {removed : List Leaf} :
      Without elements removed rest →
      Without (.token kind text :: elements) ({ kind, text } :: removed) rest
  | token {kind : Kind} {text : String} {elements rest : List Element} {removed : List Leaf} :
      Without elements removed rest →
      Without (.token kind text :: elements) removed (.token kind text :: rest)
  | node {kind : Kind} {children elements children' rest : List Element}
      {removed more : List Leaf} :
      Without children removed children' → Without elements more rest →
      Without (.node kind children :: elements) (removed ++ more) (.node kind children' :: rest)

namespace Element

/-- Nothing need be removed. -/
lemma Without.refl (elements : List Element) : Without elements [] elements := by
  induction elements using listInduction with
  | nil => exact .nil
  | trivia kind text rest ih => exact .token ih
  | token kind text rest _ ih => exact .token ih
  | node kind children rest ihchildren ihrest => exact .node ihchildren ihrest

/-- No trivia is left in front. -/
lemma isTrivia_head_splitAll (elements : List Element) :
    ∀ leaf ∈ (leavesOf (splitAll elements).2).head?, leaf.kind.isTrivia = false := by
  induction elements using listInduction with
  | nil => simp [leavesOf]
  | trivia kind text rest ih => simpa using ih
  | token kind text rest hkind _ => simp [splitAll_cons_token hkind, leavesOf, leaves, hkind]
  | node kind children rest ihchildren ihrest =>
      intro leaf hleaf
      rw [splitAll_cons_node] at hleaf
      split at hleaf
      · next htext =>
          -- a node with text has a token, and the first one is in front
          rw [leavesOf, leaves, List.head?_append_of_ne_nil] at hleaf
          · exact ihchildren leaf hleaf
          · intro hnil
            simp [anyHasText_eq, hnil] at htext
      · rw [leavesOf, leaves, List.head?_append] at hleaf
        rcases Option.or_eq_some_iff.mp hleaf with hhead | ⟨-, hhead⟩
        · exact ihchildren leaf hhead
        · exact ihrest leaf hhead

/-- **What the walk does to elements and to their tokens.** -/
theorem exists_skims_splitAll (elements : List Element) :
    ∃ removed, removed.map Leaf.piece? = (splitAll elements).1.map some
      ∧ Without elements removed (splitAll elements).2
      ∧ Leaf.Skims (leavesOf elements) removed (leavesOf (splitAll elements).2) := by
  induction elements using listInduction with
  | nil => exact ⟨[], by simp, by simpa using .nil, by simpa [leavesOf] using .stop []⟩
  | trivia kind text rest ih =>
      obtain ⟨removed, hpieces, hwithout, hskims⟩ := ih
      rw [splitAll_cons_trivia]
      refine ⟨{ kind := .trivia kind, text } :: removed, ?_, .removed hwithout,
        .remove rfl hskims⟩
      rw [List.map_cons, List.map_cons, hpieces]
      rfl
  | token kind text rest hkind _ =>
      rw [splitAll_cons_token hkind]
      exact ⟨[], rfl, .refl _, .stop _⟩
  | node kind children rest ihchildren ihrest =>
      obtain ⟨removed, hpieces, hwithout, hskims⟩ := ihchildren
      obtain ⟨more, hmore, hrest, hskimsRest⟩ := ihrest
      rw [splitAll_cons_node]
      split
      · refine ⟨removed, hpieces, ?_, hskims.append _⟩
        rw [← List.append_nil removed]
        exact hwithout.node (.refl rest)
      · next htext =>
          refine ⟨removed ++ more, ?_, hwithout.node hrest,
            hskims.trans (text_eq_of_not_anyHasText htext) hskimsRest⟩
          rw [List.map_append, List.map_append, hpieces, hmore]

end Element

namespace Tree

/-- **What is taken off a tree.**  The tokens that are removed are trivia and hold the pieces of the
leading trivia, in order; every other token and every node stays, and no trivia is left in front.
Tokens without text may be passed over on the way; but if the first token that is no trivia has a
text, then the tokens are those removed, followed by those that are left. -/
theorem leading_skims (tree : Tree) :
    ∃ removed, removed.map Leaf.piece? = tree.leading.map some
      ∧ tree.split.2.kind = tree.kind
      ∧ Element.Without tree.children removed tree.split.2.children
      ∧ (∀ leaf ∈ tree.split.2.leaves.head?, leaf.kind.isTrivia = false)
      ∧ Leaf.Skims tree.leaves removed tree.split.2.leaves
      ∧ ((∀ leaf ∈ tree.realLeaves.head?, leaf.text ≠ "") →
          tree.leaves = removed ++ tree.split.2.leaves) := by
  obtain ⟨removed, hpieces, hwithout, hskims⟩ := Element.exists_skims_splitAll tree.children
  have hfront := Element.isTrivia_head_splitAll tree.children
  exact ⟨removed, hpieces, rfl, hwithout, hfront, hskims, hskims.eq_append hfront⟩

/-- The first token of a statement stands behind a node without tokens and a space. -/
def spacedItem : Tree where
  kind := .node "CodeBlockItem"
  children := [.node (.node "ModifierList") [], .token (.trivia .spaces) " ",
    .token (.token Builtin.identifier) "name"]

theorem leading_skims_spacedItem :
    spacedItem.leading = [.spaces 1]
      ∧ ∃ removed, removed.map Leaf.piece? = spacedItem.leading.map some
        ∧ spacedItem.leaves = removed ++ spacedItem.split.2.leaves := by
  obtain ⟨removed, hpieces, -, -, -, -, hleaves⟩ := spacedItem.leading_skims
  exact ⟨by decide, removed, hpieces, hleaves (by decide)⟩

/-- A statement whose first token has no text, with a space and another token behind it. -/
def emptyNameItem : Tree where
  kind := .node "CodeBlockItem"
  children := [.node (.node "IdentifierExpr") [.token (.token Builtin.identifier) ""],
    .token (.trivia .spaces) " ", .token (.token Builtin.identifier) "name"]

/-- **Trivia is taken from behind a nested token without text.**  The tokens do not come apart into
trivia and the tokens that are left. -/
theorem leading_behind_empty_token :
    emptyNameItem.leading = [.spaces 1]
      ∧ ¬ ∃ removed : List Leaf, (∀ leaf ∈ removed, leaf.kind.isTrivia)
        ∧ emptyNameItem.leaves = removed ++ emptyNameItem.split.2.leaves := by
  refine ⟨by decide, ?_⟩
  rintro ⟨removed, htrivia, hleaves⟩
  cases removed with
  | nil => exact absurd hleaves (by decide)
  | cons leaf removed =>
      have hfirst : leaf = { kind := .token Builtin.identifier, text := "" } :=
        (List.cons.inj hleaves).1.symm
      have hkind := htrivia leaf List.mem_cons_self
      rw [hfirst] at hkind
      exact Bool.noConfusion hkind

end Tree

end SyntaxForge
