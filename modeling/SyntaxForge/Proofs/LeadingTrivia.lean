import SyntaxForge.Proofs.Spacing
import SyntaxForge.Text.Bytes
import SyntaxForge.Tree.Basic

/-!
# Taking leading trivia off and putting it back

`Tree.split` walks down to the first token of a tree and rebuilds the nodes on its way.  The facts
here say that this is a proper view of a tree: what is put in front of a tree can be read back
(`leading_withLeading`), putting trivia on twice is putting on the second
(`withLeading_withLeading`), and the rest of the tree is the same whatever stands in front of it
(`split_withLeading`).

The walk passes over nodes that have no text left, so it does not simply stop at the first token;
that a second walk still finds nothing is `splitAll_rest`.

All proofs go by `Element.listInduction`, which follows the recursion of the walk: along a list of
elements, and down into the children of its nodes.
-/

namespace SyntaxForge

/-- Whether tokens of the kind are trivia. -/
def Kind.isTrivia : Kind → Bool
  | .trivia _ => true
  | .tombstone | .token _ | .node _ => false

/-- Induction over lists of elements, going down into the children of every node and telling
trivia from other tokens. -/
theorem Element.listInduction {motive : List Element → Prop} (nil : motive [])
    (trivia : ∀ kind text rest, motive rest → motive (.token (.trivia kind) text :: rest))
    (token : ∀ kind text rest, kind.isTrivia = false → motive rest →
      motive (.token kind text :: rest))
    (node : ∀ kind children rest, motive children → motive rest →
      motive (.node kind children :: rest)) :
    ∀ elements, motive elements
  | [] => nil
  | .token kind text :: rest => by
      have ih := listInduction nil trivia token node rest
      cases kind with
      | trivia kind => exact trivia kind text rest ih
      | tombstone => exact token .tombstone text rest rfl ih
      | token kind => exact token (.token kind) text rest rfl ih
      | node name => exact token (.node name) text rest rfl ih
  | .node kind children :: rest =>
      node kind children rest (listInduction nil trivia token node children)
        (listInduction nil trivia token node rest)
termination_by elements => sizeOf elements

/-! ## Pieces and their tokens -/

namespace Piece

lemma utf8ByteSize_replicate (count : Nat) {c : Char} (h : c.utf8Size = 1) :
    (String.ofList (List.replicate count c)).utf8ByteSize = count := by
  rw [← Text.byteLength_toList, String.toList_ofList, Text.byteLength_replicate count h]

/-- A piece can be read back from its token. -/
@[simp] lemma ofText_text (piece : Piece) : ofText piece.text piece.kind = piece := by
  cases piece with
  | spaces count => simp only [text, kind, ofText, utf8ByteSize_replicate count (c := ' ') rfl]
  | tabs count => simp only [text, kind, ofText, utf8ByteSize_replicate count (c := '\t') rfl]
  | newlines count => simp only [text, kind, ofText, utf8ByteSize_replicate count (c := '\n') rfl]
  | lineComment text => rfl
  | docLineComment text => rfl
  | unexpectedText text => rfl

end Piece

@[simp] lemma Trivia.toElements_nil : Trivia.toElements [] = [] := rfl

@[simp] lemma Trivia.toElements_cons (piece : Piece) (rest : Trivia) :
    Trivia.toElements (piece :: rest)
      = .token (.trivia piece.kind) piece.text :: Trivia.toElements rest := rfl

/-! ## One step of the walk -/

namespace Element

@[simp] lemma splitAll_nil : splitAll [] = ([], []) := by
  rw [splitAll]

/-- A token that is trivia is taken off, and the walk goes on. -/
@[simp] lemma splitAll_cons_trivia (kind : TriviaKind) (text : String) (rest : List Element) :
    splitAll (.token (.trivia kind) text :: rest)
      = (Piece.ofText text kind :: (splitAll rest).1, (splitAll rest).2) := by
  simp [splitAll, split, Piece.ofToken?]

/-- Any other token ends the walk. -/
lemma splitAll_cons_token {kind : Kind} (h : kind.isTrivia = false) (text : String)
    (rest : List Element) :
    splitAll (.token kind text :: rest) = ([], .token kind text :: rest) := by
  cases kind with
  | trivia kind => simp [Kind.isTrivia] at h
  | _ => simp [splitAll, split, Piece.ofToken?]

/-- A node is rebuilt without its leading trivia; it ends the walk if it still has text. -/
lemma splitAll_cons_node (kind : Kind) (children rest : List Element) :
    splitAll (.node kind children :: rest)
      = if anyHasText (splitAll children).2 then
          ((splitAll children).1, .node kind (splitAll children).2 :: rest)
        else
          ((splitAll children).1 ++ (splitAll rest).1,
            .node kind (splitAll children).2 :: (splitAll rest).2) := by
  rw [splitAll, split]

/-! ## The walk as a view -/

/-- The walk takes pieces of trivia off one by one. -/
lemma splitAll_toElements_append (trivia : Trivia) (elements : List Element) :
    splitAll (trivia.toElements ++ elements)
      = (trivia ++ (splitAll elements).1, (splitAll elements).2) := by
  induction trivia with
  | nil => simp
  | cons piece rest ih => simp [ih]

/-- **A second walk finds nothing.** -/
theorem splitAll_rest (elements : List Element) :
    splitAll (splitAll elements).2 = ([], (splitAll elements).2) := by
  induction elements using listInduction with
  | nil => simp
  | trivia kind text rest ih => simpa using ih
  | token kind text rest h _ => simp only [splitAll_cons_token h]
  | node kind children rest ihchildren ihrest =>
      rw [splitAll_cons_node]
      split
      · next htext =>
          -- the node still has text, so the second walk ends at it as well
          simp only [splitAll_cons_node, ihchildren, htext, if_true]
      · next htext =>
          simp only [splitAll_cons_node, ihchildren, htext, ihrest, Bool.false_eq_true, if_false,
            List.append_nil]

end Element

namespace Tree

/-- What is left of a tree with other trivia in front is what was left of the tree. -/
lemma split_withLeading (tree : Tree) (trivia : Trivia) :
    (tree.withLeading trivia).split = (trivia, tree.split.2) := by
  simp only [withLeading, split, Element.splitAll_toElements_append, Element.splitAll_rest,
    List.append_nil]

/-- **What is put in front of a tree can be read back.** -/
@[simp] theorem leading_withLeading (tree : Tree) (trivia : Trivia) :
    (tree.withLeading trivia).leading = trivia := by
  rw [leading, split_withLeading]

/-- **The second of two leading trivias wins.** -/
@[simp] theorem withLeading_withLeading (tree : Tree) (first second : Trivia) :
    (tree.withLeading first).withLeading second = tree.withLeading second := by
  rw [withLeading, split_withLeading]
  rfl

end Tree

end SyntaxForge
