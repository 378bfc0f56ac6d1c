import SyntaxForge.Tree.Trivia

/-!
# Trees

A tree has a kind and a list of children; a child is a token or again a tree.  The tokens from left
to right are the leaves of a tree, and its text is the text of its leaves.

The leading trivia of a tree is what stands in front of its first token, however deep that is.
`Tree.split` takes it off, `Tree.withLeading` replaces it by other trivia, which becomes the first
children of the root.
-/

namespace SyntaxForge

/-- A token or a node. -/
inductive Element where
  | token (kind : Kind) (text : String)
  | node (kind : Kind) (children : List Element)

/-- A node: its kind and its children. -/
structure Tree where
  kind : Kind
  children : List Element

/-- A token of a tree. -/
structure Leaf where
  kind : Kind
  text : String
  deriving DecidableEq, Repr

/-- The tree as a child of another one. -/
def Tree.toElement (tree : Tree) : Element :=
  .node tree.kind tree.children

/-- The pieces as tokens. -/
def Trivia.toElements (trivia : Trivia) : List Element :=
  trivia.map fun piece => .token (.trivia piece.kind) piece.text

/-! ## Leaves and text -/

mutual

/-- The tokens of an element, from left to right. -/
def Element.leaves : Element → List Leaf
  | .token kind text => [{ kind, text }]
  | .node _ children => Element.leavesOf children

/-- The tokens of a list of elements, from left to right. -/
def Element.leavesOf : List Element → List Leaf
  | [] => []
  | element :: rest => element.leaves ++ Element.leavesOf rest

end

mutual

/-- Whether an element has any text. -/
def Element.hasText : Element → Bool
  | .token _ text => text ≠ ""
  | .node _ children => Element.anyHasText children

/-- Whether one of the elements has any text. -/
def Element.anyHasText : List Element → Bool
  | [] => false
  | element :: rest => element.hasText || Element.anyHasText rest

end

namespace Tree

/-- The tokens of a tree, from left to right. -/
def leaves (tree : Tree) : List Leaf :=
  Element.leavesOf tree.children

/-- The text of a tree. -/
def text (tree : Tree) : String :=
  String.join (tree.leaves.map Leaf.text)

/-- The tree with more children behind its own. -/
def push (tree : Tree) (extra : List Element) : Tree :=
  { tree with children := tree.children ++ extra }

end Tree

/-! ## Leading trivia -/

mutual

/-- Takes the leading trivia off an element.  Nothing is left of a token that is trivia. -/
def Element.split : Element → Trivia × Option Element
  | .token kind text =>
    match Piece.ofToken? kind text with
    | some piece => ([piece], none)
    | none => ([], some (.token kind text))
  | .node kind children =>
    let (trivia, rest) := Element.splitAll children
    (trivia, some (.node kind rest))

/-- Takes the leading trivia off a list of elements.  The search ends at a token that is no trivia,
and at a node that still has text. -/
def Element.splitAll : List Element → Trivia × List Element
  | [] => ([], [])
  | element :: rest =>
    match element.split with
    | (trivia, none) =>
      let (more, left) := Element.splitAll rest
      (trivia ++ more, left)
    | (trivia, some (.token kind text)) => (trivia, .token kind text :: rest)
    | (trivia, some (.node kind children)) =>
      if Element.anyHasText children then (trivia, .node kind children :: rest)
      else
        let (more, left) := Element.splitAll rest
        (trivia ++ more, .node kind children :: left)

end

namespace Tree

/-- The leading trivia, and the tree without it. -/
def split (tree : Tree) : Trivia × Tree :=
  let (trivia, rest) := Element.splitAll tree.children
  (trivia, { tree with children := rest })

/-- The trivia in front of the first token. -/
def leading (tree : Tree) : Trivia :=
  tree.split.1

/-- The tree with other trivia in front of its first token. -/
def withLeading (tree : Tree) (trivia : Trivia) : Tree :=
  let bare := tree.split.2
  { bare with children := trivia.toElements ++ bare.children }

/-- Puts `supplied` and `own` trivia in front of the leading trivia, respaced as one run.  A tree
that is given neither stays as it is. -/
def lead (tree : Tree) (own : Trivia) (supplied : Option Trivia) : Tree :=
  match supplied, own with
  | none, [] => tree
  | _, _ => tree.withLeading (Trivia.respaced (supplied.getD [] ++ own ++ tree.leading))

end Tree

end SyntaxForge
