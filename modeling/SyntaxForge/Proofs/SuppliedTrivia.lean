import SyntaxForge.Builder.Node
import SyntaxForge.Proofs.LeadingTrivia

/-!
# Supplying trivia to a node

A node may be built with trivia of its surroundings in front.  `Tree.lead` puts this and the node's
own trivia in front of what the content starts with, and respaces all of it as one run.

A node with trivia of its own is respaced even when nothing is supplied, so building it plainly and
adding trivia afterwards runs the spacing pass twice where building it with the trivia runs it
once.  **`build_some_eq_withLeading`** says that the two agree: supplied trivia can be added to the
finished tree.
-/

namespace SyntaxForge

namespace Tree

/-- With trivia supplied, a tree is always given a new start. -/
lemma lead_some (tree : Tree) (own supplied : Trivia) :
    tree.lead own (some supplied)
      = tree.withLeading (Trivia.respaced (supplied ++ own ++ tree.leading)) := by
  cases own <;> rfl

lemma lead_nil_none (tree : Tree) : tree.lead [] none = tree := rfl

/-- Without, it is given one if it has trivia of its own. -/
lemma lead_cons_none (tree : Tree) (piece : Piece) (own : Trivia) :
    tree.lead (piece :: own) none
      = tree.withLeading (Trivia.respaced (piece :: own ++ tree.leading)) := rfl

/-- **Trivia may be supplied afterwards.**  The inner run of the spacing pass is absorbed by the
outer one, and the start it made is replaced. -/
theorem lead_some_eq_withLeading (tree : Tree) (own supplied : Trivia) :
    tree.lead own (some supplied)
      = (tree.lead own none).withLeading
          (Trivia.respaced (supplied ++ (tree.lead own none).leading)) := by
  rw [lead_some]
  cases own with
  | nil => rw [lead_nil_none, List.append_nil]
  | cons piece own =>
      rw [lead_cons_none, leading_withLeading, withLeading_withLeading,
        Trivia.respaced_append_respaced, List.append_assoc]

end Tree

namespace Node

/-- The trivia of the node itself, which only a concrete node has. -/
def own : Node → Trivia
  | .concrete _ own _ => own
  | .list _ _ | .tokens _ _ => []
  | .upcast _ node => node.own

/-- The tree of a node before any trivia is put in front of it. -/
def body (format : Format) : Node → Tree
  | .concrete kind _ fields => { kind := .node kind, children := fields.elements format }
  | .list layout elements =>
    { kind := .node layout.name, children := listElements layout format elements }
  | .tokens layout elements =>
    { kind := .node layout.name
      children := elements.flatMap fun token => token.elements (layout.lead format) }
  | .upcast _ node => node.body format

/-- Every node is built by putting trivia in front of its body, which knows of none. -/
lemma build_eq_lead (format : Format) (supplied : Option Trivia) :
    ∀ node : Node, node.build format supplied = (node.body format).lead node.own supplied
  | .concrete _ _ _ => by rw [build, body, own]
  | .list _ _ => by rw [build, body, own]
  | .tokens _ _ => by rw [build, body, own]
  | .upcast _ node => by
      rw [build, body, own]
      exact build_eq_lead format supplied node

/-- A node without own trivia is built plainly as its body. -/
lemma build_withOwn_nil (format : Format) :
    ∀ node : Node, (node.withOwn []).build format none = node.body format
  | .concrete _ _ _ => by rw [withOwn, build, body, Tree.lead_nil_none]
  | .list _ _ => by rw [withOwn, build, body, Tree.lead_nil_none]
  | .tokens _ _ => by rw [withOwn, build, body, Tree.lead_nil_none]
  | .upcast _ node => by
      rw [withOwn, build, body]
      exact build_withOwn_nil format node

/-- **Supplied trivia goes in front of the finished tree.**  Building any node with trivia gives the
tree that is built without, started anew with the supplied trivia and what the tree started with,
respaced as one run.  So the rest of the tree does not depend on what is supplied, and the new start
holds the supplied trivia, the node's own and that of its content, each of them once. -/
theorem build_some_eq_withLeading (node : Node) (format : Format) (supplied : Trivia) :
    node.build format (some supplied)
        = (node.build format none).withLeading
            (Trivia.respaced (supplied ++ (node.build format none).leading))
      ∧ (node.build format (some supplied)).split.2 = (node.build format none).split.2
      ∧ (node.build format (some supplied)).leading
        = Trivia.respaced
            (supplied ++ node.own ++ ((node.withOwn []).build format none).leading) := by
  have hbuild := Tree.lead_some_eq_withLeading (node.body format) node.own supplied
  rw [build_withOwn_nil, build_eq_lead, build_eq_lead]
  refine ⟨hbuild, ?_, ?_⟩
  · rw [hbuild, Tree.split_withLeading]
  · rw [Tree.lead_some, Tree.leading_withLeading]

end Node

end SyntaxForge
