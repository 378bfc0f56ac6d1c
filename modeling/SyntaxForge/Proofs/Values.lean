import SyntaxForge.Builder.Node
import Mathlib.Tactic.Lemma

/-!
# Values of a grammar

`Node` holds any shape of node.  The values that can be written down for a grammar are those whose
parts have the types that the grammar gives them:

* a concrete kind holds content of the right type in each of its slots, in the order of the slots,
  and may leave the optional ones empty;
* a collection holds elements of its element type, and is laid out as the grammar says;
* a base holds a value of one of the kinds that derive from it;
* the root holds a value of any type.

`Catalog.IsValue catalog type node` says that a node is a value of a type, `Catalog.Fills` the same
of the slots of a concrete kind.
-/

namespace SyntaxForge

namespace Catalog

mutual

/-- The node is a value of the type of this name. -/
inductive IsValue (catalog : Catalog) : String → Node → Prop where
  | concrete {kind : NodeKind} {own : Trivia} {fields : Fields} :
      kind ∈ catalog.concreteKinds → Fills catalog kind.slots fields →
      IsValue catalog kind.name (.concrete kind.name own fields)
  | list {kind : NodeKind} {element : String} {elements : List Node} :
      kind ∈ catalog.collectionKinds → kind.element? = some (.node element) →
      (∀ node ∈ elements, IsValue catalog element node) →
      IsValue catalog kind.name (.list (catalog.listLayout kind) elements)
  | tokens {kind : NodeKind} {element : TypeRef} {elements : List Token} :
      kind ∈ catalog.collectionKinds → kind.element? = some element → element.isToken = true →
      IsValue catalog kind.name (.tokens (catalog.listLayout kind) elements)
  | base {base kind : NodeKind} {node : Node} :
      base ∈ catalog.kinds → base.isBase = true → base.isRoot = false →
      base.name ≠ collectionBaseName → kind ∈ catalog.kinds → kind.base = some base.name →
      IsValue catalog kind.name node → IsValue catalog base.name (.upcast base.name node)
  | root {type : String} {node : Node} :
      IsValue catalog type node → IsValue catalog rootName (.upcast rootName node)

/-- The fields give the slots content of the right type, in order. -/
inductive Fills (catalog : Catalog) : List Slot → Fields → Prop where
  | nil : Fills catalog [] .nil
  | empty {slot : Slot} {slots : List Slot} {rest : Fields} :
      slot.isOptional = true → Fills catalog slots rest →
      Fills catalog (slot :: slots) (.empty slot rest)
  | token {slot : Slot} {slots : List Slot} {token : Token} {rest : Fields} :
      slot.type.isToken = true → Fills catalog slots rest →
      Fills catalog (slot :: slots) (.token slot token rest)
  | node {slot : Slot} {slots : List Slot} {type : String} {node : Node} {rest : Fields} :
      slot.type = .node type → IsValue catalog type node → Fills catalog slots rest →
      Fills catalog (slot :: slots) (.node slot node rest)

end

end Catalog

end SyntaxForge
