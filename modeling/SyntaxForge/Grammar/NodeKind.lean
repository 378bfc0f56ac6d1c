import SyntaxForge.Grammar.TypeRef
import SyntaxForge.Text.Case

/-!
# Node kinds

A node kind is a base, which other kinds derive from, a concrete kind with a list of child slots,
or a collection of elements of one type.
-/

namespace SyntaxForge

/-- The name of the universal base. -/
def rootName : String := "Syntax"

/-- The name of the base that collections derive from. -/
def collectionBaseName : String := "SyntaxCollection"

/-- A child slot of a concrete kind. -/
structure Slot where
  name : String
  type : TypeRef
  isOptional : Bool := false
  /-- The child is built one level deeper than its parent. -/
  isIndented : Bool := false
  /-- The child starts a new line, at the indentation of its parent. -/
  onNewLine : Bool := false
  /-- The child is set off from the one before it by a space. -/
  isSpaced : Bool := false
  deriving DecidableEq, Repr

namespace Slot

/-- The slot, left empty unless it is filled. -/
def optional (slot : Slot) : Slot := { slot with isOptional := true }

/-- The slot, one level deeper. -/
def indented (slot : Slot) : Slot := { slot with isIndented := true }

/-- The slot, on a line of its own. -/
def newLine (slot : Slot) : Slot := { slot with onNewLine := true }

/-- The slot, with a space in front. -/
def spaced (slot : Slot) : Slot := { slot with isSpaced := true }

end Slot

/-- The form of a node kind. -/
inductive Shape where
  | base
  | concrete (slots : List Slot)
  | collection (element : TypeRef) (onNewLines : Bool)
  deriving DecidableEq, Repr

/-- A kind of node, as a grammar declares it. -/
structure NodeKind where
  name : String
  /-- The base the kind derives from; only the root has none. -/
  base : Option String
  doc : String
  shape : Shape
  deriving DecidableEq, Repr

namespace NodeKind

/-- Whether the kind derives from nothing. -/
def isRoot (kind : NodeKind) : Bool := kind.base.isNone

/-- Whether the kind is a base. -/
def isBase (kind : NodeKind) : Bool :=
  match kind.shape with
  | .base => true
  | _ => false

/-- Whether the kind has slots of its own. -/
def isConcrete (kind : NodeKind) : Bool :=
  match kind.shape with
  | .concrete _ => true
  | _ => false

/-- Whether the kind is a collection. -/
def isCollection (kind : NodeKind) : Bool :=
  match kind.shape with
  | .collection _ _ => true
  | _ => false

/-- The child slots in tree order; only a concrete kind has any. -/
def slots (kind : NodeKind) : List Slot :=
  match kind.shape with
  | .concrete slots => slots
  | _ => []

/-- The type of the elements of a collection. -/
def element? (kind : NodeKind) : Option TypeRef :=
  match kind.shape with
  | .collection element _ => some element
  | _ => none

/-- Whether the kind is a collection whose elements stand on lines of their own. -/
def onNewLines (kind : NodeKind) : Bool :=
  match kind.shape with
  | .collection _ onNewLines => onNewLines
  | _ => false

/-- Every type that the kind refers to: those of its slots, or that of its elements. -/
def references (kind : NodeKind) : List TypeRef :=
  match kind.shape with
  | .base => []
  | .concrete slots => slots.map Slot.type
  | .collection element _ => [element]

/-- The name the kind goes by in trees: `ENUM_DECL`. -/
def kindName (kind : NodeKind) : String := Text.upperSnake kind.name

end NodeKind

end SyntaxForge
