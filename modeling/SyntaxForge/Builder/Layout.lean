import SyntaxForge.Grammar.Basic

/-!
# Layouts

How the nodes of a kind are put together, as far as it can be read off the grammar once and for
all: how each slot gets its content, and what stands between the elements of a collection.
-/

namespace SyntaxForge

/-- How a slot gets its content. -/
inductive Filling where
  /-- It may stay empty. -/
  | optional
  /-- It holds a token of this kind unless it is given another one. -/
  | fixed (token : TokenKind)
  /-- It has to be given. -/
  | required
  deriving DecidableEq, Repr

/-- The name of the slot for the comma behind an element of a list. -/
def trailingCommaName : String := "TrailingComma"

/-- How the elements of a collection are put together. -/
structure ListLayout where
  /-- The name of the collection. -/
  name : String
  /-- Each element starts a new line. -/
  onNewLines : Bool
  /-- The token put behind every element but the last that has none of its own. -/
  comma : Option TokenKind
  deriving DecidableEq, Repr

namespace Catalog

/-- How a slot gets its content. -/
def filling (catalog : Catalog) (slot : Slot) : Filling :=
  if slot.isOptional then .optional
  else
    match catalog.fixedToken? slot.type with
    | some token => .fixed token
    | none => .required

/-- The slot for the comma behind an element, with its token. -/
def commaSlot? (catalog : Catalog) (element : TypeRef) : Option (Slot × TokenKind) := do
  let kind ← catalog.kind? (← element.node?)
  let slot ← kind.slots.find? (·.name = trailingCommaName)
  let token ← catalog.tokenOf? slot.type
  return (slot, token)

/-- How the elements of a collection are put together. -/
def listLayout (catalog : Catalog) (kind : NodeKind) : ListLayout where
  name := kind.name
  onNewLines := kind.onNewLines
  comma := (kind.element?.bind catalog.commaSlot?).map Prod.snd

end Catalog

end SyntaxForge
