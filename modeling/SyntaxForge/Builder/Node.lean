import SyntaxForge.Builder.Format
import SyntaxForge.Builder.Layout
import SyntaxForge.Builder.Token

/-!
# Nodes under construction

A node is what a program writes down before it is laid out: a concrete node with its own leading
trivia and the content of each slot, a collection of nodes or of tokens, or a node standing in for
one of its bases.

`Node.build` lays a node out as a tree.  The format gives the indentation of the line that the node
stands on; trivia that is supplied goes in front of the node's own.
-/

namespace SyntaxForge

mutual

/-- A node under construction. -/
inductive Node where
  /-- A node of a concrete kind. -/
  | concrete (kind : String) (own : Trivia) (fields : Fields)
  /-- A collection of nodes. -/
  | list (layout : ListLayout) (elements : List Node)
  /-- A collection of tokens. -/
  | tokens (layout : ListLayout) (elements : List Token)
  /-- A node as a value of one of its bases. -/
  | upcast (base : String) (node : Node)

/-- The slots of a concrete node with their content, in tree order. -/
inductive Fields where
  | nil
  /-- A slot that is left empty. -/
  | empty (slot : Slot) (rest : Fields)
  | token (slot : Slot) (token : Token) (rest : Fields)
  | node (slot : Slot) (node : Node) (rest : Fields)

end

/-- The content of a slot. -/
inductive Content where
  | none
  | token (token : Token)
  | node (node : Node)

namespace Fields

/-- The slots filled in order; slots without content are left empty. -/
def ofContents : List Slot → List Content → Fields
  | [], _ => .nil
  | slot :: slots, .token leaf :: rest => .token slot leaf (ofContents slots rest)
  | slot :: slots, .node child :: rest => .node slot child (ofContents slots rest)
  | slot :: slots, .none :: rest => .empty slot (ofContents slots rest)
  | slot :: slots, [] => .empty slot (ofContents slots [])

/-- Puts content in front of the other fields. -/
def cons (slot : Slot) (content : Content) (rest : Fields) : Fields :=
  match content with
  | .none => .empty slot rest
  | .token leaf => .token slot leaf rest
  | .node child => .node slot child rest

/-- Replaces the content of the slot of a name. -/
def set (name : String) (content : Content) : Fields → Fields
  | .nil => .nil
  | .empty slot rest =>
    if slot.name = name then cons slot content rest else .empty slot (set name content rest)
  | .token slot leaf rest =>
    if slot.name = name then cons slot content rest else .token slot leaf (set name content rest)
  | .node slot child rest =>
    if slot.name = name then cons slot content rest else .node slot child (set name content rest)

/-- Whether the slot of a name has any content. -/
def holds (name : String) : Fields → Bool
  | .nil => false
  | .empty _ rest => holds name rest
  | .token slot _ rest | .node slot _ rest => slot.name = name || holds name rest

end Fields

namespace Node

/-- A node of a concrete kind, with content for its slots in order. -/
def make (kind : NodeKind) (contents : List Content) : Node :=
  .concrete kind.name [] (.ofContents kind.slots contents)

/-- The name of the type that the node is a value of. -/
def typeName : Node → String
  | .concrete kind _ _ => kind
  | .list layout _ | .tokens layout _ => layout.name
  | .upcast base _ => base

/-- The node with other trivia of its own.  Only a concrete node has any. -/
def withOwn (own : Trivia) : Node → Node
  | .concrete kind _ fields => .concrete kind own fields
  | .list layout elements => .list layout elements
  | .tokens layout elements => .tokens layout elements
  | .upcast base node => .upcast base (node.withOwn own)

/-- The node with other content in the slot of a name. -/
def set (name : String) (content : Content) : Node → Node
  | .concrete kind own fields => .concrete kind own (fields.set name content)
  | .list layout elements => .list layout elements
  | .tokens layout elements => .tokens layout elements
  | .upcast base node => .upcast base (node.set name content)

/-- The elements of a collection of nodes. -/
def listed : Node → List Node
  | .list _ elements => elements
  | .concrete _ _ _ | .tokens _ _ | .upcast _ _ => []

/-- The elements of a collection of tokens. -/
def listedTokens : Node → List Token
  | .tokens _ elements => elements
  | .concrete _ _ _ | .list _ _ | .upcast _ _ => []

/-- One collection of nodes with the elements of several, in order. -/
def combining (layout : ListLayout) (lists : List Node) : Node :=
  .list layout (lists.flatMap listed)

/-- One collection of tokens with the elements of several, in order. -/
def combiningTokens (layout : ListLayout) (lists : List Node) : Node :=
  .tokens layout (lists.flatMap listedTokens)

/-- Whether the slot of a name has any content. -/
def holds (name : String) : Node → Bool
  | .concrete _ _ fields => fields.holds name
  | .list _ _ | .tokens _ _ => false
  | .upcast _ node => node.holds name

end Node

/-! ## Layout -/

/-- The trivia that a slot supplies to its content. -/
def Slot.lead (slot : Slot) (format : Format) : Option Trivia :=
  if slot.onNewLine then some format.newLine
  else if slot.isSpaced then some (Trivia.spaces 1)
  else none

/-- The format of the content of a slot. -/
def Slot.format (slot : Slot) (format : Format) : Format :=
  if slot.isIndented then format.indented else format

/-- The trivia that a collection supplies to its elements. -/
def ListLayout.lead (layout : ListLayout) (format : Format) : Option Trivia :=
  if layout.onNewLines then some format.newLine else none

/-- Puts the comma of a list behind an element. -/
def ListLayout.separated (layout : ListLayout) (tree : Tree) : Tree :=
  match layout.comma with
  | some comma => tree.push ((Token.ofKind comma).elements none)
  | none => tree

mutual

/-- Lays a node out as a tree. -/
def Node.build (format : Format) (supplied : Option Trivia) : Node → Tree
  | .concrete kind own fields =>
    Tree.lead { kind := .node kind, children := fields.elements format } own supplied
  | .list layout elements =>
    Tree.lead { kind := .node layout.name, children := Node.listElements layout format elements }
      [] supplied
  | .tokens layout elements =>
    Tree.lead
      { kind := .node layout.name
        children := elements.flatMap fun token => token.elements (layout.lead format) }
      [] supplied
  | .upcast _ node => node.build format supplied

/-- The elements that the fields of a node contribute to its tree. -/
def Fields.elements (format : Format) : Fields → List Element
  | .nil => []
  | .empty _ rest => rest.elements format
  | .token slot token rest => token.elements (slot.lead format) ++ rest.elements format
  | .node slot node rest =>
    (node.build (slot.format format) (slot.lead format)).toElement :: rest.elements format

/-- The elements of a collection; every one but the last that has no comma gets one. -/
def Node.listElements (layout : ListLayout) (format : Format) : List Node → List Element
  | [] => []
  | node :: rest =>
    let tree := node.build format (layout.lead format)
    let isClosed := rest.isEmpty || node.holds trailingCommaName
    (if isClosed then tree else layout.separated tree).toElement
      :: Node.listElements layout format rest

end

namespace Node

/-- The trees of a node; every node makes a single one. -/
def buildList (format : Format) (supplied : Option Trivia) (node : Node) : List Tree :=
  [node.build format supplied]

/-- The source text of a node. -/
def source (format : Format) (node : Node) : String :=
  (node.build format none).text

end Node

end SyntaxForge
