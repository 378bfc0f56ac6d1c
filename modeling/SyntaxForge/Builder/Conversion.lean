import SyntaxForge.Builder.Node

/-!
# Conversions between kinds

Where one kind is expected, a node of another kind may be given if there is a rule that converts
it.  The rules follow from the grammar: a node becomes a value of its base, of the root, and of
everything that its kind reaches.  A rule either does one step, or names the kind to go through.

* `Grammar.conversionRules` lists the rules;
* `Builder.convert?` applies them.
-/

namespace SyntaxForge

/-- What a rule does with a node. -/
inductive ConversionBody where
  /-- The node becomes a value of the root. -/
  | erase
  /-- The node becomes a value of its base. -/
  | upcast
  /-- The node fills the open slot of a new target. -/
  | wrap
  /-- The node is converted to another kind first. -/
  | through (via : String)
  deriving DecidableEq, Repr

/-- A rule that converts nodes of one kind to another. -/
structure ConversionRule where
  source : String
  target : String
  body : ConversionBody
  deriving DecidableEq, Repr

namespace Grammar

/-- The bases that values are made of: all but the root and the base of collections. -/
def valueBases (grammar : Grammar) : List NodeKind :=
  grammar.sortedBases.filter fun kind => !kind.isRoot && kind.name ≠ collectionBaseName

/-- The kinds that derive from a base directly. -/
def derivedFrom (grammar : Grammar) (base : NodeKind) : List NodeKind :=
  grammar.kinds.filter (·.base = some base.name)

/-- The rules that make values of a base. -/
def upcastRules (grammar : Grammar) (base : NodeKind) : List ConversionRule :=
  (grammar.derivedFrom base).map fun kind =>
    { source := kind.name, target := base.name, body := .upcast }

/-- What the rule from a kind to one of the kinds it reaches does. -/
def ruleBody? (kind : NodeKind) (target : String) (via : Conformance) : Option ConversionBody :=
  if via.target ≠ target then some (.through via.target)
  else
    match via.conversion with
    | .wrap _ => some .wrap
    | .upcast => kind.base.map .through

/-- The rules from a kind to the root and to everything it reaches; its base has a rule
already. -/
def rulesFrom (grammar : Grammar) (kind : NodeKind) : List ConversionRule :=
  if kind.isRoot || kind.name = collectionBaseName then []
  else
    let reached := (grammar.reachable kind.name).filterMap fun (target, via) =>
      if target = rootName ∨ kind.base = some target then none
      else (ruleBody? kind target via).map fun body => { source := kind.name, target, body }
    { source := kind.name, target := rootName, body := .erase } :: reached

/-- Every rule of a grammar. -/
def conversionRules (grammar : Grammar) : List ConversionRule :=
  grammar.valueBases.flatMap grammar.upcastRules ++ grammar.kinds.flatMap grammar.rulesFrom

end Grammar

/-- A grammar with its conversion rules at hand. -/
structure Builder where
  grammar : Grammar
  rules : List ConversionRule

namespace Builder

/-- The builder of a grammar. -/
def ofGrammar (grammar : Grammar) : Builder where
  grammar := grammar
  rules := grammar.conversionRules

/-- The rule from one kind to another. -/
def rule? (builder : Builder) (source target : String) : Option ConversionRule :=
  builder.rules.find? fun rule => rule.source = source ∧ rule.target = target

/-- The content of a slot that is given none. -/
def defaultContent (builder : Builder) (slot : Slot) : Content :=
  match builder.grammar.filling slot with
  | .fixed token => .token (.ofKind token)
  | .optional | .required => .none

/-- A node of a concrete kind with content for some of its slots, by name. -/
def make (builder : Builder) (kind : NodeKind) (given : List (String × Content)) : Node :=
  Node.make kind (kind.slots.map fun slot =>
    (given.lookup slot.name).getD (builder.defaultContent slot))

/-- The slots that have to be given. -/
def requiredSlots (builder : Builder) (kind : NodeKind) : List Slot :=
  kind.slots.filter fun slot => builder.grammar.filling slot = .required

/-- Converts a node by at most `bound` rules, one inside the other. -/
def convertWithin (builder : Builder) : (bound : Nat) → Node → String → Option Node
  | 0, _, _ => none
  | bound + 1, node, target =>
    if node.typeName = target then some node
    else do
      let rule ← builder.rule? node.typeName target
      match rule.body with
      | .erase | .upcast => return .upcast target node
      | .through via =>
        builder.convertWithin bound (← builder.convertWithin bound node via) target
      | .wrap =>
        let kind ← builder.grammar.kind? target
        match builder.requiredSlots kind with
        | [slot] =>
          let content ← builder.convertWithin bound node (← slot.type.node?)
          return builder.make kind [(slot.name, .node content)]
        | _ => none

/-- Converts a node to a value of another type, if a rule allows it.  Rules only lead from a kind to
kinds that it reaches, so their nesting is bounded by the number of kinds. -/
def convert? (builder : Builder) (node : Node) (target : String) : Option Node :=
  builder.convertWithin (2 * builder.grammar.kinds.length + 2) node target

end Builder

end SyntaxForge
