import SyntaxForge.Grammar.Conformance

/-!
# Grammars

A grammar is a catalog together with the direct conformances of every kind.
`Grammar.ofDeclarations` accepts the declarations whose names all resolve and whose conformances
have neither cycles nor ambiguous paths.

* `Grammar.reachable` lists everything a kind converts to, nearest first, with the direct
  conformance that the conversion goes through.
* A kind lies on a cycle when it is found from its own targets.
* A kind is ambiguous when something it does not conform to directly is found through two of its
  direct conformances.
-/

namespace SyntaxForge

/-- A grammar as it is written down. -/
structure Declarations extends Catalog where
  /-- Conformances that cannot be read off the slots, by the conforming kind. -/
  expressibleAs : List (String × List String)
  deriving DecidableEq, Repr

/-- A catalog with the direct conformances of every kind, in declaration order. -/
structure Grammar extends Catalog where
  conformanceTable : List (String × List Conformance)
  deriving DecidableEq, Repr

namespace Grammar

/-- The direct conformances of a kind; none for an unknown name. -/
def conformances (grammar : Grammar) (name : String) : List Conformance :=
  (grammar.conformanceTable.lookup name).getD []

/-- The targets of the direct conformances of a kind. -/
def targets (grammar : Grammar) (name : String) : List String :=
  (grammar.conformances name).map Conformance.target

/-- Everything a kind converts to, nearest first, with the direct conformance that each
conversion goes through. -/
def reachable (grammar : Grammar) (name : String) : List (String × Conformance) :=
  explore grammar.targets grammar.kinds.length
    ((grammar.conformances name).map fun conformance => (conformance.target, conformance)) [name]

/-- Everything found from the targets of a kind, nearest first, the targets included. -/
def below (grammar : Grammar) (name : String) : List String :=
  (explore grammar.targets grammar.kinds.length
    ((grammar.targets name).map fun target => (target, ())) []).map Prod.fst

/-- Whether a kind converts to itself through one or more conformances. -/
def isOnCycle (grammar : Grammar) (kind : NodeKind) : Bool :=
  kind.name ∈ grammar.below kind.name

/-- The first name, list by list, that one of the `earlier` lists has too. -/
def firstShared (earlier : List String) : List (List String) → Option String
  | [] => none
  | names :: rest =>
    match names.find? fun name => name ∈ earlier with
    | some name => some name
    | none => firstShared (earlier ++ names) rest

/-- A target that a kind does not conform to directly and reaches through two of its direct
conformances. -/
def ambiguousTarget? (grammar : Grammar) (kind : NodeKind) : Option String :=
  let direct := grammar.targets kind.name
  firstShared [] (direct.map fun target => (grammar.below target).filter fun name => name ∉ direct)

/-- No kind lies on a cycle of conformances. -/
def checkCycles (grammar : Grammar) : Except GrammarError Unit :=
  match grammar.kinds.find? grammar.isOnCycle with
  | some kind => .error (.conformanceCycle kind.name)
  | none => .ok ()

/-- No kind reaches a target ambiguously. -/
def checkAmbiguity (grammar : Grammar) : Except GrammarError Unit :=
  match grammar.kinds.findSome? fun kind => (grammar.ambiguousTarget? kind).map (kind.name, ·) with
  | some (kind, target) => .error (.ambiguousConformance kind target)
  | none => .ok ()

/-- The root kind. -/
def root? (grammar : Grammar) : Option NodeKind :=
  grammar.kind? rootName

/-- The grammar that declarations describe, or the first reason to refuse them. -/
def ofDeclarations (declarations : Declarations) : Except GrammarError Grammar := do
  let catalog := declarations.toCatalog
  catalog.check
  declarations.expressibleAs.forM fun entry => catalog.checkListed entry.1
  let table ← catalog.kinds.mapM fun kind => do
    return (kind.name, ← catalog.directConformances declarations.expressibleAs kind)
  let grammar : Grammar := { catalog with conformanceTable := table }
  grammar.checkCycles
  grammar.checkAmbiguity
  return grammar

end Grammar

end SyntaxForge
