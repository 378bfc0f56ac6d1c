/-!
# What can be wrong with a grammar

Each constructor of `GrammarError` is a reason to refuse a grammar; `GrammarError.message` words
it.
-/

namespace SyntaxForge

/-- A reason to refuse a grammar. -/
inductive GrammarError where
  /-- `kind` refers to a type that is not declared. -/
  | unknownType (kind type : String)
  /-- `kind` derives from something that is no base. -/
  | unknownBase (kind base : String)
  | duplicateKind (kind : String)
  | missingRoot
  /-- The root is given conformances. -/
  | rootConformance (kind : String)
  /-- `kind` is declared convertible to `target`, which has no single slot for it. -/
  | noConversionSlot (kind target : String)
  /-- `kind` reaches `target` through two of its conformances. -/
  | ambiguousConformance (kind target : String)
  | conformanceCycle (kind : String)
  | baseCycle (kind : String)
  deriving DecidableEq, Repr

/-- The wording of an error. -/
def GrammarError.message : GrammarError → String
  | .unknownType kind type => s!"`{kind}` references unknown type `{type}`"
  | .unknownBase kind base => s!"`{kind}` derives from `{base}`, which is not a base kind"
  | .duplicateKind kind => s!"node kind `{kind}` is declared more than once"
  | .missingRoot => "the grammar has no `Syntax` root kind"
  | .rootConformance kind =>
    s!"the root kind can't gain conformances, but `{kind}` is listed for it"
  | .noConversionSlot kind target =>
    s!"`{kind}` can't be converted to `{target}`: no single slot accepts it"
  | .ambiguousConformance kind target =>
    s!"`{kind}` reaches `{target}` through more than one conformance"
  | .conformanceCycle kind => s!"the conformances of `{kind}` form a cycle"
  | .baseCycle kind => s!"the bases of `{kind}` form a cycle"

end SyntaxForge
