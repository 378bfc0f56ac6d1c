import SyntaxForge.Code.Decl
import SyntaxForge.Generate.SwiftType

/-!
# Recurring pieces of generated code

Expressions, parameters and functions that several generated declarations share.
-/

namespace SyntaxForge.Generate

open Code

/-- The type of the root. -/
def rootType : SwiftType where
  name := rootName
  flavor := .root

/-! ## Expressions -/

/-- `self` -/
def selfExpr : Expr := .name "self"

/-- `callee()` -/
def callEmpty (callee : Expr) : Expr := .call callee .nil

/-- `callee(value)` -/
def callWith (callee value : Expr) : Expr := .call callee (.ofList [(none, value)])

/-- `name(format: format, leadingTrivia: leadingTrivia)` -/
def callWithFormat (name : String) : Expr :=
  .call (.name name) (.ofList
    [(some "format", .name "format"), (some "leadingTrivia", .name "leadingTrivia")])

/-- `base.method` followed by a closure. -/
def mapped (base method : String) (body : Expr) : Expr :=
  .closureCall (.member (.name base) method) body

/-- The value of an optional list, or the empty list, between parentheses. -/
def orEmpty (value : Expr) : Expr := .paren (.binary value "??" .emptyArray)

/-- The trivia that starts a new line. -/
def newLineTrivia : Expr :=
  .binary (.member (.name "Trivia") "newline") "+"
    (callEmpty (.member (.name "format") "_makeIndent"))

/-! ## Functions -/

/-- The parameters of every function that builds something; the trivia may be left out if it
`isDefaulted`. -/
def formatParameters (isDefaulted : Bool) : List Parameter :=
  [{ label := .name "format", type := .named "Format" },
   { label := .name "leadingTrivia"
     type := .optional (.named "Trivia")
     fallback := if isDefaulted then some .nil else none }]

/-- A function without parameters that returns a value. -/
def returningFunction (name returns : String) (value : Expr) : Function where
  name := name
  returns := .named returns
  body := some [.ret value]

/-- A function that turns a struct into `target` by returning it as it is. -/
def fixedCreate (buildable target create : String) : Function :=
  { returningFunction create target selfExpr with
    docs :=
      [s!"/// `{buildable}` might conform to `{target}` via different `ExpressibleAs*` paths.",
       s!"/// Thus, there are multiple default implementations for `{create}`, some of which "
         ++ "perform conversions through `ExpressibleAs*` protocols.",
       "/// To resolve the ambiguity, provide a fixed implementation that doesn't perform any "
         ++ "conversions."]
    isPublic := true }

/-- The function that turns a struct into a value of the root. -/
def fixedRootCreate (buildable : String) : Function :=
  fixedCreate buildable rootType.buildable rootType.createMethod

/-- The comment on a function that satisfies a requirement of a protocol. -/
def conformanceDoc (protocol : String) : String := s!"/// Conformance to `{protocol}`."

/-! ## Drafts -/

/-- A declaration, with the names that it spells in the order in which they are checked. -/
structure Draft where
  decl : Decl
  names : List NameUse := decl.names

end SyntaxForge.Generate
