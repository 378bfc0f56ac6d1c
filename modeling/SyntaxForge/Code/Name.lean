import SyntaxForge.Builder.Shorthand

/-!
# Names in code

Code is written down with its names as plain texts, and laid out whatever they are.  Whether all of
them may stand where they do is checked beforehand, on the list of the names that are used.
-/

namespace SyntaxForge.Code

/-- A name and the kind of place where it stands. -/
inductive NameUse where
  /-- A name that is declared, or follows a dot, or stands in a type. -/
  | declared (text : String)
  /-- A name that is an expression of its own. -/
  | operand (text : String)
  deriving DecidableEq, Repr

namespace NameUse

/-- The token of the name, if the text may stand there. -/
def token : NameUse → Except TokenError Token
  | .declared text => Token.identifier text
  | .operand text => Shorthand.exprName text

/-- Succeeds if every name may stand where it does; otherwise the first that may not is the
error. -/
def checkAll (uses : List NameUse) : Except TokenError Unit :=
  uses.forM fun name => do
    let _ ← name.token

end NameUse

/-- The token of a name that is an expression of its own, which is not checked. -/
def operandToken (text : String) : Token :=
  if text.toList.head? = some '$' then Token.dollarName text else Token.name text

end SyntaxForge.Code
