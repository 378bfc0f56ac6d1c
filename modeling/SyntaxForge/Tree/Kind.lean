import SyntaxForge.Grammar.Catalog

/-!
# Kinds of tree elements

Every token and node of a tree has a kind: a token kind of the grammar, one of the six kinds of
trivia, the name of a node kind, or the tombstone that no element uses.

The kinds of a catalog are numbered (`Catalog.treeKinds`): the tombstone, then the tokens class by
class, then the concrete and collection kinds, each in declaration order.  Bases never appear in a
tree and have no number.
-/

namespace SyntaxForge

/-- The kinds of whitespace and comments. -/
inductive TriviaKind where
  | spaces
  | tabs
  | newlines
  | lineComment
  | docLineComment
  | unexpectedText
  deriving DecidableEq, Repr

namespace TriviaKind

/-- The name the kind is declared with. -/
def name : TriviaKind → String
  | .spaces => "Spaces"
  | .tabs => "Tabs"
  | .newlines => "Newlines"
  | .lineComment => "LineComment"
  | .docLineComment => "DocLineComment"
  | .unexpectedText => "UnexpectedText"

/-- Every kind of trivia. -/
def all : List TriviaKind :=
  [.spaces, .tabs, .newlines, .lineComment, .docLineComment, .unexpectedText]

/-- The kind of trivia of a declared name. -/
def ofName? (text : String) : Option TriviaKind :=
  all.find? (·.name = text)

end TriviaKind

/-- The kind of an element of a tree. -/
inductive Kind where
  | tombstone
  | token (kind : TokenKind)
  | trivia (kind : TriviaKind)
  | node (name : String)
  deriving DecidableEq, Repr

namespace Kind

/-- The kind of the tokens of a token kind. -/
def ofTokenKind (kind : TokenKind) : Kind :=
  match kind.tokenClass with
  | .trivia => ((TriviaKind.ofName? kind.name).map Kind.trivia).getD (.token kind)
  | _ => .token kind

/-- The name of a kind: `STRUCT_KW`, `SPACES`, `ENUM_DECL`. -/
def name : Kind → String
  | .tombstone => "TOMBSTONE"
  | .token kind => kind.kindName
  | .trivia kind => Text.upperSnake kind.name
  | .node name => Text.upperSnake name

/-- Whether tokens of the kind belong to the class. -/
def hasClass (tokenClass : TokenClass) : Kind → Bool
  | .tombstone | .node _ => false
  | .token kind => kind.tokenClass = tokenClass
  | .trivia _ => tokenClass = .trivia

/-- Whether the kind is one of tokens. -/
def isToken : Kind → Bool
  | .token _ | .trivia _ => true
  | .tombstone | .node _ => false

/-- The fixed text of a keyword or punctuation mark. -/
def text? : Kind → Option String
  | .token kind => kind.text
  | .tombstone | .trivia _ | .node _ => none

/-- The spaces a token of the kind carries by default. -/
def spacing : Kind → Spacing
  | .token kind => kind.spacing
  | .tombstone | .trivia _ | .node _ => .none

/-- The node kind of a catalog that a kind of nodes stands for. -/
def nodeKind? (catalog : Catalog) : Kind → Option NodeKind
  | .node name => catalog.kind? name
  | .tombstone | .token _ | .trivia _ => none

end Kind

/-- A number that stands for no kind. -/
structure KindError where
  raw : Nat
  deriving DecidableEq, Repr

/-- The wording of the error. -/
def KindError.message (error : KindError) : String :=
  s!"invalid raw syntax kind {error.raw}"

namespace Catalog

/-- The kinds that occur in trees, in the order of their numbers. -/
def treeKinds (catalog : Catalog) : List Kind :=
  let tokensOf (tokenClass : TokenClass) : List Kind :=
    (catalog.tokens.filter (·.tokenClass = tokenClass)).map Kind.ofTokenKind
  let nodes := (catalog.kinds.filter (!·.isBase)).map fun kind => Kind.node kind.name
  [.tombstone] ++ tokensOf .keyword ++ tokensOf .punctuation ++ tokensOf .literal
    ++ tokensOf .trivia ++ nodes

/-- The kind with a number. -/
def kindOfRaw (catalog : Catalog) (raw : Nat) : Except KindError Kind :=
  match catalog.treeKinds[raw]? with
  | some kind => .ok kind
  | none => .error { raw }

/-- The number of a kind. -/
def rawOfKind (catalog : Catalog) (kind : Kind) : Nat :=
  catalog.treeKinds.idxOf kind

/-- The kind with a name. -/
def kindOfName? (catalog : Catalog) (name : String) : Option Kind :=
  catalog.treeKinds.find? (·.name = name)

end Catalog

end SyntaxForge
