import SyntaxForge.Api.Phrase
import SyntaxForge.Grammar.Basic

/-!
# The enumeration of kinds

One generated file declares an enumeration with a variant for every token and every node kind that
is no base, and functions that classify them.
-/

namespace SyntaxForge.Api

/-- The variants of the tokens of a class. -/
def tokenVariants (catalog : Catalog) (tokenClass : TokenClass) : List String :=
  (catalog.tokens.filter (·.tokenClass = tokenClass)).map TokenKind.kindName

/-- All variants of tokens and nodes, in order. -/
def kindVariants (catalog : Catalog) : List String :=
  [TokenClass.keyword, .punctuation, .literal, .trivia].flatMap (tokenVariants catalog)
    ++ (catalog.kinds.filter fun kind => !kind.isBase).map NodeKind.kindName

/-- A choice between variants. -/
def choice (variants : List String) : Phrase :=
  Phrase.separated "|" (variants.map fun variant => [.name variant])

/-- The condition of being one of some variants. -/
def anyOf (variants : List String) : Phrase :=
  if variants.isEmpty then [.text "false"]
  else .text "matches!(self," :: choice variants ++ [.text ")"]

/-- A function that tells whether a kind is one of some variants. -/
def classifier (name : String) (variants : List String) : Phrase :=
  .text s!"pub fn {name}(self)->bool\x7b" :: anyOf variants ++ [.text "\x7d"]

/-- The declaration of the enumeration. -/
def kindEnum (catalog : Catalog) : Item where
  name := "SyntaxKind"
  phrase :=
    [.text "#[doc=",
     .quoted " The kind of a token or node, e.g. `STRUCT_KW`, `IDENTIFIER` or `ENUM_DECL`.",
     .text "]#[derive(Clone,Copy,PartialEq,Eq,PartialOrd,Ord,Hash,Debug)]#[repr(u16)]",
     .text "pub enum SyntaxKind\x7b#[doc(hidden)]TOMBSTONE,"]
      ++ (kindVariants catalog).flatMap (fun variant => [.name variant, .text ","])
      ++ [.text "#[doc(hidden)]__LAST\x7d"]

/-- The import of the variants. -/
def kindImport : Item where
  name := "use"
  phrase := [.text "use self::SyntaxKind::*;"]

/-- The function that gives the fixed text of a token. -/
def textFunction (catalog : Catalog) : Phrase :=
  [.text "#[doc=", .quoted " The fixed text of a keyword or punctuation token.",
   .text "]pub fn text(self)->Option<&'static str>\x7blet text=match self\x7b"]
    ++ catalog.tokens.flatMap (fun token =>
      match token.text with
      | some text => [.name token.kindName, .text "=>", .quoted text, .text ","]
      | none => [])
    ++ [.text "_=>return None\x7d;Some(text)\x7d"]

/-- The arm that gives some tokens their spacing. -/
def spacingArm (catalog : Catalog) (spacing : Spacing) (name : String) : Phrase :=
  let tokens := catalog.tokens.filter (·.spacing = spacing)
  if tokens.isEmpty then []
  else choice (tokens.map TokenKind.kindName) ++ [.text s!"=>crate::Spacing::{name},"]

/-- The function that gives the spacing of a token. -/
def spacingFunction (catalog : Catalog) : Phrase :=
  [.text "#[doc=", .quoted " The whitespace a token of this kind carries by default.",
   .text "]pub fn spacing(self)->crate::Spacing\x7bmatch self\x7b"]
    ++ spacingArm catalog .leading "Leading" ++ spacingArm catalog .trailing "Trailing"
    ++ spacingArm catalog .both "Both" ++ [.text "_=>crate::Spacing::None\x7d\x7d"]

/-- The functions of the enumeration. -/
def kindFunctions (catalog : Catalog) : Item where
  name := "SyntaxKind"
  phrase :=
    .text "impl SyntaxKind\x7b"
      :: classifier "is_keyword" (tokenVariants catalog .keyword)
      ++ classifier "is_punct" (tokenVariants catalog .punctuation)
      ++ classifier "is_literal" (tokenVariants catalog .literal)
      ++ classifier "is_trivia" (tokenVariants catalog .trivia)
      ++ [.text "pub fn is_token(self)->bool\x7bself.is_keyword()||self.is_punct()||",
          .text "self.is_literal()||self.is_trivia()\x7d"]
      ++ classifier "is_collection" (catalog.collectionKinds.map NodeKind.kindName)
      ++ classifier "elements_separated_by_newline"
        ((catalog.collectionKinds.filter NodeKind.onNewLines).map NodeKind.kindName)
      ++ textFunction catalog ++ spacingFunction catalog
      ++ [.text "pub fn from_raw(raw:u16)->SyntaxKind\x7bassert!(raw<__LAST as u16,",
          .quoted "invalid raw syntax kind \x7braw\x7d",
          .text ");unsafe\x7bstd::mem::transmute::<u16,SyntaxKind>(raw)\x7d\x7d\x7d"]

/-- The file that declares the kinds of a grammar. -/
def kindFile (grammar : Grammar) : Except ApiError ApiFile :=
  let catalog := grammar.toCatalog
  ApiFile.make "swiftb-build::sourcegen_kinds" [kindEnum catalog, kindImport, kindFunctions catalog]

end SyntaxForge.Api
