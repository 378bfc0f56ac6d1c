import SyntaxForge.Text.Affix
import SyntaxForge.Text.CharClass

/-!
# Phrases of Rust

Generated Rust is written as phrases: pieces of fixed text, names that come from a grammar, and
string literals.  `Phrase.text` joins a phrase with as few spaces as possible: there is one exactly
where two words would run together.

Names are not checked when a phrase is put together; `Phrase.check` looks at all of them afterwards.
-/

namespace SyntaxForge.Api

/-- A piece of a phrase. -/
inductive Part where
  /-- Fixed text, spaced as it should be. -/
  | text (text : String)
  /-- A name that comes from a grammar. -/
  | name (name : String)
  /-- A string literal with this value. -/
  | quoted (value : String)
  deriving DecidableEq, Repr

/-- Pieces of source text, in order. -/
abbrev Phrase := List Part

/-! ## String literals -/

/-- The lower-case hexadecimal digit of a number below 16. -/
def hexDigit (n : Nat) : Char :=
  if n < 10 then Char.ofNat ('0'.toNat + n) else Char.ofNat ('a'.toNat + (n - 10))

/-- A character as it is written in a string literal. -/
def escaped (c : Char) : List Char :=
  if c = '"' then ['\\', '"']
  else if c = '\\' then ['\\', '\\']
  else if c = '\n' then ['\\', 'n']
  else if c = '\t' then ['\\', 't']
  else if c = '\r' then ['\\', 'r']
  else if c = '\x08' then ['\\', 'b']
  else if c = '\x0c' then ['\\', 'f']
  else if c.toNat < 32 then
    ['\\', 'u', '0', '0', hexDigit (c.toNat / 16), hexDigit (c.toNat % 16)]
  else [c]

/-- A string literal. -/
def quote (value : String) : List Char :=
  '"' :: value.toList.flatMap escaped ++ ['"']

/-! ## Text -/

/-- The text of a piece. -/
def Part.chars : Part → List Char
  | .text fixed => fixed.toList
  | .name word => word.toList
  | .quoted value => quote value

/-- Whether a character is part of a word. -/
def isWordChar (c : Char) : Bool :=
  c = '_' || Text.isAlphanumeric c

/-- Whether two texts would run together into one word. -/
def runsTogether (left right : List Char) : Bool :=
  left.getLast?.any isWordChar && right.head?.any isWordChar

namespace Phrase

/-- The pieces, separated by spaces where the text in front, which ends in `last`, would run
together with a piece. -/
def joined (last : List Char) : List (List Char) → List Char
  | [] => []
  | piece :: rest =>
    let next := if piece.isEmpty then last else piece
    if runsTogether last piece then ' ' :: piece ++ joined next rest
    else piece ++ joined next rest

/-- The text of a phrase. -/
def text (phrase : Phrase) : String :=
  String.ofList (joined [] (phrase.map Part.chars))

/-- Phrases with a piece of text between them. -/
def separated (separator : String) : List Phrase → Phrase
  | [] => []
  | [phrase] => phrase
  | phrase :: rest => phrase ++ .text separator :: separated separator rest

/-- The names in a phrase. -/
def names (phrase : Phrase) : List String :=
  phrase.filterMap fun
    | .name word => some word
    | .text _ | .quoted _ => none

end Phrase

/-! ## Names -/

/-- Whether a text is a word: a letter or an underscore, then letters, digits and the like. -/
def isWord : List Char → Bool
  | [] => false
  | c :: rest => (c = '_' || Text.isWordStart c) && rest.all Text.isWordPart

/-- The mark in front of a word that makes a name of it, even if the word is reserved. -/
def rawMark : List Char := ['r', '#']

/-- Words that are no names even with a mark in front. -/
def unmarkableWords : List String := ["_", "super", "self", "Self", "crate"]

/-- Whether a name has the form of an identifier: it is a word, or a word with a mark in front. -/
def isIdentifier (name : String) : Bool :=
  match Text.stripStart? rawMark name.toList with
  | some word => isWord word && String.ofList word ∉ unmarkableWords
  | none => isWord name.toList

/-- Words that are no names without a mark in front. -/
def reservedWords : List String :=
  ["_", "abstract", "as", "async", "await", "become", "box", "break", "const", "continue", "crate",
   "do", "dyn", "else", "enum", "extern", "false", "final", "fn", "for", "if", "impl", "in", "let",
   "loop", "macro", "match", "mod", "move", "mut", "override", "priv", "pub", "ref", "return",
   "Self", "self", "static", "struct", "super", "trait", "true", "try", "type", "typeof", "unsafe",
   "unsized", "use", "virtual", "where", "while", "yield"]

/-- A reason why a file cannot be written. -/
inductive ApiError where
  /-- A name does not have the form of an identifier. -/
  | malformedName (name : String)
  /-- A name is a reserved word. -/
  | reservedName (name : String)
  deriving DecidableEq, Repr

/-- All names are identifiers.  Their form is looked at first, for all of them. -/
def checkNames (names : List String) : Except ApiError Unit :=
  match names.find? fun name => !isIdentifier name with
  | some name => .error (.malformedName name)
  | none =>
    match names.find? fun name => name ∈ reservedWords with
    | some name => .error (.reservedName name)
    | none => .ok ()

/-! ## Files -/

/-- An item of a file. -/
structure Item where
  /-- What the item declares, or the type that it implements something for. -/
  name : String
  phrase : Phrase
  deriving DecidableEq, Repr

/-- A generated file. -/
structure ApiFile where
  /-- The comment on the first line. -/
  preamble : String
  items : List Item
  deriving DecidableEq, Repr

/-- The comment that says where a file comes from. -/
def preambleOf (generator : String) : String :=
  s!"// Generated by `{generator}`, do not edit by hand."

/-- A file with some items, if all names in it are identifiers. -/
def ApiFile.make (generator : String) (items : List Item) : Except ApiError ApiFile := do
  checkNames (items.flatMap fun item => item.phrase.names)
  return { preamble := preambleOf generator, items }

end SyntaxForge.Api
