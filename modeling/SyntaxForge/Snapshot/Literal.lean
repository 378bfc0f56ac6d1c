import SyntaxForge.Snapshot.Error
import SyntaxForge.Text.Affix
import SyntaxForge.Text.Bytes
import SyntaxForge.Text.Lines

/-!
# Snapshot literals

A snapshot is a string literal in a test file.  `literal?` takes the literal that a text starts with
off character by character; `literalLength` measures the same literal by offsets, cutting the text
behind its opening quote.  `formatLiteral` writes a text as a literal, raw if it has quotes,
backslashes or line breaks, with enough hash signs that nothing in the text ends it.
-/

namespace SyntaxForge.Snapshot

/-- What ends a literal with some hash signs. -/
def closing (hashes : Nat) : List Char := '"' :: List.replicate hashes '#'

/-- What starts a literal with some hash signs; with at least one it is raw. -/
def opening (hashes : Nat) : List Char :=
  if hashes = 0 then ['"'] else 'r' :: List.replicate hashes '#' ++ ['"']

/-! ## Finding the end of a literal -/

/-- A raw literal from its opening quote on, up to the end of its closing one, and what follows. -/
def rawBody? (hashes : Nat) : List Char → Option (List Char × List Char)
  | [] => none
  | c :: rest =>
    if (closing hashes).isPrefixOf (c :: rest) then
      some (closing hashes, (c :: rest).drop (hashes + 1))
    else (rawBody? hashes rest).map fun (body, after) => (c :: body, after)

/-- A plain literal from its opening quote on, up to its closing one, and what follows.  A character
behind a backslash never ends it. -/
def plainBody? (isEscaped : Bool) : List Char → Option (List Char × List Char)
  | [] => none
  | c :: rest =>
    if !isEscaped && c = '"' then some (['"'], rest)
    else
      (plainBody? (!isEscaped && c = '\\') rest).map fun (body, after) => (c :: body, after)

/-- The literal that a text starts with, and what follows it. -/
def literal? : List Char → Option (List Char × List Char)
  | '"' :: body => (plainBody? false body).map fun (inner, after) => ('"' :: inner, after)
  | 'r' :: raw =>
    let hashes := raw.takeWhile (· = '#')
    match raw.dropWhile (· = '#') with
    | '"' :: body =>
      (rawBody? hashes.length body).map fun (inner, after) =>
        ('r' :: hashes ++ '"' :: inner, after)
    | _ => none
  | _ => none

/-! ## Measuring a literal by offsets -/

/-- The offset of the first quote that is not escaped. -/
def quoteOffset? (isEscaped : Bool) : List Char → Option Nat
  | [] => none
  | c :: rest =>
    if !isEscaped && c = '"' then some 0
    else (quoteOffset? (!isEscaped && c = '\\') rest).map (c.utf8Size + ·)

/-- The length of a literal with its opening quote at an offset, whose end is looked for behind the
quote. -/
def lengthFrom (quote : Nat) (ending : List Char → Option Nat) (text : List Char) :
    Except SnapshotError (Option Nat) :=
  if (Text.bytes text)[quote]? = some 0x22 then
    match Text.splitBytes? (quote + 1) text with
    | none => .error .offBoundary
    | some (_, body) => .ok ((ending body).map (quote + 1 + ·))
  else .ok none

/-- The number of bytes of the literal that a text starts with, if there is one. -/
def literalLength (text : List Char) : Except SnapshotError (Option Nat) :=
  match Text.stripStart? ['r'] text with
  | some raw =>
    let hashes := (raw.takeWhile (· = '#')).length
    lengthFrom (hashes + 1)
      (fun body => (Text.offsetOf? (closing hashes) body).map (· + (hashes + 1))) text
  | none => lengthFrom 0 (fun body => (quoteOffset? false body).map (· + 1)) text

/-! ## Writing a literal -/

/-- The longest run of hash signs behind a quote. -/
def hashRun : List Char → Nat
  | [] => 0
  | c :: rest =>
    if c = '"' then max (rest.takeWhile (· = '#')).length (hashRun rest) else hashRun rest

/-- The number of hash signs that the literal of a text needs. -/
def hashesFor (text : List Char) : Nat :=
  if '"' ∈ text then hashRun text + 1
  else if '\\' ∈ text ∨ '\n' ∈ text then 1
  else 0

/-- A line of a literal, two spaces deeper than the code around it. -/
def indentLine (indent : Nat) (line : List Char) : List Char :=
  if Text.isBlankLine line then line else List.replicate (indent + 2) ' ' ++ line

/-- The text between the quotes of a literal.  Several lines start on a line of their own, and so
does the closing quote behind a line break. -/
def literalBody (indent : Nat) (text : List Char) : List Char :=
  if '\n' ∈ text then
    '\n' :: (Text.lines text).flatMap (indentLine indent)
      ++ if text.getLast? = some '\n' then List.replicate indent ' ' else []
  else text

/-- A text as a literal in a line with some indentation, behind the mark for literals. -/
def formatLiteral (indent : Nat) (text : List Char) : List Char :=
  let hashes := hashesFor text
  '@' :: opening hashes ++ literalBody indent text ++ closing hashes

end SyntaxForge.Snapshot
