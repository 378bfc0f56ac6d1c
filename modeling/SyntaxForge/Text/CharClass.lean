import SyntaxForge.Text.Letters
import SyntaxForge.Text.Marks
import SyntaxForge.Text.Numbers

/-!
# Character classes

The Unicode properties that names and layout depend on, assembled from the tables of general
categories:

* `isAlphabetic`, `isNumeric`, `isAlphanumeric` decide what an identifier may consist of;
* `isWordStart`, `isWordPart` are the properties `XID_Start` and `XID_Continue`;
* `isBlank` is the property `White_Space`.
-/

namespace SyntaxForge.Text

/-- The property `Alphabetic`: letters, letter-like numbers and other alphabetic code points. -/
def isAlphabetic (c : Char) : Bool :=
  letters.contains c.toNat || letterNumbers.contains c.toNat || otherAlphabetic.contains c.toNat

/-- A number of any kind: category `Nd`, `Nl` or `No`. -/
def isNumeric (c : Char) : Bool :=
  digits.contains c.toNat || letterNumbers.contains c.toNat || otherNumbers.contains c.toNat

/-- Alphabetic or numeric. -/
def isAlphanumeric (c : Char) : Bool :=
  isAlphabetic c || isNumeric c

/-- Code points that start a word although they are no letters. -/
def otherWordStarts : Ranges :=
  [(0x1885, 0x1886), (0x2118, 0x2118), (0x212E, 0x212E)]

/-- Letters that do not start a word, because their compatibility forms would not. -/
def unstableLetters : Ranges :=
  [(0x37A, 0x37A), (0xE33, 0xE33), (0xEB3, 0xEB3), (0x2E2F, 0x2E2F), (0xFC5E, 0xFC63),
   (0xFDFA, 0xFDFB), (0xFE70, 0xFE70), (0xFE72, 0xFE72), (0xFE74, 0xFE74), (0xFE76, 0xFE76),
   (0xFE78, 0xFE78), (0xFE7A, 0xFE7A), (0xFE7C, 0xFE7C), (0xFE7E, 0xFE7E), (0xFF9E, 0xFF9F)]

/-- Connecting punctuation, such as the underscore (category `Pc`). -/
def connectors : Ranges :=
  [(0x5F, 0x5F), (0x203F, 0x2040), (0x2054, 0x2054), (0xFE33, 0xFE34), (0xFE4D, 0xFE4F),
   (0xFF3F, 0xFF3F)]

/-- Code points that continue a word without being a start, a mark, a digit or a connector. -/
def otherWordParts : Ranges :=
  [(0xB7, 0xB7), (0x387, 0x387), (0xE33, 0xE33), (0xEB3, 0xEB3), (0x1369, 0x1371),
   (0x19DA, 0x19DA), (0x200C, 0x200D), (0x30FB, 0x30FB), (0xFF65, 0xFF65), (0xFF9E, 0xFF9F)]

/-- Code points that start a word and that the tables of categories do not list: the properties of
words follow a later version of the standard than the categories do. -/
def laterWordStarts : Ranges :=
  [(0x558, 0x558), (0x58B, 0x58C), (0x208F, 0x208F), (0x209D, 0x209F), (0xA7DD, 0xA7DD),
   (0xA7E2, 0xA7E2), (0xAB6C, 0xAB6D), (0x107BB, 0x107BF), (0x10ED9, 0x10EEE), (0x11B0A, 0x11B0A),
   (0x11DF1, 0x11DF1), (0x1246F, 0x1246F), (0x12475, 0x1247F), (0x12550, 0x12686),
   (0x18CD6, 0x18CDA), (0x18D1F, 0x18D20), (0x18E00, 0x19191), (0x191A0, 0x191D2),
   (0x1B123, 0x1B128), (0x1B168, 0x1B168), (0x1D6A6, 0x1D6A6), (0x1DF1F, 0x1DF24),
   (0x1DF2B, 0x1DF81), (0x1DF90, 0x1DF96), (0x1DFCD, 0x1DFFF), (0x2B81E, 0x2B81E),
   (0x3D000, 0x3FC3F)]

/-- Code points that continue a word, start none, and are not in the tables of categories. -/
def laterWordParts : Ranges :=
  [(0x5C8, 0x5C9), (0xB53, 0xB54), (0x1ADE, 0x1ADF), (0x1AEC, 0x1AF0), (0x10ECB, 0x10ECF),
   (0x10EF0, 0x10EF9), (0x11DF0, 0x11DF0), (0x1D127, 0x1D128), (0x1D250, 0x1D252),
   (0x1D25B, 0x1D25C), (0x1D25F, 0x1D25F), (0x1D280, 0x1D281)]

/-- The property `XID_Start`: may start a word. -/
def isWordStart (c : Char) : Bool :=
  ((letters.contains c.toNat || letterNumbers.contains c.toNat)
      && !unstableLetters.contains c.toNat)
    || otherWordStarts.contains c.toNat || laterWordStarts.contains c.toNat

/-- The property `XID_Continue`: may stand inside a word. -/
def isWordPart (c : Char) : Bool :=
  isWordStart c || digits.contains c.toNat || connectors.contains c.toNat
    || marks.contains c.toNat || otherWordParts.contains c.toNat || laterWordParts.contains c.toNat

/-- The code points of the property `White_Space`. -/
def blanks : Ranges :=
  [(0x9, 0xD), (0x20, 0x20), (0x85, 0x85), (0xA0, 0xA0), (0x1680, 0x1680), (0x2000, 0x200A),
   (0x2028, 0x2029), (0x202F, 0x202F), (0x205F, 0x205F), (0x3000, 0x3000)]

/-- The property `White_Space`. -/
def isBlank (c : Char) : Bool :=
  blanks.contains c.toNat

end SyntaxForge.Text
