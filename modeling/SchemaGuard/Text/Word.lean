import SchemaGuard.Text.Digit
import SchemaGuard.Text.Identifier

/-!
# Word characters

Letters, digits and other numeric characters of Unicode 14, and the underscore: what a text pattern
counts as part of a word.
-/

namespace SchemaGuard.Text

/-- The numeric characters from U+0080 on that are neither letters nor decimal digits. -/
def otherNumerics : Ranges := .ofRuns 0x80 [
  50, 2, 5, 1, 2, 3, 699, 1, 1657, 6, 376, 6, 120, 3, 133, 7, 217, 7, 17, 9, 186, 1, 127, 1, 118,
  10, 1077, 20, 1139, 10, 480, 1, 1685, 1, 3, 6, 6, 10, 198, 16, 41, 1, 726, 60, 78, 22, 630, 30,
  1385, 1, 305, 1, 866, 4, 138, 10, 30, 8, 1, 15, 32, 10, 39, 15, 30064, 6, 21544, 6, 406, 2, 116,
  1, 1, 1, 1, 1, 1, 1, 1, 1, 1, 1, 1, 1, 1, 1, 287, 2, 359, 45, 65, 4, 17, 2, 341, 27, 36, 4, 1332,
  8, 25, 7, 39, 9, 75, 5, 22, 6, 160, 2, 2, 16, 2, 46, 64, 9, 52, 2, 30, 3, 75, 5, 104, 8, 24, 8,
  41, 7, 330, 6, 352, 31, 158, 10, 42, 4, 112, 7, 134, 20, 379, 20, 1349, 2, 430, 9, 871, 19, 851,
  21, 19334, 7, 798, 23, 25673, 20, 108, 25, 5454, 9, 929, 59, 1, 3, 1, 4, 76, 45, 1, 15, 962, 13]

/-- The characters that may begin an identifier but are not letters. -/
def startsBesideLetters : List Nat := [0x1885, 0x1886, 0x2118, 0x212e]

/-- Letters, which but for a few are what may begin an identifier, and numeric characters. -/
def isAlphanumeric (c : Char) : Bool :=
  (isIdentifierStart c && !startsBesideLetters.contains c.toNat) || (decimalValue? c).isSome ||
    otherNumerics.has c.toNat

/-- Whether a character is part of a word. -/
def isWordPart (c : Char) : Bool :=
  if c.toNat < 0x80 then isAsciiAlphanumeric c || c == '_' else isAlphanumeric c

end SchemaGuard.Text
