import SchemaGuard.Text.Identifier

/-!
# Printable characters

A character is printable when it may stand for itself in a quoted literal: everything but controls,
format characters, surrogates, private use, unassigned code points and separators other than the
plain space (Unicode 14).
-/

namespace SchemaGuard.Text

/-- The code points above U+007E that are not printable, up to those that may be part of an identifier:
these always are. -/
def unprintable : Ranges := .ofRuns 0x7f [
  0, 34, 12, 1, 714, 2, 6, 4, 7, 107, 314, 42, 49, 2, 3, 46, 10, 43, 2, 17, 22, 1, 192, 1, 48, 232,
  5, 3, 48, 2, 15, 31, 1, 41, 7, 213, 32, 110, 13, 119, 1, 121, 2, 126, 8, 120, 11, 124, 22, 194, 1,
  8, 12, 12, 16, 116, 1, 74, 29, 165, 71, 61, 19, 38, 15, 1, 13, 111, 124, 53, 334, 279, 29, 19, 10,
  102, 640, 27, 2, 78, 14, 60, 2, 157, 10, 18, 10, 6, 14, 306, 1, 3, 42, 112, 62, 2, 65, 65, 14, 16,
  17, 139, 37, 125, 60, 3, 15, 52, 11, 55, 8, 11, 40, 706, 8, 8, 7, 9, 19, 13, 2, 17, 24, 8, 47, 17,
  2, 2, 27, 17, 33, 28, 20, 15, 140, 4, 663, 25, 11, 21, 1812, 2, 32, 1, 349, 5, 45, 74, 1, 143, 94,
  34, 26, 1, 89, 12, 214, 26, 12, 5, 63, 91, 101, 144, 84, 28, 31, 1, 29293, 3, 55, 55, 302, 68,
  136, 8, 203, 93, 5, 3, 10, 58, 4, 86, 12, 30, 92, 11, 30, 68, 13, 16, 33, 93, 103, 27, 25, 100,
  17, 127, 3, 20283, 14, 123, 17, 155, 306, 63, 1, 42, 32, 22, 35, 1, 19, 1, 4, 4, 5, 1, 135, 4,
  190, 33, 7, 1, 7, 13, 2, 258, 3, 4, 45, 3, 88, 1, 13, 3, 1, 47, 46, 227, 27, 36, 4, 123, 37, 12,
  6, 409, 12, 732, 72, 8, 9, 75, 33, 3, 27, 5, 1, 124, 20, 2, 50, 60, 9, 7, 9, 36, 35, 40, 31, 4,
  12, 66, 29, 2, 27, 5, 26, 7, 4, 12, 7, 330, 46, 312, 31, 46, 1, 111, 11, 41, 9, 44, 4, 59, 7, 123,
  7, 4, 36, 69, 2, 1, 5, 125, 8, 44, 3, 78, 27, 1, 20, 67, 7, 106, 1, 417, 17, 1, 5, 100, 2, 249,
  29, 99, 4, 27, 13, 76, 1, 128, 13, 244, 1, 174, 9, 81, 3, 155, 3, 90, 9, 82, 9, 414, 5, 20, 19, 3,
  32, 615, 2, 199, 50, 13, 923, 214, 5, 2940, 2, 14971, 81, 54, 1, 65, 15, 21, 7, 798, 27, 327, 3,
  19639, 4, 4784, 116, 60, 246, 10, 39, 2, 74, 16, 104, 21, 70, 154, 20, 12, 87, 9, 25, 840, 267,
  52, 652, 1731, 1, 431, 1, 1479, 16, 135, 2, 785, 68, 76, 61, 434, 2, 270, 44, 4, 100, 12, 15, 2,
  15, 1, 15, 1, 37, 10, 174, 56, 29, 13, 44, 4, 9, 7, 2, 14, 6, 154, 984, 5, 16, 3, 13, 3, 116, 12,
  89, 7, 12, 4, 1, 15, 12, 4, 56, 8, 10, 6, 40, 8, 30, 2, 2, 78, 340, 12, 14, 2, 5, 3, 5, 3, 7, 9,
  29, 3, 11, 5, 6, 10, 10, 6, 8, 8, 7, 9, 147, 1, 55, 984117]

/-- Whether a character may stand for itself in a quoted literal. -/
def isPrintable (c : Char) : Bool :=
  if c.toNat < 0x7f then 0x20 ≤ c.toNat else isIdentifierPart c || !unprintable.has c.toNat

end SchemaGuard.Text
