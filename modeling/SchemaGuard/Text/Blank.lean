import SchemaGuard.Text.Ranges

/-!
# White space

The blanks of Unicode 14, and trimming them from both ends of a text.
-/

namespace SchemaGuard.Text

/-- The code points that are white space. -/
def blanks : Ranges := [
  (0x9, 0xd), (0x1c, 0x20), (0x85, 0x85), (0xa0, 0xa0), (0x1680, 0x1680),
  (0x2000, 0x200a), (0x2028, 0x2029), (0x202f, 0x202f), (0x205f, 0x205f), (0x3000, 0x3000)]

def isBlank (c : Char) : Bool := blanks.has c.toNat

/-- Removes the white space at both ends of a text. -/
def trim (text : String) : String :=
  String.ofList ((text.toList.dropWhile isBlank).reverse.dropWhile isBlank).reverse

end SchemaGuard.Text
