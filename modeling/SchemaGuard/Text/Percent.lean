import SchemaGuard.Text.Digit
import SchemaGuard.Text.Utf8

/-!
# Percent decoding

In a run of ASCII characters, a percent sign and two hexadecimal digits stand for a byte and every
other character for its own; the bytes of a run are decoded as UTF-8, with U+FFFD for what is not.
Characters outside ASCII stand for themselves.
-/

namespace SchemaGuard.Text.Percent

def isAscii (c : Char) : Bool := c.toNat < 0x80

/-- The bytes a run of ASCII characters stands for. -/
def bytes : List Char → List UInt8
  | '%' :: a :: b :: rest =>
    match hexValue? a, hexValue? b with
    | some high, some low => UInt8.ofNat (16 * high + low) :: bytes rest
    | _, _ => UInt8.ofNat '%'.toNat :: bytes (a :: b :: rest)
  | c :: rest => UInt8.ofNat c.toNat :: bytes rest
  | [] => []

def decodeRun (run : List Char) : List Char :=
  if run.all isAscii then (Utf8.decodeLossy (bytes run)).toList else run

/-- Decodes the percent signs of a text. -/
def decode (text : String) : String :=
  String.ofList ((text.toList.splitBy fun a b => isAscii a == isAscii b).flatMap decodeRun)

end SchemaGuard.Text.Percent
