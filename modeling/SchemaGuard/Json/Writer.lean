import SchemaGuard.Json

/-!
# JSON text

Documents as text on one line: a blank after every comma and colon, integers in full, floating-point
numbers by their shortest decimal. Characters outside ASCII are either escaped, in pairs of units
above U+FFFF, or kept as they are.
-/

namespace SchemaGuard.Json

/-- Numbers without digits, as JSON readers that allow them spell them. -/
def numberSpelling : Number.Spelling := ⟨"Infinity", "NaN"⟩

/-- Which characters stand for themselves. -/
inductive Charset where
  | ascii
  | unicode

def hexDigit (n : Nat) : Char := (Nat.digitChar (n % 16))

/-- A number below `2 ^ 16` as four hexadecimal digits. -/
def fourHex (n : Nat) : List Char :=
  [hexDigit (n / 4096), hexDigit (n / 256), hexDigit (n / 16), hexDigit n]

def escapeUnit (unit : Nat) : List Char := '\\' :: 'u' :: fourHex unit

/-- A character inside a string. -/
def writeChar (charset : Charset) (c : Char) : List Char :=
  match c with
  | '"' => ['\\', '"']
  | '\\' => ['\\', '\\']
  | '\n' => ['\\', 'n']
  | '\r' => ['\\', 'r']
  | '\t' => ['\\', 't']
  | '\x08' => ['\\', 'b']
  | '\x0c' => ['\\', 'f']
  | c =>
    if c.toNat < 0x20 then
      escapeUnit c.toNat
    else
      match charset with
      | .unicode => [c]
      | .ascii =>
        if c.toNat < 0x7f then [c]
        else if c.toNat < 0x10000 then escapeUnit c.toNat
        else
          let offset := c.toNat - 0x10000
          escapeUnit (0xd800 + offset / 1024) ++ escapeUnit (0xdc00 + offset % 1024)

def writeString (charset : Charset) (text : String) : String :=
  String.ofList ('"' :: text.toList.flatMap (writeChar charset) ++ ['"'])

mutual

def write (charset : Charset) : Json → String
  | null => "null"
  | bool value => if value then "true" else "false"
  | number value => value.text numberSpelling
  | string value => writeString charset value
  | array items => "[" ++ ", ".intercalate (writeItems charset items) ++ "]"
  | object members => "\x7b" ++ ", ".intercalate (writeMembers charset members) ++ "\x7d"

def writeItems (charset : Charset) : List Json → List String
  | [] => []
  | item :: items => write charset item :: writeItems charset items

def writeMembers (charset : Charset) : List (String × Json) → List String
  | [] => []
  | (key, member) :: members =>
    (writeString charset key ++ ": " ++ write charset member) :: writeMembers charset members

end

/-- The text of a document in ASCII. -/
def text (document : Json) : String := document.write .ascii

end SchemaGuard.Json
