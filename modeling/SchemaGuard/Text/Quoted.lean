import SchemaGuard.Text.Printable

/-!
# Quoted literals

Texts and byte strings as literals of the emitted language. A text stands between single quotes, or
between double quotes when that saves escaping; a documentation text stands between triple quotes,
where line ends, tabs and single quotes of either kind need no escape. Characters that are not
printable are written by their code, in the narrowest of three widths.

A character's escape depends on the character and on the quote alone, so a literal is read back
character by character.
-/

namespace SchemaGuard.Text

/-- The lowest hexadecimal digits of a number, as many as asked for. -/
def hexDigits : Nat → Nat → List Char
  | 0, _ => []
  | count + 1, n => hexDigits count (n / 16) ++ [Nat.digitChar (n % 16)]

/-- A code point by its number. -/
def codeEscape (code : Nat) : List Char :=
  if code < 0x100 then '\\' :: 'x' :: hexDigits 2 code
  else if code < 0x10000 then '\\' :: 'u' :: hexDigits 4 code
  else '\\' :: 'U' :: hexDigits 8 code

/-- A backslash or unprintable character, escaped. -/
def escapeSpecial (c : Char) : List Char :=
  match c with
  | '\\' => ['\\', '\\']
  | '\n' => ['\\', 'n']
  | '\r' => ['\\', 'r']
  | '\t' => ['\\', 't']
  | c => codeEscape c.toNat

/-- A character of a literal between the given quotes. -/
def quoteChar (quote c : Char) : List Char :=
  if c == quote then ['\\', c]
  else if c == '\\' || !isPrintable c then escapeSpecial c
  else [c]

/-- Double quotes when a text has a single quote and no double one, else single quotes. -/
def chooseQuote (text : List Char) : Char :=
  if text.contains '\'' && !text.contains '"' then '"' else '\''

/-- The inside of a literal. -/
def quoteBody (text : List Char) : List Char := text.flatMap (quoteChar (chooseQuote text))

/-- A text as a literal. -/
def quoted (text : String) : String :=
  let quote := chooseQuote text.toList
  String.ofList (quote :: quoteBody text.toList ++ [quote])

/-! ## Triple quotes -/

/-- A character of a documentation text: only backslashes and unprintable characters other than
line ends and tabs are escaped. -/
def docChar (c : Char) : List Char :=
  if c == '\n' || c == '\t' then [c]
  else if c == '\\' || !isPrintable c then escapeSpecial c
  else [c]

/-- Whether three of the character stand in a row. -/
def hasTriple (quote : Char) : List Char → Bool
  | a :: b :: c :: rest => (a == quote && b == quote && c == quote) || hasTriple quote (b :: c :: rest)
  | _ => false

/-- A last character that is the quote is set off from the closing quotes by a backslash. -/
def guardLast (quote : Char) (body : List Char) : List Char :=
  if body.getLast? == some quote then body.dropLast ++ ['\\', quote] else body

/-- The quote of a documentation text and its inside. A quote that does not occur in threes is
taken, double before single unless the text ends in it; if both do, the text is quoted as usual and
its quotes are tripled. -/
def docParts (text : List Char) : Char × List Char :=
  let body := text.flatMap docChar
  let candidates := ['"', '\''].filter fun quote => !hasTriple quote body
  let unblocked := candidates.filter fun quote => body.getLast? != some quote
  match unblocked ++ candidates with
  | quote :: _ => (quote, guardLast quote body)
  | [] => (chooseQuote text, quoteBody text)

/-- A text as a documentation literal. -/
def tripleQuoted (text : String) : String :=
  let (quote, body) := docParts text.toList
  let quotes := List.replicate 3 quote
  String.ofList (quotes ++ body ++ quotes)

/-! ## Bytes -/

def quoteByte (quote : Char) (byte : UInt8) : List Char :=
  let c := Char.ofNat byte.toNat
  if c == quote then ['\\', c]
  else if c == '\\' || c == '\n' || c == '\r' || c == '\t' then escapeSpecial c
  else if 0x20 ≤ byte.toNat && byte.toNat < 0x7f then [c]
  else codeEscape byte.toNat

/-- A byte string as a literal. -/
def quotedBytes (bytes : List UInt8) : String :=
  let quote := chooseQuote (bytes.map fun byte => Char.ofNat byte.toNat)
  String.ofList ('b' :: quote :: bytes.flatMap (quoteByte quote) ++ [quote])

end SchemaGuard.Text
