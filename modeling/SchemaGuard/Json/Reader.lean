import SchemaGuard.Json
import SchemaGuard.Text.Digit

/-!
# Reading JSON

A reader for JSON text that says where and why it stops. Beyond the standard it takes `NaN`,
`Infinity` and `-Infinity` for numbers; a repeated key keeps its first place and its last value; a
number without point and exponent is an integer of up to `maxDigits` digits.

The reader walks a `Cursor`, the rest of the text with its offset. An array or object takes a step, and
so does each of its entries; both pass over a character, so twice the length of the text bounds the
recursion.
-/

namespace SchemaGuard.Json

/-- Why a text is not JSON. -/
inductive Malformed where
  | byteOrderMark
  | value
  | key
  | colon
  | comma
  | excess
  | openString
  | control
  | escape
  | unicodeEscape

def Malformed.message : Malformed → String
  | byteOrderMark => "Unexpected UTF-8 BOM (decode using utf-8-sig)"
  | value => "Expecting value"
  | key => "Expecting property name enclosed in double quotes"
  | colon => "Expecting ':' delimiter"
  | comma => "Expecting ',' delimiter"
  | excess => "Extra data"
  | openString => "Unterminated string starting at"
  | control => "Invalid control character at"
  | escape => "Invalid \\escape"
  | unicodeEscape => "Invalid \\uXXXX escape"

/-- Why a text could not be read: it is malformed at an offset, or holds too long an integer. -/
inductive ReadError where
  | malformed (cause : Malformed) (line column offset : Nat)
  | longInteger (digits : Nat)

/-- The longest integer that is read, in digits. -/
def maxDigits : Nat := 4300

/-- The refusal of an integer that is too long. -/
def longIntegerMessage (digits : Nat) : String :=
  s!"Exceeds the limit ({maxDigits} digits) for integer string conversion: value has {digits} " ++
    "digits; use sys.set_int_max_str_digits() to increase the limit"

def ReadError.message : ReadError → String
  | malformed cause line column offset =>
    s!"{cause.message}: line {line} column {column} (char {offset})"
  | longInteger digits => longIntegerMessage digits

namespace Reader

/-- What ends a scan early. -/
inductive Fault where
  | stop (cause : Malformed) (offset : Nat)
  | digits (count : Nat)

abbrev Scan := Except Fault

/-- The rest of the text and the number of characters before it. -/
structure Cursor where
  rest : List Char
  offset : Nat

def Cursor.advance (cursor : Cursor) (count : Nat) : Cursor :=
  ⟨cursor.rest.drop count, cursor.offset + count⟩

/-- The blanks that may stand between tokens. -/
def isSpace (c : Char) : Bool := c == ' ' || c == '\t' || c == '\n' || c == '\r'

def Cursor.skipSpace (cursor : Cursor) : Cursor :=
  cursor.advance (cursor.rest.takeWhile isSpace).length

/-- What a backslash and a character stand for. -/
def shortEscape? : Char → Option Char
  | '"' => some '"'
  | '\\' => some '\\'
  | '/' => some '/'
  | 'b' => some '\x08'
  | 'f' => some '\x0c'
  | 'n' => some '\n'
  | 'r' => some '\r'
  | 't' => some '\t'
  | _ => none

/-- The character of a unit escape and how many characters the escape takes after its `u`. A high
surrogate joins with a low one escaped right after it; a surrogate left alone is replaced. -/
def unicodeEscape (afterU : List Char) (offset : Nat) : Scan (Char × Nat) :=
  if afterU.length < 5 then
    .error (.stop .unicodeEscape offset)
  else
    match Text.hexNumber? (afterU.take 4) with
    | none => .error (.stop .unicodeEscape offset)
    | some unit =>
      let next := afterU.drop 4
      if 0xd800 ≤ unit && unit < 0xdc00 && next.length > 6 && next.take 2 == ['\\', 'u'] then
        match Text.hexNumber? ((next.drop 2).take 4) with
        | none => .error (.stop .unicodeEscape (offset + 6))
        | some second =>
          if 0xdc00 ≤ second && second < 0xe000 then
            .ok (Char.ofNat (0x10000 + (unit - 0xd800) * 1024 + (second - 0xdc00)), 10)
          else
            .ok ('\ufffd', 4)
      else if 0xd800 ≤ unit && unit < 0xe000 then .ok ('\ufffd', 4)
      else .ok (Char.ofNat unit, 4)

/-- Reads a string from after its opening quote, which stands at `start`. -/
def scanString (start : Nat) (found : List Char) (cursor : Cursor) : Scan (String × Cursor) :=
  match _h : cursor.rest with
  | [] => .error (.stop .openString start)
  | '"' :: _ => .ok (String.ofList found.reverse, cursor.advance 1)
  | '\\' :: [] => .error (.stop .openString start)
  | '\\' :: 'u' :: afterU =>
    match unicodeEscape afterU (cursor.offset + 1) with
    | .error fault => .error fault
    | .ok (c, taken) => scanString start (c :: found) (cursor.advance (2 + taken))
  | '\\' :: c :: _ =>
    match shortEscape? c with
    | some c => scanString start (c :: found) (cursor.advance 2)
    | none => .error (.stop .escape cursor.offset)
  | c :: _ =>
    if c.toNat < 0x20 then .error (.stop .control cursor.offset)
    else scanString start (c :: found) (cursor.advance 1)
termination_by cursor.rest.length
decreasing_by all_goals simp [Cursor.advance, _h]; try omega

def isAsciiDigit (c : Char) : Bool := '0' ≤ c && c ≤ '9'

/-- The number that decimal digits write. -/
def digitsValue (digits : List Char) : Nat :=
  digits.foldl (fun n c => 10 * n + (c.toNat - '0'.toNat)) 0

/-- The fraction `.ddd`, without its point, when a digit follows the point. -/
def fractionDigits : List Char → List Char
  | '.' :: rest => rest.takeWhile isAsciiDigit
  | _ => []

/-- The exponent `e+ddd` and its length, when it has a digit. -/
def exponentPart : List Char → Option (Int × Nat)
  | c :: rest =>
    if c == 'e' || c == 'E' then
      let signed : Bool × List Char :=
        match rest with
        | '-' :: after => (true, after)
        | '+' :: after => (false, after)
        | _ => (false, rest)
      let digits := signed.2.takeWhile isAsciiDigit
      if digits.isEmpty then
        none
      else
        let size : Int := digitsValue digits
        some (if signed.1 then -size else size, 1 + (rest.length - signed.2.length) + digits.length)
    else
      none
  | [] => none

/-- Reads a number: a sign, digits without a needless leading zero, a fraction, an exponent. -/
def scanNumber (cursor : Cursor) : Scan (Json × Cursor) :=
  let negative := cursor.rest.head? == some '-'
  let unsigned := if negative then cursor.rest.drop 1 else cursor.rest
  let whole :=
    match unsigned with
    | '0' :: _ => ['0']
    | _ => unsigned.takeWhile isAsciiDigit
  if whole.isEmpty then
    .error (.stop .value cursor.offset)
  else
    let afterWhole := unsigned.drop whole.length
    let fraction := fractionDigits afterWhole
    let fractionLength := if fraction.isEmpty then 0 else fraction.length + 1
    let exponent := exponentPart (afterWhole.drop fractionLength)
    let exponentLength := (exponent.map (·.2)).getD 0
    let next := cursor.advance
      ((if negative then 1 else 0) + whole.length + fractionLength + exponentLength)
    if fraction.isEmpty && exponent.isNone then
      if whole.length > maxDigits then
        .error (.digits whole.length)
      else
        let size : Int := digitsValue whole
        .ok (.number (.int (if negative then -size else size)), next)
    else
      let scale := (exponent.map (·.1)).getD 0 - fraction.length
      .ok (.number (.float (Binary64.ofDecimal negative (digitsValue (whole ++ fraction)) scale)), next)

/-- The words that stand for values. -/
def words : List (String × Json) := [
  ("null", .null),
  ("true", .bool true),
  ("false", .bool false),
  ("NaN", .number (.float .nan)),
  ("Infinity", .number (.float (.infinite false))),
  ("-Infinity", .number (.float (.infinite true)))]

mutual

/-- Reads a value that starts at the cursor. -/
def scanValue : Nat → Cursor → Scan (Json × Cursor)
  | 0, cursor => .error (.stop .value cursor.offset)
  | fuel + 1, cursor =>
    match cursor.rest with
    | '"' :: _ => do
      let (text, next) ← scanString cursor.offset [] (cursor.advance 1)
      return (.string text, next)
    | '[' :: _ => do
      let inside := (cursor.advance 1).skipSpace
      if inside.rest.head? == some ']' then
        return (.array [], inside.advance 1)
      let (items, next) ← scanItems fuel inside
      return (.array items, next)
    | '\x7b' :: _ => do
      let inside := (cursor.advance 1).skipSpace
      if inside.rest.head? == some '\x7d' then
        return (.object [], inside.advance 1)
      let (members, next) ← scanMembers fuel inside
      return (.object (Table.ofList members), next)
    | rest =>
      match words.find? fun word => word.1.toList.isPrefixOf rest with
      | some (word, value) => .ok (value, cursor.advance word.length)
      | none => scanNumber cursor

/-- Reads the items of an array, the first at the cursor, and its closing bracket. -/
def scanItems : Nat → Cursor → Scan (List Json × Cursor)
  | 0, cursor => .error (.stop .value cursor.offset)
  | fuel + 1, cursor => do
    let (item, after) ← scanValue fuel cursor
    let after := after.skipSpace
    match after.rest with
    | ']' :: _ => return ([item], after.advance 1)
    | ',' :: _ =>
      let (items, next) ← scanItems fuel (after.advance 1).skipSpace
      return (item :: items, next)
    | _ => .error (.stop .comma after.offset)

/-- Reads the members of an object, the first key at the cursor, and its closing brace. -/
def scanMembers : Nat → Cursor → Scan (List (String × Json) × Cursor)
  | 0, cursor => .error (.stop .value cursor.offset)
  | fuel + 1, cursor => do
    if cursor.rest.head? != some '"' then
      .error (.stop .key cursor.offset)
    let (key, after) ← scanString cursor.offset [] (cursor.advance 1)
    let after := after.skipSpace
    if after.rest.head? != some ':' then
      .error (.stop .colon after.offset)
    let (member, after) ← scanValue fuel (after.advance 1).skipSpace
    let after := after.skipSpace
    match after.rest with
    | '\x7d' :: _ => return ([(key, member)], after.advance 1)
    | ',' :: _ =>
      let (members, next) ← scanMembers fuel (after.advance 1).skipSpace
      return ((key, member) :: members, next)
    | _ => .error (.stop .comma after.offset)

end

/-- Reads a text that is one value between blanks. -/
def scanDocument (text : List Char) : Scan Json := do
  if text.head? == some '\ufeff' then
    .error (.stop .byteOrderMark 0)
  let (value, after) ← scanValue (2 * text.length + 2) (Cursor.skipSpace ⟨text, 0⟩)
  let after := after.skipSpace
  if after.rest.isEmpty then
    return value
  else
    .error (.stop .excess after.offset)

end Reader

/-- Reads a text that is one JSON value. Lines and columns of an error count from one. -/
def read (text : String) : Except ReadError Json :=
  match Reader.scanDocument text.toList with
  | .ok value => .ok value
  | .error (.digits count) => .error (.longInteger count)
  | .error (.stop cause offset) =>
    let before := text.toList.take offset
    let line := before.count '\n' + 1
    let column := (before.reverse.takeWhile (· != '\n')).length + 1
    .error (.malformed cause line column offset)

end SchemaGuard.Json
