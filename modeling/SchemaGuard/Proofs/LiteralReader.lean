import SchemaGuard.Json.Reader
import SchemaGuard.Literal

/-!
# Reading literals

A reader for the expressions that literals are written as: numbers with or without a minus, texts
between single or triple quotes, the three words, and displays of lists and dictionaries. It gives
the value of the expression and what follows it. Where it gives none, the text may still be an
expression of the emitted language, but where it gives one, that is what the expression evaluates to.

A key that a display repeats keeps its first place and its last value. The inside of a text is read
character by character, and a `Stage` says whether an escape has begun.
-/

namespace SchemaGuard.Literal.Reader

open Json.Reader (isAsciiDigit digitsValue fractionDigits exponentPart)
open Text (hexValue?)

/-! ## Numbers -/

/-- Reads a number without its sign: digits, and possibly a point with digits after it and an exponent,
either of which makes it a floating-point number. An integer has no needless zeros. -/
def number? (negative : Bool) (text : List Char) : Option (Number × List Char) :=
  let whole := text.takeWhile isAsciiDigit
  let afterWhole := text.dropWhile isAsciiDigit
  let fraction := fractionDigits afterWhole
  let afterFraction := if fraction.isEmpty then afterWhole else afterWhole.drop (fraction.length + 1)
  let exponent := exponentPart afterFraction
  if whole.isEmpty then
    none
  else if fraction.isEmpty && exponent.isNone then
    if whole.head? == some '0' && whole.length != 1 then none
    else
      let size : Int := digitsValue whole
      some (.int (if negative then -size else size), afterWhole)
  else
    let scale := (exponent.map (·.1)).getD 0 - fraction.length
    some (.float (Binary64.ofDecimal negative (digitsValue (whole ++ fraction)) scale),
      afterFraction.drop ((exponent.map (·.2)).getD 0))

/-! ## Texts -/

/-- Where in the inside of a text its reader is: between characters, after a backslash, or before the
given number of digits of a code of which the others have been read. -/
inductive Stage where
  | plain
  | backslash
  | code (left value : Nat)

/-- What stands for one character after a backslash. -/
def escaped? : Char → Option Char
  | '\\' => some '\\'
  | '\'' => some '\''
  | '"' => some '"'
  | 'n' => some '\n'
  | 'r' => some '\r'
  | 't' => some '\t'
  | _ => none

/-- How many digits of a code follow a backslash and a letter. -/
def codeWidth? : Char → Option Nat
  | 'x' => some 2
  | 'u' => some 4
  | 'U' => some 8
  | _ => none

/-- Puts a character before those that were read. -/
def push (c : Char) (read : Option (List Char × List Char)) : Option (List Char × List Char) :=
  read.map fun (chars, rest) => (c :: chars, rest)

/-- Reads the inside of a text up to as many quotes in a row as it was opened with. A line ends only
between triple quotes. -/
def inside? (quote : Char) (count : Nat) : Stage → List Char → Option (List Char × List Char)
  | _, [] => none
  | .plain, c :: rest =>
    if (List.replicate count quote).isPrefixOf (c :: rest) then some ([], (c :: rest).drop count)
    else if c == '\\' then inside? quote count .backslash rest
    else if c == '\r' || c == '\x00' || (c == '\n' && count == 1) then none
    else push c (inside? quote count .plain rest)
  | .backslash, c :: rest =>
    match escaped? c, codeWidth? c with
    | some c, _ => push c (inside? quote count .plain rest)
    | none, some width => inside? quote count (.code width 0) rest
    | none, none => none
  | .code left value, c :: rest =>
    match hexValue? c with
    | none => none
    | some digit =>
      let value := 16 * value + digit
      if left > 1 then inside? quote count (.code (left - 1) value) rest
      else if value.isValidChar then push (Char.ofNat value) (inside? quote count .plain rest)
      else none

theorem inside?_letter {letter c : Char} (h : escaped? letter = some c) (quote : Char) (count : Nat)
    (tail : List Char) :
    inside? quote count .backslash (letter :: tail) = push c (inside? quote count .plain tail) := by
  simp [inside?, h]

theorem inside?_width {letter : Char} {width : Nat} (hescaped : escaped? letter = none)
    (h : codeWidth? letter = some width) (quote : Char) (count : Nat) (tail : List Char) :
    inside? quote count .backslash (letter :: tail) = inside? quote count (.code width 0) tail := by
  simp [inside?, hescaped, h]

/-- Reads a text with its quotes. -/
def string? : List Char → Option (String × List Char)
  | [] => none
  | quote :: rest =>
    let count := if [quote, quote].isPrefixOf rest then 3 else 1
    (inside? quote count .plain (rest.drop (count - 1))).map fun (chars, rest) =>
      (String.ofList chars, rest)

/-! ## Displays -/

def skipSpaces (text : List Char) : List Char := text.dropWhile (· == ' ')

/-- Reads the entries of a display, of which there is one at least, and its closing bracket. -/
def entries? {α : Type} (close : Char) (item? : List Char → Option (α × List Char)) :
    Nat → List Char → Option (List α × List Char)
  | 0, _ => none
  | fuel + 1, text => do
    let (first, rest) ← item? text
    match skipSpaces rest with
    | [] => none
    | c :: rest =>
      if c == ',' then do
        let (others, rest) ← entries? close item? fuel (skipSpaces rest)
        some (first :: others, rest)
      else if c == close then some ([first], rest)
      else none

/-- Reads a display from after its opening bracket. -/
def display? {α : Type} (close : Char) (item? : List Char → Option (α × List Char))
    (text : List Char) : Option (List α × List Char) :=
  if text.head? == some close then some ([], text.drop 1) else entries? close item? text.length text

/-- Reads a key and its value, given a reader for the value. -/
def member? (value? : List Char → Option (Json × List Char)) (text : List Char) :
    Option ((String × Json) × List Char) := do
  let (key, rest) ← string? text
  match skipSpaces rest with
  | [] => none
  | c :: rest =>
    if c == ':' then do
      let (value, rest) ← value? (skipSpaces rest)
      some ((key, value), rest)
    else none

/-- The words that stand for values. -/
def words : List (String × Json) := [("None", .null), ("True", .bool true), ("False", .bool false)]

/-- Reads a value of at most the given depth. -/
def value? : Nat → List Char → Option (Json × List Char)
  | 0, _ => none
  | _ + 1, [] => none
  | depth + 1, c :: rest =>
    if c == '[' then
      (display? ']' (value? depth) rest).map fun (items, rest) => (.array items, rest)
    else if c == '\x7b' then
      (display? '\x7d' (member? (value? depth)) rest).map fun (members, rest) =>
        (.object (Table.ofList members), rest)
    else if c == '\'' || c == '"' then
      (string? (c :: rest)).map fun (text, rest) => (.string text, rest)
    else if c == '-' then
      (number? true rest).map fun (value, rest) => (.number value, rest)
    else if isAsciiDigit c then
      (number? false (c :: rest)).map fun (value, rest) => (.number value, rest)
    else
      words.findSome? fun (word, value) =>
        if word.toList.isPrefixOf (c :: rest) then some (value, (c :: rest).drop word.length) else none

/-- The value of an expression that is all of a text. -/
def read (text : String) : Option Json :=
  match value? (text.length + 1) text.toList with
  | some (value, []) => some value
  | _ => none

end SchemaGuard.Literal.Reader
