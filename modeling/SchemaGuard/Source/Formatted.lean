import SchemaGuard.Source.Numeral
import SchemaGuard.Source.Token
import SchemaGuard.Text.CharacterName

/-!
# What is in texts

The escapes in a text, and the expressions in a formatted one. An expression stands in braces; a mark
after it says how its value is shown, and a format may follow, in which there may be expressions again,
but no third layer of them. Doubled braces outside of formats stand for themselves.
-/

namespace SchemaGuard.Source

/-! ## Escapes -/

/-- Whether a text goes on with so many hexadecimal digits. -/
def startsWithHex (count : Nat) (rest : List Char) : Bool :=
  (rest.take count).length == count && (rest.take count).all Text.isHexDigit

/-- Whether a text goes on with the name of a character in braces. -/
def startsWithName : List Char → Bool
  | '\x7b' :: rest =>
    let name := rest.takeWhile (· != '\x7d')
    name.length < rest.length && (Text.codeNamed? (String.ofList name)).isSome
  | _ => false

/-- Whether the escapes in a text are complete. -/
def escapesAreComplete (isBytes : Bool) : List Char → Bool
  | '\\' :: c :: rest =>
    (match c with
      | 'x' => startsWithHex 2 rest
      | 'u' => isBytes || startsWithHex 4 rest
      | 'U' => isBytes ||
        (startsWithHex 8 rest && (Text.hexNumber? (rest.take 8)).any (· < 0x110000))
      | 'N' => isBytes || startsWithName rest
      | _ => true) && escapesAreComplete isBytes rest
  | _ :: rest => escapesAreComplete isBytes rest
  | [] => true

namespace Formatted

/-! ## Plain parts -/

/-- Where a text stands: itself, a format in it, or a format in an expression of that format. -/
inductive Layer where
  | text
  | format
  | innerFormat
deriving DecidableEq

/-- The layer of the formats in a layer. -/
def Layer.below : Layer → Layer
  | .text => .format
  | _ => .innerFormat

def isBrace (c : Char) : Bool := c == '\x7b' || c == '\x7d'

/-- Takes the plain characters before an expression or the end of a format. -/
def plain (isRaw : Bool) (layer : Layer) : Nat → List Char → Option (List Char × List Char)
  | 0, _ => none
  | _ + 1, [] => some ([], [])
  | fuel + 1, c :: rest =>
    let keep (kept rest : List Char) : Option (List Char × List Char) :=
      (plain isRaw layer fuel rest).map fun (found, rest) => (kept ++ found, rest)
    if isBrace c then
      if layer != .text then some ([], c :: rest)
      else if rest.head? == some c then keep [c] (rest.drop 1)
      else if c == '\x7b' then some ([], c :: rest)
      else none
    else if c == '\\' && !isRaw then
      match rest with
      | 'N' :: '\x7b' :: more =>
        let length := (more.takeWhile (· != '\x7d')).length + 1
        keep ('\\' :: 'N' :: '\x7b' :: more.take length) (more.drop length)
      | d :: more => if isBrace d then keep [c] rest else keep [c, d] more
      | [] => some ([c], [])
    else
      keep [c] rest

/-! ## Expressions -/

/-- Takes a text inside an expression, after its opening quote. -/
def quoted (quote : Char) (isTriple : Bool) : List Char → Option (List Char × List Char)
  | [] => none
  | c :: rest =>
    if c == '\\' then none
    else if c == quote && !isTriple then some ([c], rest)
    else if c == quote && [quote, quote].isPrefixOf rest then some ([c, c, c], rest.drop 2)
    else (quoted quote isTriple rest).map fun (found, rest) => (c :: found, rest)

/-- The number of brackets that may be open at once in an expression. -/
def maxOpen : Nat := 200

/-- Takes an expression up to what ends it outside of brackets: a mark, a colon, an equals sign or the
closing brace. `brackets` are those that have to be closed. -/
def expression : Nat → List Char → List Char → Option (List Char × List Char)
  | 0, _, _ => none
  | _ + 1, _, [] => none
  | fuel + 1, brackets, c :: rest =>
    let keep (kept brackets rest : List Char) : Option (List Char × List Char) :=
      (expression fuel brackets rest).map fun (found, rest) => (kept ++ found, rest)
    if c == '\\' || c == '#' then
      none
    else if c == '"' || c == '\'' then
      if [c, c].isPrefixOf rest then do
        let (inside, rest) ← quoted c true (rest.drop 2)
        keep (c :: c :: c :: inside) brackets rest
      else do
        let (inside, rest) ← quoted c false rest
        keep (c :: inside) brackets rest
    else if let some close := closing? c then
      if brackets.length ≥ maxOpen then none else keep [c] (close :: brackets) rest
    else if brackets.isEmpty && ['!', ':', '\x7d', '=', '<', '>'].contains c then
      if ['!', '=', '<', '>'].contains c && rest.head? == some '=' then keep [c, '='] brackets (rest.drop 1)
      else if c == '<' || c == '>' then keep [c] brackets rest
      else some ([], c :: rest)
    else if isClosing c then
      match brackets with
      | expected :: brackets => if expected == c then keep [c] brackets rest else none
      | [] => none
    else
      keep [c] brackets rest

def isBlank (c : Char) : Bool := c == ' ' || c == '\t' || c == '\n' || c == '\x0c'

/-- Passes over an equals sign that asks for the text of the expression, and the blanks after it. -/
def showsText : List Char → List Char
  | '=' :: rest => rest.dropWhile fun c => isBlank c || c == '\x0b' || c == '\r'
  | rest => rest

/-- Passes over the mark that says how a value is shown. -/
def conversion : List Char → Option (List Char)
  | '!' :: c :: rest => if c == 's' || c == 'r' || c == 'a' then some rest else none
  | ['!'] => none
  | rest => some rest

/-! ## Whole texts -/

/-- The expressions of a layer up to its end, and what follows. Each round passes over a brace. -/
def expressionsOf (isRaw : Bool) : Nat → Layer → List Char → Option (List (List Char) × List Char)
  | 0, _, _ => none
  | fuel + 1, layer, chars => do
    let (literal, rest) ← plain isRaw layer (chars.length + 1) chars
    if !isRaw && !escapesAreComplete false literal then
      none
    else
      match rest with
      | '\x7b' :: rest =>
        if layer = .innerFormat then
          none
        else
          let (found, rest) ← expression (rest.length + 1) [] rest
          if found.all isBlank then
            none
          else
            let (inner, rest) ←
              match ← conversion (showsText rest) with
              | ':' :: rest => expressionsOf isRaw fuel layer.below rest
              | rest => some ([], rest)
            match rest with
            | '\x7d' :: rest =>
              let (others, rest) ← expressionsOf isRaw fuel layer rest
              return (found :: inner ++ others, rest)
            | _ => none
      | rest => return ([], rest)

/-- The expressions in a formatted text. -/
def expressions? (isRaw : Bool) (body : List Char) : Option (List (List Char)) := do
  let (found, rest) ← expressionsOf isRaw (body.length + 1) .text body
  if rest.isEmpty then some found else none

end Formatted

end SchemaGuard.Source
