import SchemaGuard.Text.Digit

/-!
# Numerals

Numbers in a source text: integers in four bases, decimals, exponents and imaginary numbers. Single
underscores may stand between digits. A numeral may not run into a word, except into the keywords that
can follow a number. A whole number with too many digits to be converted is no numeral.
-/

namespace SchemaGuard.Source.Numeral

/-- Whether a character can be part of a name, as far as can be told without looking it up. -/
def isNameLike (c : Char) : Bool := c.isAlphanum || c == '_' || c.toNat ≥ 128

/-- The keywords that a numeral may run into. -/
def followers : List (List Char) :=
  ["and", "else", "for", "if", "in", "is", "or", "not"].map String.toList

/-- The rest, if a numeral may end before it. -/
def finish? (rest : List Char) : Option (List Char) :=
  match rest with
  | c :: _ => if followers.any (·.isPrefixOf rest) || !isNameLike c then some rest else none
  | [] => some []

def isOctalDigit (c : Char) : Bool := '0' ≤ c && c ≤ '7'

def isBinaryDigit (c : Char) : Bool := c == '0' || c == '1'

/-- Passes over digits, of which there may be none, with single underscores before digits. -/
def digits? (isDigit : Char → Bool) : List Char → Option (List Char)
  | '_' :: c :: rest => if isDigit c then digits? isDigit rest else none
  | '_' :: [] => none
  | c :: rest => if isDigit c then digits? isDigit rest else some (c :: rest)
  | [] => some []

/-- Passes over digits, of which there has to be one. -/
def someDigits? (isDigit : Char → Bool) : List Char → Option (List Char)
  | c :: rest => if isDigit c then digits? isDigit rest else none
  | [] => none

/-- The digits of a base, after its mark. -/
def based? (isDigit : Char → Bool) (rest : List Char) : Option (List Char) := do
  let rest ← someDigits? isDigit (if rest.head? == some '_' then rest.drop 1 else rest)
  if (rest.head?.map Char.isDigit).getD false then none else finish? rest

/-- An imaginary mark, or nothing. -/
def imaginary? : List Char → Option (List Char)
  | 'j' :: rest => finish? rest
  | 'J' :: rest => finish? rest
  | rest => finish? rest

/-- An exponent, or what else may follow the digits. -/
def exponent? (rest : List Char) : Option (List Char) :=
  match rest with
  | e :: sign :: d :: more =>
    if e.toLower == 'e' then
      if sign == '+' || sign == '-' then
        if d.isDigit then (digits? Char.isDigit more).bind imaginary? else none
      else if sign.isDigit then (digits? Char.isDigit (d :: more)).bind imaginary?
      else finish? rest
    else imaginary? rest
  | [e, d] =>
    if e.toLower == 'e' && d.isDigit then some []
    else if e.toLower == 'e' && (d == '+' || d == '-') then none
    else imaginary? rest
  | rest => imaginary? rest

/-- What follows the whole part. -/
def fraction? : List Char → Option (List Char)
  | '.' :: c :: rest => if c.isDigit then (digits? Char.isDigit rest).bind exponent? else exponent? (c :: rest)
  | '.' :: [] => some []
  | rest => exponent? rest

/-- Whether the digits after a leading zero make a whole number that is not allowed. -/
def isPaddedWhole (rest after : List Char) : Bool :=
  let digits := rest.take (rest.length - after.length)
  digits.any (fun c => c.isDigit && c != '0') &&
    !(match after with
      | c :: _ => c == '.' || c.toLower == 'e' || c.toLower == 'j'
      | [] => false)

/-- The greatest number of digits of a whole number. -/
def maxDigits : Nat := 4300

/-- Passes over a numeral that starts with a digit other than zero. -/
def decimal? (chars : List Char) : Option (List Char) := do
  let after ← digits? Char.isDigit chars
  let rest ← fraction? after
  let digits := (chars.take (chars.length - after.length)).filter Char.isDigit
  if rest.length == after.length && digits.length > maxDigits then none else some rest

/-- Passes over a numeral that starts with a digit. -/
def pass? : List Char → Option (List Char)
  | '0' :: mark :: rest =>
    if mark.toLower == 'x' then based? Text.isHexDigit rest
    else if mark.toLower == 'o' then based? isOctalDigit rest
    else if mark.toLower == 'b' then based? isBinaryDigit rest
    else do
      let after ← digits? Char.isDigit (mark :: rest)
      if isPaddedWhole (mark :: rest) after then none else fraction? after
  | c :: rest => if c.isDigit then decimal? (c :: rest) else none
  | [] => none

/-- Whether what was passed over ends in the mark of imaginary numbers. -/
def isImaginary (chars rest : List Char) : Bool :=
  match (chars.take (chars.length - rest.length)).getLast? with
  | some c => c == 'j' || c == 'J'
  | none => false

end SchemaGuard.Source.Numeral
