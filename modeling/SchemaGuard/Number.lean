import SchemaGuard.Number.Shortest

/-!
# Numbers

A number is an integer of any size or a binary floating-point number; the two kinds print
differently and compare by value. Comparison is exact: both sides are measured in the least positive
floating-point unit, with an infinity on either end, and `nan` compares with nothing.
-/

namespace SchemaGuard

inductive Number where
  | int (value : Int)
  | float (value : Binary64)
deriving DecidableEq

/-- A place on the number line with both ends; finite places are counted in units. -/
inductive Place where
  | below
  | point (units : Int)
  | above
deriving DecidableEq

namespace Place

def le : Place → Place → Bool
  | below, _ => true
  | _, above => true
  | point m, point n => m ≤ n
  | _, _ => false

def lt (a b : Place) : Bool := !le b a

end Place

namespace Number

/-- Where a number stands on the number line; `nan` stands nowhere. -/
def place? : Number → Option Place
  | int value => some (.point (value * Binary64.unitsPerOne))
  | float .nan => none
  | float (.infinite negative) => some (if negative then .below else .above)
  | float (.finite negative exponent fraction) =>
    let size : Int := Binary64.magnitude exponent fraction
    some (.point (if negative then -size else size))

/-- The same value, whatever the kinds. -/
def same (a b : Number) : Bool :=
  match a.place?, b.place? with
  | some p, some q => p == q
  | _, _ => false

def lt (a b : Number) : Bool :=
  match a.place?, b.place? with
  | some p, some q => p.lt q
  | _, _ => false

def le (a b : Number) : Bool :=
  match a.place?, b.place? with
  | some p, some q => p.le q
  | _, _ => false

/-- Whether a number has no fractional part. -/
def isWhole : Number → Bool
  | int _ => true
  | float x => x.isWhole

/-! ## Text -/

/-- How the values without digits are spelled. -/
structure Spelling where
  infinity : String
  nan : String

/-- Positional for leading exponents from -4 to 15, with at least one digit after the point;
otherwise one digit, the point and the other digits if there are any, and an exponent with sign and
at least two digits. -/
def decimalText (decimal : Binary64.Decimal) : String :=
  let stripped := (Nat.toDigits 10 decimal.digits).reverse.dropWhile (· == '0')
  let digits := stripped.reverse
  let leading := Binary64.digitCount decimal.digits - 1 + decimal.exponent
  if leading < -4 || leading ≥ 16 then
    let tail := if digits.length > 1 then '.' :: digits.drop 1 else []
    let size := toString leading.natAbs
    let padded := if size.length < 2 then "0" ++ size else size
    let sign := if leading < 0 then "-" else "+"
    String.ofList (digits.take 1 ++ tail) ++ "e" ++ sign ++ padded
  else if leading < 0 then
    "0." ++ String.ofList (List.replicate (leading.natAbs - 1) '0' ++ digits)
  else
    let whole := leading.natAbs + 1
    let before := digits.take whole ++ List.replicate (whole - digits.length) '0'
    let after := digits.drop whole
    String.ofList before ++ "." ++ (if after.isEmpty then "0" else String.ofList after)

def floatText (spelling : Spelling) : Binary64 → String
  | .nan => spelling.nan
  | .infinite negative => (if negative then "-" else "") ++ spelling.infinity
  | .finite negative exponent fraction =>
    let size :=
      if Binary64.magnitude exponent fraction = 0 then "0.0"
      else decimalText (Binary64.shortest exponent fraction)
    (if negative then "-" else "") ++ size

/-- A number in full: an integer by its digits, a floating-point number by its shortest decimal. -/
def text (spelling : Spelling) : Number → String
  | int value => toString value
  | float value => floatText spelling value

end Number

end SchemaGuard
