import SchemaGuard.Number.Binary64

/-!
# Shortest decimals

The decimal with the fewest digits among those that read back as a given floating-point number, and
the nearest to it among those.

The decimals that read back are those in an interval around the number, reaching half way to its
neighbours; the ends belong to it when the fraction is even, since ties go there. For a number of
digits, the decimals with that many digits form a grid, and if the interval meets the grid then it
holds one of the two grid points around the number itself. So one digit, two digits, … are tried in
turn on those two points, in whole-number arithmetic with quarter units.
-/

namespace SchemaGuard.Binary64

/-- The decimal `digits * 10 ^ exponent`. -/
structure Decimal where
  digits : Nat
  exponent : Int

/-- The interval of what reads back as a number, in quarter units. -/
structure Interval where
  center : Nat
  low : Nat
  high : Nat
  closed : Bool

def interval (exponent : Fin 2047) (fraction : Fin binadeSize) : Interval :=
  let center := 4 * magnitude exponent fraction
  let spacing := Nat.pow 2 (exponent.val - 1)
  let below := if fraction.val = 0 && exponent.val ≥ 2 then spacing else 2 * spacing
  { center, low := center - below, high := center + 2 * spacing, closed := fraction.val % 2 == 0 }

/-- The exponent of the leading decimal digit of a positive number. -/
def leadingExponent (exponent : Fin 2047) (fraction : Fin binadeSize) : Int :=
  digitCount (magnitude exponent fraction * Nat.pow 10 400 / unitsPerOne) - 401

/-- Whether a ratio lies in the interval. -/
def Interval.has (around : Interval) (numerator denominator : Nat) : Bool :=
  if around.closed then
    around.low * denominator ≤ numerator && numerator ≤ around.high * denominator
  else
    around.low * denominator < numerator && numerator < around.high * denominator

/-- Of the two decimals around the number whose last digit has a given exponent, the nearer one that
lies in the interval; a tie goes to the even one. -/
def Interval.pick (around : Interval) (last : Int) : Option Decimal :=
  let finer := Nat.pow 10 (-last).toNat
  let step := Nat.pow 10 last.toNat * (4 * unitsPerOne)
  let center := around.center * finer
  let lower := center / step
  let nearerLower : Bool :=
    let rest := 2 * (center % step)
    rest < step || (rest == step && lower % 2 == 0)
  match around.has (lower * step) finer, around.has ((lower + 1) * step) finer with
  | true, true => some ⟨if nearerLower then lower else lower + 1, last⟩
  | true, false => some ⟨lower, last⟩
  | false, true => some ⟨lower + 1, last⟩
  | false, false => none

/-- The shortest decimal of a positive finite number. Seventeen digits always suffice. -/
def shortest (exponent : Fin 2047) (fraction : Fin binadeSize) : Decimal :=
  let around := interval exponent fraction
  let leading := leadingExponent exponent fraction
  let tries := (List.range 17).map fun extra => around.pick (leading - (extra : Nat))
  (tries.findSome? id).getD ⟨magnitude exponent fraction, -1074⟩

end SchemaGuard.Binary64
