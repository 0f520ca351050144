/-!
# Binary floating-point numbers

A number of the 64-bit binary format, as its sign, its exponent field and its fraction field. Every
combination of fields is a number, so the type needs no invariant, and there is one `nan`.

**Units.** Every finite number is a whole multiple of the least positive one, `2 ^ -1074`. That
multiple, `units`, is an integer that can be compared exactly with the units of any other finite
number and, scaled, with any integer.

**Rounding.** The nonnegative numbers in ascending order are numbered by `exponent * 2 ^ 52 +
fraction`. Rounding a ratio takes the binade of its integer part in units, rounds the ratio to a
multiple of that binade's spacing, half to even, and reads off the number with that code; a result
that rounds up into the next binade has the next code, so it needs no case of its own.
-/

namespace SchemaGuard

/-- How many numbers share an exponent field: `2 ^ 52`. -/
abbrev Binary64.binadeSize : Nat := 4503599627370496

/-- A number of the 64-bit binary format. -/
inductive Binary64 where
  | nan
  | infinite (negative : Bool)
  | finite (negative : Bool) (exponent : Fin 2047) (fraction : Fin Binary64.binadeSize)
deriving DecidableEq

namespace Binary64

/-- How many of the least positive numbers make up one. -/
def unitsPerOne : Nat := Nat.pow 2 1074

/-- The size of a finite number, in units. -/
def magnitude (exponent : Fin 2047) (fraction : Fin binadeSize) : Nat :=
  if exponent.val = 0 then fraction.val else (binadeSize + fraction.val) * Nat.pow 2 (exponent.val - 1)

/-- The value of a finite number, in units. -/
def units? : Binary64 → Option Int
  | finite negative exponent fraction =>
    let size : Int := magnitude exponent fraction
    some (if negative then -size else size)
  | _ => none

/-- The number with a given place in the ascending order of the sizes; beyond the last, infinity. -/
def ofCode (negative : Bool) (code : Nat) : Binary64 :=
  if h : code < 2047 * binadeSize then
    finite negative ⟨code / binadeSize, Nat.div_lt_of_lt_mul (by omega)⟩
      ⟨code % binadeSize, Nat.mod_lt _ (by decide)⟩
  else
    infinite negative

/-- The ratio rounded to a whole number, a half going to the even neighbour. -/
def roundHalfEven (numerator denominator : Nat) : Nat :=
  let quotient := numerator / denominator
  let twice := 2 * (numerator % denominator)
  if twice < denominator || (twice == denominator && quotient % 2 == 0) then quotient
  else quotient + 1

/-- The number nearest to a ratio, a half going to the even neighbour. -/
def nearest (negative : Bool) (numerator denominator : Nat) : Binary64 :=
  let scaled := numerator * unitsPerOne
  let binade := Nat.log2 (scaled / denominator) - 52
  ofCode negative (binade * binadeSize + roundHalfEven scaled (denominator * Nat.pow 2 binade))

/-- The number of decimal digits of a natural number. -/
def digitCount (n : Nat) : Nat := (Nat.toDigits 10 n).length

/-- The number nearest to `digits * 10 ^ exponent`. A decimal far outside the range is settled by
its order of magnitude alone. -/
def ofDecimal (negative : Bool) (digits : Nat) (exponent : Int) : Binary64 :=
  let order := digitCount digits + exponent
  if digits = 0 || order < -330 then ofCode negative 0
  else if order > 330 then infinite negative
  else if exponent < 0 then nearest negative digits (Nat.pow 10 exponent.natAbs)
  else nearest negative (digits * Nat.pow 10 exponent.natAbs) 1

/-- Whether a number is finite and has no fractional part. -/
def isWhole (x : Binary64) : Bool :=
  match x.units? with
  | some units => units % unitsPerOne == 0
  | none => false

end Binary64

end SchemaGuard
