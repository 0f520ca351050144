/-!
# Packed text

A table that is too long to be spelled out is written down as the digits of one number, a fraction, in
which likely text takes few digits. The text is read from it bit by bit. The interval that the fraction lies in is divided by the
chance of a set bit, and the part it lies in tells the bit.

The chance is learnt from the text before. Every context, the last characters up to six of them with
the bits read of the next one, has a weight. The weights of the contexts of a bit add up to the
logarithm of its odds, and once the bit is known they are moved towards it, those of longer contexts
faster.
-/

namespace SchemaGuard.Text

/-- The digits of packed text, in the order of their values. -/
def packedDigits : List Char :=
  "!#$%&'()*+,-.0123456789:;<=>?@ABCDEFGHIJKLMNOPQRSTUVWXYZ[]^_abcdefghijklmnopqrstuvwxyz|~".toList

/-- The chance of a set bit in parts of `2 ^ 16`, by `2 ^ 16` times the logarithm of its odds to the
base two. Between whole logarithms the odds are taken to be linear. -/
def chanceOf (logOdds : Int) : Nat :=
  let raised := min (logOdds + 0xc0000).toNat 0x180000
  let odds := (0x10000 + raised % 0x10000) <<< (raised / 0x10000)
  odds * 0x10000 / (odds + 0x10000000)

/-- The state of reading packed text. -/
structure Unpacking where
  /-- The values of the digits that are still to come. -/
  digits : List Nat
  /-- The width of the interval that the fraction lies in. -/
  width : Nat
  /-- How far inside the interval the fraction lies. -/
  place : Nat
  /-- The weights of contexts. -/
  weights : Array Int

namespace Unpacking

/-- The places of the weights of a bit's contexts, by the characters before it and the bits of its
own character, each as a number. -/
def contexts (recent bits : Nat) : List Nat :=
  [1, 0x40, 0x1000, 0x40000, 0x1000000, 0x40000000, 0x1000000000].mapIdx fun i size =>
    ((recent % size * 64 + bits) * 8 + i) % 3999971

/-- Moves the weights of contexts by how far the chance was from the bit. -/
def learn (error : Int) : List Nat → Int → Array Int → Array Int
  | [], _, weights => weights
  | context :: contexts, rate, weights =>
    learn error contexts (rate + 1) (weights.modify context (· + rate * error / 6))

/-- Takes in a digit if the interval has become too narrow. -/
def widen : Unpacking → Unpacking
  | ⟨digits, width, place, weights⟩ =>
    if width < Nat.pow 88 5 then ⟨digits.tail, width * 88, place * 88 + digits.headD 0, weights⟩
    else ⟨digits, width, place, weights⟩

/-- Reads a bit. No chance is so low that the interval would lack more than two digits. -/
def bit (contexts : List Nat) : Unpacking → Nat × Unpacking
  | ⟨digits, width, place, weights⟩ =>
    let chance := chanceOf (contexts.foldl (fun sum context => sum + weights.getD context 0) 0)
    let part := width * chance / 0x10000
    if place < part then
      (1, widen (widen ⟨digits, part, place, learn (0x10000 - chance) contexts 1 weights⟩))
    else
      (0, widen (widen ⟨digits, width - part, place - part, learn (-chance) contexts 1 weights⟩))

/-- Reads the rest of a character, by how many bits of it are left and the bits read so far. -/
def character (recent : Nat) : Nat → Nat → Unpacking → Nat × Unpacking
  | 0, bits, state => (bits, state)
  | left + 1, bits, state =>
    let (next, state) := state.bit (contexts recent bits)
    character recent left (2 * bits + next) state

/-- Reads a number of characters, after those read before, last first. -/
def characters (alphabet : Array Char) : Nat → Nat → Unpacking → List Char → List Char
  | 0, _, _, found => found.reverse
  | count + 1, recent, state, found =>
    let (bits, state) := state.character recent 6 1
    characters alphabet count ((recent * 64 + bits % 64) % 0x1000000000) state
      (alphabet.getD (bits % 64) ' ' :: found)

end Unpacking

/-- Reads a text of a given length, in an alphabet of no more than 64 characters. -/
def unpack (alphabet : String) (length : Nat) (packed : List Char) : List Char :=
  let digits := packed.map packedDigits.idxOf
  let place := (digits.take 6).foldl (fun place digit => place * 88 + digit) 0
  Unpacking.characters alphabet.toList.toArray length 0
    ⟨digits.drop 6, Nat.pow 88 6, place, Array.replicate 3999971 0⟩ []

end SchemaGuard.Text
