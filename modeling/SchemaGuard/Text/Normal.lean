import SchemaGuard.Text.Forms

/-!
# The normal form of identifiers

Two identifiers are the same name if they have the same normal form: characters in another form are
replaced by what they stand for, everything that is composed is taken apart, marks are put in order,
and what can be composed is composed again (the form NFKC of Unicode 14).
-/

namespace SchemaGuard.Text

/-! ## Taking apart -/

/-- The parts of a Hangul syllable. -/
def syllableParts? (code : Nat) : Option (List Nat) :=
  if 0xac00 ≤ code && code ≤ 0xd7a3 then
    let index := code - 0xac00
    let trailing := index % 28
    let start := [0x1100 + index / 588, 0x1161 + index % 588 / 28]
    some (if trailing = 0 then start else start ++ [0x11a7 + trailing])
  else
    none

/-- The last of some runs that starts at a character or before it. -/
def runBefore? (code : Nat) (runs : List (Nat × String)) : Option (Nat × String) :=
  (runs.takeWhile (·.1 ≤ code)).getLast?

/-- What a character stands for, if it is another in another form. -/
def formOf? (code : Nat) : Option (List Nat) :=
  let shifted := shiftedForms.findSome? fun (first, count, image) =>
    if first ≤ code && code < first + count then some [image + (code - first)] else none
  let single (_ : Unit) := (runBefore? code singleForms).bind fun (first, images) =>
    (images.toList[code - first]?).map ([·.toNat])
  let multiple (_ : Unit) := (runBefore? code multipleForms).bind fun (first, images) =>
    ((splitList '|' images.toList)[code - first]?).map (·.map Char.toNat)
  (shifted.orElse single).orElse multiple

/-- The two characters that one is composed of. -/
def composedOf? (code : Nat) : Option (Nat × Nat) :=
  (if code < 0x3100 then lowComposites else highComposites).findSome? fun (mark, made) =>
    (made.find? fun entry => entry.2 == code).map fun entry => (entry.1, mark)

/-- Takes a character apart; nothing is nested deeper than `fuel` for as much as there is. -/
def takenApart : Nat → Nat → List Nat
  | 0, code => [code]
  | fuel + 1, code =>
    if code < 0x80 then
      [code]
    else if let some parts := syllableParts? code then
      parts
    else if let some (first, second) := composedOf? code then
      takenApart fuel first ++ takenApart fuel second
    else if let some form := formOf? code then
      form.flatMap (takenApart fuel)
    else
      [code]

/-! ## Marks in order -/

/-- The number by which a mark is ordered; other characters have zero. -/
def markClass (code : Nat) : Nat :=
  ((markClasses.find? fun entry => entry.2.has code).map Prod.fst).getD 0

/-- Puts a character after others, given last first, but a mark before marks of a greater class. -/
def putInOrder (code : Nat) : List Nat → List Nat
  | [] => [code]
  | last :: others =>
    if markClass code ≠ 0 && markClass code < markClass last then last :: putInOrder code others
    else code :: last :: others

/-- Characters with marks in order, last first. -/
def inOrder (codes : List Nat) : List Nat := codes.foldl (fun found code => putInOrder code found) []

/-! ## Composing -/

/-- The Hangul syllable that parts make up. -/
def syllableOf? (first second : Nat) : Option Nat :=
  if 0x1100 ≤ first && first ≤ 0x1112 && 0x1161 ≤ second && second ≤ 0x1175 then
    some (0xac00 + ((first - 0x1100) * 21 + (second - 0x1161)) * 28)
  else if 0xac00 ≤ first && first ≤ 0xd7a3 && (first - 0xac00) % 28 = 0 &&
      0x11a8 ≤ second && second ≤ 0x11c2 then
    some (first + (second - 0x11a7))
  else
    none

/-- The character that two make up. -/
def composed? (first second : Nat) : Option Nat :=
  (syllableOf? first second).orElse fun _ =>
    ((lowComposites ++ highComposites).lookup second).bind (·.lookup first)

/-- What composing has found: characters that are settled, last first; the one that others may be
composed with; and the marks after it, last first. -/
structure Composing where
  settled : List Nat
  base : Option Nat
  marks : List Nat

namespace Composing

/-- All that was found, last first. -/
def found (composing : Composing) : List Nat :=
  composing.marks ++ composing.base.toList ++ composing.settled

/-- Whether a mark of the same or a greater class stands between the base and a character. -/
def isBlocked (composing : Composing) (code : Nat) : Bool :=
  match composing.marks with
  | [] => false
  | last :: _ => markClass last ≥ markClass code

/-- Adds a character without composing it. -/
def add (composing : Composing) (code : Nat) : Composing :=
  if markClass code = 0 then ⟨composing.found, some code, []⟩
  else { composing with marks := code :: composing.marks }

/-- Adds a character, which is composed with the base if it can be. -/
def step (composing : Composing) (code : Nat) : Composing :=
  match composing.base.bind (composed? · code) with
  | some whole => if composing.isBlocked code then composing.add code else { composing with base := some whole }
  | none => composing.add code

end Composing

/-- Composes characters. -/
def composedAll (codes : List Nat) : List Nat := (codes.foldl Composing.step ⟨[], none, []⟩).found.reverse

/-- The normal form of an identifier. -/
def normalForm (name : String) : String :=
  if name.toList.all (·.toNat < 0x80) then name
  else
    let apart := name.toList.flatMap fun c => takenApart 8 c.toNat
    String.ofList ((composedAll (inOrder apart).reverse).map Char.ofNat)

end SchemaGuard.Text
