import SchemaGuard.Text.CharacterName.Table
import SchemaGuard.Text.Digit
import SchemaGuard.Text.Packed
import SchemaGuard.Text.Ranges
import SchemaGuard.Text.Split

/-!
# Characters by name

The code point of the character that has a name. Most names stand in a table, in which small and
capital letters are not told apart. The names of Hangul syllables are spelled out of the parts of the
syllable, those of ideographs out of their code point; both are known in capitals alone (Unicode 14).
-/

namespace SchemaGuard.Text

/-! ## Names in the table -/

/-- The text of the table of names, which is unpacked when it is first asked for. -/
def nameTable : Thunk (List Char) :=
  .mk fun _ => unpack nameAlphabet nameTableLength (unbroken packedNames)

/-- Looks for a name, given last character first, in runs of names. `runs` are the first code points
of the runs to come, `name` is the name read last and `next` the code point after its own. -/
def findName (wanted : List Char) : List Char → List Nat → Nat → List Char → Option Nat
  | [], _, next, name => if name == wanted then some (next - 1) else none
  | c :: rest, runs, next, name =>
    if c.isLower || c == '|' then
      if name == wanted then
        some (next - 1)
      else if c == '|' then
        findName wanted rest runs.tail (runs.headD 0) []
      else
        let kept := if c == 'z' then [] else name.drop (c.toNat - 'a'.toNat)
        findName wanted rest runs (next + 1) kept
    else
      findName wanted rest runs next (c :: name)

/-- The short names of the variation selectors, which are numbered in two runs. -/
def selectorAliases : List (String × Nat) :=
  (List.range 256).map fun n => (s!"VS{n + 1}", if n < 16 then 0xfe00 + n else 0xe0100 + (n - 16))

/-! ## Names out of code points -/

/-- The number that hexadecimal digits stand for, in capitals. -/
def capitalHex? (digits : List Char) : Option Nat :=
  if digits.any Char.isLower then none else hexNumber? digits

/-- What is left of a text after a given beginning. -/
def after? : List Char → List Char → Option (List Char)
  | [], rest => some rest
  | _ :: _, [] => none
  | a :: start, b :: rest => if a == b then after? start rest else none

def ideographs : Ranges := [
  (0x3400, 0x4dbf), (0x4e00, 0x9fff), (0x20000, 0x2a6df), (0x2a700, 0x2b738), (0x2b740, 0x2b81d),
  (0x2b820, 0x2cea1), (0x2ceb0, 0x2ebe0), (0x30000, 0x3134a)]

/-- The beginnings of further names that end in the code point, with the code points. -/
def numberedNames : List (String × Ranges) := [
  ("CJK COMPATIBILITY IDEOGRAPH-", [(0xf900, 0xfa6d), (0xfa70, 0xfad9), (0x2f800, 0x2fa1d)]),
  ("KHITAN SMALL SCRIPT CHARACTER-", [(0x18b00, 0x18cd5)]),
  ("NUSHU CHARACTER-", [(0x1b170, 0x1b2fb)])]

/-- The code point of a name that ends in it. -/
def numberedCode? (name : List Char) : Option Nat :=
  numberedNames.findSome? fun (start, ranges) => do
    let digits ← after? start.toList name
    let code ← capitalHex? digits
    if ranges.has code && (digits.head?.map (· != '0')).getD false then some code else none

/-- The ideograph whose code point has the digits given, four or five of them. -/
def ideograph? (digits : List Char) : Option Nat := do
  let code ← capitalHex? digits
  if (digits.length == 4 || digits.length == 5) && ideographs.has code then some code else none

/-! ## Names of syllables -/

def leadingSounds : List String := [
  "G", "GG", "N", "D", "DD", "R", "M", "B", "BB", "S", "SS", "", "J", "JJ", "C", "K", "T", "P", "H"]

def vowelSounds : List String := [
  "A", "AE", "YA", "YAE", "EO", "E", "YEO", "YE", "O", "WA", "WAE", "OE", "YO", "U", "WEO", "WE", "WI",
  "YU", "EU", "YI", "I"]

def trailingSounds : List String := [
  "", "G", "GG", "GS", "N", "NJ", "NH", "D", "L", "LG", "LM", "LB", "LS", "LT", "LP", "LH", "M", "B",
  "BS", "S", "SS", "NG", "J", "C", "K", "T", "P", "H"]

/-- The longest of some sounds that a text begins with, by its position, and the rest of the text. -/
def longestSound? (sounds : List String) (text : List Char) : Option (Nat × List Char) :=
  let found := sounds.zipIdx.filterMap fun (sound, i) => (after? sound.toList text).map (i, ·)
  found.foldl (fun best candidate =>
    match best with
    | none => some candidate
    | some (i, rest) => if candidate.2.length < rest.length then some candidate else some (i, rest)) none

/-- The syllable that is spelled by its sounds. -/
def syllable? (spelling : List Char) : Option Nat := do
  let (leading, rest) ← longestSound? leadingSounds spelling
  let (vowel, rest) ← longestSound? vowelSounds rest
  let (trailing, rest) ← longestSound? trailingSounds rest
  if rest.isEmpty then
    some (0xac00 + (leading * vowelSounds.length + vowel) * trailingSounds.length + trailing)
  else
    none

/-! ## All names -/

/-- The code point of the character with a name. -/
def codeNamed? (name : String) : Option Nat :=
  let characters := name.toList
  if characters.isEmpty then
    none
  else if let some spelling := after? "HANGUL SYLLABLE ".toList characters then
    syllable? spelling
  else if let some digits := after? "CJK UNIFIED IDEOGRAPH-".toList characters then
    ideograph? digits
  else
    let capitals := characters.map Char.toUpper
    (selectorAliases.lookup (String.ofList capitals)).orElse fun _ =>
      (numberedCode? capitals).orElse fun _ =>
        findName capitals.reverse nameTable.get nameRuns 0 []

end SchemaGuard.Text
