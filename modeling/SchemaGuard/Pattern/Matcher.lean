import SchemaGuard.Pattern.Parser
import SchemaGuard.Text.Casing
import SchemaGuard.Text.Word

/-!
# Matching patterns

A pattern is looked for anywhere in a text, by trying the ways it can match in order of preference
and going back when what follows does not match. A matcher is given a position, the ends of groups
passed so far and what must still match after it; it answers with the first way in which everything matches.

A repetition counts its rounds. Once the least number is reached, a round that starts where the one
before it started is not tried, so after the least number of rounds each pair of rounds moves on, and
the length of the text bounds the rounds.
-/

namespace SchemaGuard.Pattern

/-! ## Characters -/

def isAsciiWord (code : Nat) : Bool :=
  (0x30 ≤ code && code ≤ 0x39) || (0x41 ≤ code && code ≤ 0x5a) || (0x61 ≤ code && code ≤ 0x7a) ||
    code == 0x5f

def isWord (ascii : Bool) (c : Char) : Bool :=
  if ascii then isAsciiWord c.toNat else Text.isWordPart c

def Category.holds (ascii : Bool) (c : Char) : Category → Bool
  | .digit => if ascii then c.isDigit else (Text.decimalValue? c).isSome
  | .space => if ascii then isVerboseBlank c else Text.isBlank c
  | .word => isWord ascii c

/-- The lower case of a code point; with `ascii`, of ASCII letters alone. -/
def lower (ascii : Bool) (code : Nat) : Nat :=
  if ascii && code ≥ 0x80 then code else Text.lowerCode code

/-- The lower case code points that count as equal to one, regardless of case. -/
def variants (ascii : Bool) (code : Nat) : List Nat :=
  if ascii then [code] else code :: Text.alternatesOf code

/-- The code points whose lower case is a given one. -/
def lowering (ascii : Bool) (code : Nat) : List Nat :=
  let capitals :=
    if ascii then
      if 0x61 ≤ code && code ≤ 0x7a then [code - 0x20] else []
    else
      (if 0x61 ≤ code && code ≤ 0x7a then [code - 0x20] else []) ++
        Text.lowerRuns.filterMap fun run =>
          if run.image ≤ code && code ≤ run.image + (run.last - run.first) &&
              (code - run.image) % run.step == 0 then
            some (run.first + (code - run.image))
          else
            none
  if lower ascii code == code then code :: capitals else capitals

/-- The code points that equal a given one, itself in lower case, regardless of case. -/
def foldings (ascii : Bool) (code : Nat) : List Nat :=
  (variants ascii code).flatMap (lowering ascii)

/-- The upper case of a code point, the first character of it if there are several. -/
def upper (code : Nat) : Nat := ((Text.upper (Char.ofNat code)).head?.map Char.toNat).getD code

/-- The first code point beyond the basic plane. -/
def basicPlane : Nat := 0x10000

/-- Whether a character is a code point of the pattern. -/
def matchesCode (flags : Flags) (code : Nat) (c : Char) : Bool :=
  if flags.ignoreCase then
    (variants flags.ascii (lower flags.ascii code)).contains (lower flags.ascii c.toNat)
  else
    code == c.toNat

/-- Whether a character is a member as written. -/
def SetItem.holds (ascii : Bool) (c : Char) : SetItem → Bool
  | .code wanted => wanted == c.toNat
  | .range low high => low ≤ c.toNat && c.toNat ≤ high
  | .category negated kind => kind.holds ascii c != negated

/-- Whether a character, given in lower case, is a member regardless of case. Beyond the basic plane
members are taken as they are written: a code point is only met by itself, a range also by a
character whose upper case lies in it. -/
def SetItem.holdsFolded (ascii : Bool) (c : Char) : SetItem → Bool
  | .code wanted =>
    if lower ascii wanted < basicPlane then (variants ascii (lower ascii wanted)).contains c.toNat
    else wanted == c.toNat
  | .range low high =>
    let among (code : Nat) : Bool := low ≤ code && code ≤ high
    (foldings ascii c.toNat).any (fun code => code < basicPlane && among code) ||
      (basicPlane ≤ high && (among c.toNat || among (upper c.toNat)))
  | .category negated kind => kind.holds ascii c != negated

/-- Whether a character is outside or inside of a set. A set of one code point is met as that code
point is. -/
def matchesSet (flags : Flags) (negated : Bool) (items : List SetItem) (c : Char) : Bool :=
  let isMember :=
    match items with
    | [.code wanted] => matchesCode flags wanted c
    | items =>
      if flags.ignoreCase then
        items.any (SetItem.holdsFolded flags.ascii (Char.ofNat (lower flags.ascii c.toNat)))
      else
        items.any (SetItem.holds flags.ascii c)
  isMember != negated

/-! ## Places -/

/-- Whether a word starts or ends at a position. -/
def atBoundary (ascii : Bool) (text : Array Char) (position : Nat) : Bool :=
  let wordAt (i : Nat) : Bool := (text[i]?.map (isWord ascii)).getD false
  let before := 0 < position && wordAt (position - 1)
  before != wordAt position

/-- Whether an anchor holds at a position. In the empty text there are no boundaries, nor places that
are none. -/
def Anchor.holds (flags : Flags) (text : Array Char) (position : Nat) : Anchor → Bool
  | .lineStart => position = 0 || (flags.multiline && text[position - 1]? == some '\n')
  | .lineEnd =>
    position = text.size || (text[position]? == some '\n' && (flags.multiline || position + 1 = text.size))
  | .textStart => position = 0
  | .textEnd => position = text.size
  | .boundary => text.size != 0 && atBoundary flags.ascii text position
  | .notBoundary => text.size != 0 && !atBoundary flags.ascii text position

/-! ## Matching -/

/-- An end of a group. -/
inductive Edge where
  | start
  | stop
deriving DecidableEq

/-- Where groups begin and end, latest first. A group that is entered again begins at a new place while
it still ends at the old one. -/
abbrev Marks := List ((Nat × Edge) × Nat)

/-- Where a group begins and ends, if it has been passed and not been entered again beyond its end. -/
def Marks.span? (marks : Marks) (group : Nat) : Option (Nat × Nat) :=
  match marks.lookup (group, .start), marks.lookup (group, .stop) with
  | some start, some stop => if start ≤ stop then some (start, stop) else none
  | _, _ => none

/-- A position reached, and the ends of groups passed on the way. -/
structure Reached where
  position : Nat
  marks : Marks

/-- Notes an end of a group here. -/
def Reached.mark (here : Reached) (group : Nat) (edge : Edge) : Reached :=
  { here with marks := ((group, edge), here.position) :: here.marks }

/-- What must still match. -/
abbrev Next := Reached → Option Reached

/-- A part of a pattern, as what it does before what must still match. -/
abbrev Part := Reached → Next → Option Reached

/-- Matches one character. -/
def one (text : Array Char) (isWanted : Char → Bool) : Part := fun here next =>
  match text[here.position]? with
  | some c => if isWanted c then next { here with position := here.position + 1 } else none
  | none => none

/-- Rounds of a repetition that gives back what it took. `last` is where the latest optional round
started. -/
def rounds (body : Part) (isLazy : Bool) (least : Nat) (most : Option Nat) (next : Next) :
    Nat → Nat → Option Nat → Reached → Option Reached
  | 0, _, _, _ => none
  | fuel + 1, count, last, here =>
    if count < least then
      body here (rounds body isLazy least most next fuel (count + 1) last)
    else
      let isOpen : Bool :=
        (match most with
          | some most => count < most
          | none => true) && last != some here.position
      let another (_ : Unit) : Option Reached :=
        if isOpen then body here (rounds body isLazy least most next fuel (count + 1) (some here.position))
        else none
      if isLazy then (next here).orElse another else (another ()).orElse fun _ => next here

/-- Rounds of a repetition that keeps what it took: how far they come. -/
def kept (body : Part) (least : Nat) (most : Option Nat) :
    Nat → Nat → Option Nat → Reached → Option Reached
  | 0, _, _, _ => none
  | fuel + 1, count, last, here =>
    if count < least then
      match body here some with
      | some there => kept body least most fuel (count + 1) last there
      | none => none
    else
      let isOpen : Bool :=
        (match most with
          | some most => count < most
          | none => true) && last != some here.position
      if isOpen then
        match body here some with
        | some there => kept body least most fuel (count + 1) (some here.position) there
        | none => some here
      else
        some here

/-- The characters of a captured group. -/
def captured? (text : Array Char) (marks : Marks) (group : Nat) : Option (List Char) :=
  (marks.span? group).map fun (start, stop) => (text.extract start stop).toList

/-- Matches given characters. -/
def literally (flags : Flags) (text : Array Char) (wanted : List Char) : Part := fun here next =>
  let found := (text.extract here.position (here.position + wanted.length)).toList
  let equal (a b : Char) : Bool :=
    if flags.ignoreCase then lower flags.ascii a.toNat == lower flags.ascii b.toNat else a == b
  if found.length == wanted.length && (found.zip wanted).all fun (a, b) => equal a b then
    next { here with position := here.position + wanted.length }
  else
    none

mutual

/-- What a pattern does. -/
def Expr.part (text : Array Char) (flags : Flags) : Expr → Part
  | .code wanted => one text (matchesCode flags wanted)
  | .any => one text fun c => flags.dotAll || c != '\n'
  | .set negated items => one text (matchesSet flags negated items)
  | .anchor place => fun here next => if place.holds flags text here.position then next here else none
  | .sequence parts => sequencePart text flags parts
  | .choice options => choicePart text flags options
  | .capture group body => fun here next =>
    body.part text flags (here.mark group .start) fun there => next (there.mark group .stop)
  | .flagged on off body => body.part text (flags.inside on off)
  | .atomic body => fun here next =>
    match body.part text flags here some with
    | some there => next there
    | none => none
  | .repeated .possessive least most body => fun here next =>
    match kept (body.part text flags) least most (least + 2 * text.size + 3) 0 none here with
    | some there => next there
    | none => none
  | .repeated greed least most body => fun here next =>
    rounds (body.part text flags) (greed == .lazy) least most next (least + 2 * text.size + 3) 0 none here
  | .backReference group => fun here next =>
    match captured? text here.marks group with
    | some wanted => literally flags text wanted here next
    | none => none
  | .look ahead negated width body => fun here next =>
    let start := if ahead then here.position else here.position - width
    let isRoom : Bool := ahead || width ≤ here.position
    let found := if isRoom then body.part text flags { here with position := start } some else none
    match found, negated with
    | some there, false => next { there with position := here.position }
    | none, true => next here
    | _, _ => none
  | .conditional group present absent => fun here next =>
    if (here.marks.span? group).isSome then present.part text flags here next
    else absent.part text flags here next

/-- Parts one after another. -/
def sequencePart (text : Array Char) (flags : Flags) : List Expr → Part
  | [] => fun here next => next here
  | part :: parts => fun here next =>
    part.part text flags here fun there => sequencePart text flags parts there next

/-- Options, the first preferred. -/
def choicePart (text : Array Char) (flags : Flags) : List Expr → Part
  | [] => fun _ _ => none
  | option :: options => fun here next =>
    (option.part text flags here next).orElse fun _ => choicePart text flags options here next

end

/-! ## Searching -/

/-- Whether a code point has a lower or upper case other than itself. -/
def isCased (ascii : Bool) (code : Nat) : Bool :=
  if ascii then (Char.ofNat code).isAlpha else lower ascii code != code || upper code != code

/-- Whether no case of a member is another character. -/
def SetItem.isCaseless (ascii : Bool) : SetItem → Bool
  | .code wanted => !isCased ascii wanted
  | .range low high =>
    high < basicPlane && (List.range (high + 1 - low)).all fun i => !isCased ascii (low + i)
  | .category _ _ => true

def SetItem.isCategory : SetItem → Bool
  | .category _ _ => true
  | _ => false

/-- The set with a category in it that a match starts with, unless its case is ignored and matters. -/
def Expr.startSet? (flags : Flags) : Expr → Option (Bool × List SetItem)
  | .sequence (part :: _) => part.startSet? flags
  | .capture _ body => body.startSet? flags
  | .flagged on off body => body.startSet? (flags.inside on off)
  | .set negated items =>
    if items.any SetItem.isCategory && (!flags.ignoreCase || items.all (SetItem.isCaseless flags.ascii)) then
      some (negated, items)
    else
      none
  | _ => none

/-- Whether a match is looked for at a position. A set that a match starts with is first tried by the
flags of the whole pattern, whatever flags it stands under. -/
def mayStart (pattern : Pattern) (text : Array Char) (position : Nat) : Bool :=
  match pattern.expr.startSet? pattern.flags, text[position]? with
  | none, _ => true
  | some _, none => false
  | some (negated, items), some c => items.any (SetItem.holds pattern.flags.ascii c) != negated

/-- Whether a pattern matches somewhere in a text. -/
def matchesSomewhere (pattern : Pattern) (text : String) : Bool :=
  let characters := text.toList.toArray
  (List.range (characters.size + 1)).any fun position =>
    mayStart pattern characters position &&
      (pattern.expr.part characters pattern.flags ⟨position, []⟩ some).isSome

end SchemaGuard.Pattern
