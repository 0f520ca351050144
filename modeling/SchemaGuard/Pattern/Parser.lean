import SchemaGuard.Json.Reader
import SchemaGuard.Pattern.Expr
import SchemaGuard.Text.Blank
import SchemaGuard.Text.CharacterName
import SchemaGuard.Text.Digit
import SchemaGuard.Text.Identifier

/-!
# Reading patterns

From the text of a pattern to its structure. Most refusals need no explanation, because the caller
only skips the pattern; the few that stop a whole run are told apart.

A pattern is read as tokens, a character or a backslash with the character after it, one token ahead.
A backslash at the end of the text is refused as soon as it comes next. Every call of the reader takes
a token or descends into a group that has taken one, so twice the length of the text bounds the
recursion.
-/

namespace SchemaGuard

/-- Why a text is not a pattern. -/
inductive PatternError where
  | invalid
  | repetitionTooLarge
  | longInteger (digits : Nat)
  | flagClash
  | tooFarBehind
  | codeTooLarge
deriving DecidableEq

namespace Pattern

inductive Token where
  | char (c : Char)
  | escape (c : Char)
  | dangling
deriving DecidableEq

def tokens : List Char → List Token
  | [] => []
  | '\\' :: c :: rest => .escape c :: tokens rest
  | ['\\'] => [.dangling]
  | c :: rest => .char c :: tokens rest

/-- What the reader keeps. -/
structure State where
  source : List Token
  /-- The flags set for the whole pattern. -/
  flags : Flags
  /-- The groups that have names. -/
  names : List (String × Nat)
  /-- The widths of the groups; an open group has none yet. The first stands for the whole match. -/
  widths : List (Option Width)
  /-- Inside a look behind, how many groups were open or closed before it. -/
  behind : Option Nat
  /-- The groups that conditions ask about. -/
  conditions : List Nat
  /-- Whether something is repeated. -/
  repeats : Bool
  /-- Whether something of no fixed width is looked for behind. -/
  unfixed : Bool
  /-- The greatest width of what is looked for behind. -/
  reach : Nat

abbrev Read := StateT State (Except PatternError)

def refuse {α : Type} : Read α := throw .invalid

def peek : Read (Option Token) := return (← get).source.head?

/-- Takes a token; the one after it must not be a backslash without a character. -/
def advance : Read Unit := do
  let rest := (← get).source.drop 1
  if rest.head? == some .dangling then
    refuse
  modify fun state => { state with source := rest }

def take? : Read (Option Token) := do
  let token ← peek
  advance
  return token

/-- Takes a given character if it is next. -/
def accept (c : Char) : Read Bool := do
  if (← peek) == some (.char c) then
    advance
    return true
  else
    return false

def expect (c : Char) : Read Unit := do
  if !(← accept c) then
    refuse

/-- Takes characters of a kind, up to a number of them. -/
def takeWhile (isWanted : Char → Bool) : Nat → Read (List Char)
  | 0 => return []
  | most + 1 => do
    match ← peek with
    | some (.char c) =>
      if isWanted c then
        advance
        return c :: (← takeWhile isWanted most)
      else
        return []
    | _ => return []

/-- Takes what stands before a character, and the character. What is taken must not be empty. -/
def takeUntil (terminator : Char) : Nat → List Char → Read (List Char)
  | 0, _ => refuse
  | fuel + 1, found => do
    match ← take? with
    | none => refuse
    | some .dangling => refuse
    | some (.escape c) => takeUntil terminator fuel (c :: '\\' :: found)
    | some (.char c) =>
      if c == terminator then
        if found.isEmpty then refuse else return found.reverse
      else
        takeUntil terminator fuel (c :: found)

/-! ## Escapes -/

def isOctal (c : Char) : Bool := '0' ≤ c && c ≤ '7'

def octalValue (digits : List Char) : Nat :=
  digits.foldl (fun n c => 8 * n + (c.toNat - '0'.toNat)) 0

/-- A code point by a number of hexadecimal digits. A number that a signed word of 32 bits does not hold
is told apart from other numbers that are no code points. -/
def hexEscape (count : Nat) : Read Nat := do
  let digits ← takeWhile Text.isHexDigit count
  match Text.hexNumber? digits with
  | some code =>
    if digits.length ≠ count then
      refuse
    else if code > 0x7fffffff then
      throw .codeTooLarge
    else if code > 0x10ffff then
      refuse
    else
      return code
  | none => refuse

/-- The control characters with escapes of their own, but for the backspace. -/
def controlEscape? : Char → Option Nat
  | 'a' => some 7
  | 'f' => some 12
  | 'n' => some 10
  | 'r' => some 13
  | 't' => some 9
  | 'v' => some 11
  | '\\' => some 92
  | _ => none

def categoryEscape? : Char → Option SetItem
  | 'd' => some (.category false .digit)
  | 'D' => some (.category true .digit)
  | 's' => some (.category false .space)
  | 'S' => some (.category true .space)
  | 'w' => some (.category false .word)
  | 'W' => some (.category true .word)
  | _ => none

def anchorEscape? : Char → Option Anchor
  | 'A' => some .textStart
  | 'b' => some .boundary
  | 'B' => some .notBoundary
  | 'Z' => some .textEnd
  | _ => none

/-- A code point by the name of its character, in braces. -/
def nameEscape : Read Nat := do
  expect '\x7b'
  let name ← takeUntil '\x7d' ((← get).source.length + 1) []
  match Text.codeNamed? (String.ofList name) with
  | some code => return code
  | none => refuse

/-- The code point of an escape that is written alike inside and outside of sets. A letter without a
meaning is refused; any other character stands for itself. -/
def plainEscape (c : Char) : Read Nat := do
  if c == 'x' then
    hexEscape 2
  else if c == 'u' then
    hexEscape 4
  else if c == 'U' then
    hexEscape 8
  else if c == 'N' then
    nameEscape
  else if c.isAlpha || c.isDigit then
    refuse
  else
    return c.toNat

/-- An octal escape of up to three digits, at most `0o377`. -/
def octalEscape (first : Char) : Read Nat := do
  let code := octalValue (first :: (← takeWhile isOctal 2))
  if code > 0o377 then refuse else return code

/-- An escape inside a set. -/
def setEscape (c : Char) : Read SetItem := do
  if c == 'b' then
    return .code 8
  else if let some code := controlEscape? c then
    return .code code
  else if let some item := categoryEscape? c then
    return item
  else if isOctal c then
    return .code (← octalEscape c)
  else
    return .code (← plainEscape c)

/-- Whether a group is closed. -/
def isClosed (group : Nat) : Read Bool := do
  match (← get).widths[group]? with
  | some (some _) => return true
  | _ => return false

/-- Inside a look behind, a group must have been closed before it. -/
def checkBehind (group : Nat) : Read Unit := do
  match (← get).behind with
  | none => return
  | some before => if !(← isClosed group) || group ≥ before then refuse

/-- A reference to a group, which must be closed. -/
def reference (group : Nat) : Read Expr := do
  if !(← isClosed group) then
    refuse
  checkBehind group
  return .backReference group

/-- An escape that starts with a digit other than zero: three octal digits are a code point, other
digits, two at most, a reference. -/
def numberEscape (first : Char) : Read Expr := do
  let second ← takeWhile Char.isDigit 1
  let third ←
    if second.all isOctal && !second.isEmpty && isOctal first then takeWhile isOctal 1 else pure []
  if third.isEmpty then
    reference (Json.Reader.digitsValue (first :: second))
  else
    let code := octalValue (first :: second ++ third)
    if code > 0o377 then refuse else return .code code

/-- An escape outside of sets. -/
def escape (c : Char) : Read Expr := do
  if let some anchor := anchorEscape? c then
    return .anchor anchor
  else if let some item := categoryEscape? c then
    return .set false [item]
  else if let some code := controlEscape? c then
    return .code code
  else if c == '0' then
    return .code (octalValue (← takeWhile isOctal 2))
  else if c.isDigit then
    numberEscape c
  else
    return .code (← plainEscape c)

/-! ## Sets -/

/-- One end of a range or a member on its own. -/
def setItem : Token → Read SetItem
  | .char c => return .code c.toNat
  | .escape c => setEscape c
  | .dangling => refuse

/-- Reads the members of a set and its closing bracket, which is a member if it comes first. -/
def setItems : Nat → List SetItem → Read (List SetItem)
  | 0, _ => refuse
  | fuel + 1, found => do
    match ← take? with
    | none => refuse
    | some token =>
      if token == .char ']' && !found.isEmpty then
        return found.reverse
      let low ← setItem token
      if ← accept '-' then
        match ← take? with
        | none => refuse
        | some (.char ']') => return (.code '-'.toNat :: low :: found).reverse
        | some token =>
          match low, ← setItem token with
          | .code low, .code high =>
            if high < low then refuse else setItems fuel (.range low high :: found)
          | _, _ => refuse
      else
        setItems fuel (low :: found)

/-! ## Flags -/

def flag? : Char → Option Flags
  | 'i' => some { Flags.none with ignoreCase := true }
  | 'm' => some { Flags.none with multiline := true }
  | 's' => some { Flags.none with dotAll := true }
  | 'x' => some { Flags.none with verbose := true }
  | 'a' => some { Flags.none with ascii := true }
  | 'u' => some { Flags.none with unicode := true }
  | 't' => some { Flags.none with template := true }
  | _ => none

/-- What ends a list of flags. -/
inductive FlagsEnd where
  | global
  | scope
  | off

/-- Reads flags to turn on, the first of which is given. -/
def flagsOn : Nat → Flags → Char → Read (Flags × FlagsEnd)
  | 0, _, _ => refuse
  | fuel + 1, found, c => do
    match flag? c with
    | none => refuse
    | some flag =>
      let found := found.union flag
      if found.ascii && found.unicode then
        refuse
      match ← take? with
      | some (.char ')') => return (found, .global)
      | some (.char ':') => return (found, .scope)
      | some (.char '-') => return (found, .off)
      | some (.char c) => flagsOn fuel found c
      | _ => refuse

/-- Reads flags to turn off, up to the colon. -/
def flagsOff : Nat → Flags → Read Flags
  | 0, _ => refuse
  | fuel + 1, found => do
    match ← take? with
    | some (.char c) =>
      match flag? c with
      | none => refuse
      | some flag =>
        if flag.ascii || flag.unicode then
          refuse
        let found := found.union flag
        if ← accept ':' then return found else flagsOff fuel found
    | _ => refuse

/-- Reads the flags of a group, of which the first character is given: flags for the whole pattern,
or those that the group turns on and off. -/
def groupFlags (fuel : Nat) (first : Char) : Read (Option (Flags × Flags)) := do
  let (on, after) ← if first == '-' then pure (Flags.none, FlagsEnd.off) else flagsOn fuel Flags.none first
  match after with
  | .global =>
    modify fun state => { state with flags := state.flags.union on }
    return none
  | .scope => if on.template then refuse else return some (on, Flags.none)
  | .off =>
    if on.template then
      refuse
    let off ← flagsOff fuel Flags.none
    if off.template || on.inter off != Flags.none then refuse else return some (on, off)

/-! ## Groups -/

/-- Opens the next group. -/
def openGroup (name : Option String) : Read Nat := do
  let state ← get
  let group := state.widths.length
  let names ←
    match name with
    | none => pure state.names
    | some name => if state.names.any (·.1 == name) then refuse else pure ((name, group) :: state.names)
  set { state with widths := state.widths ++ [none], names }
  return group

/-- The widths of the closed groups. -/
def groupWidth (widths : List (Option Width)) (group : Nat) : Width :=
  (widths[group]?.join).getD (.exactly 0)

def closeGroup (group : Nat) (body : Expr) : Read Unit :=
  modify fun state =>
    { state with widths := state.widths.set group (some (body.width (groupWidth state.widths))) }

/-- The name of a group. -/
def groupName (terminator : Char) : Read String := do
  let name := String.ofList (← takeUntil terminator ((← get).source.length + 1) [])
  if Text.isIdentifier name then return name else refuse

/-- The group of a name. -/
def namedGroup (name : String) : Read Nat := do
  match (← get).names.lookup name with
  | some group => return group
  | none => refuse

/-- Drops single underscores between digits; other underscores are kept. -/
def dropUnderscores : List Char → List Char
  | a :: '_' :: b :: rest =>
    if (Text.decimalValue? a).isSome && (Text.decimalValue? b).isSome then
      a :: dropUnderscores (b :: rest)
    else
      a :: '_' :: dropUnderscores (b :: rest)
  | c :: rest => c :: dropUnderscores rest
  | [] => []

/-- The number of a group: decimal digits, possibly between blanks, with a plus sign and with
underscores between digits. -/
def groupNumber? (text : String) : Option Nat :=
  let trimmed := (Text.trim text).toList
  let unsigned := if trimmed.head? == some '+' then trimmed.drop 1 else trimmed
  let digits := dropUnderscores unsigned
  if digits.isEmpty || digits.length > Json.maxDigits then none else Text.decimalNumber? digits

/-- The number of groups that no pattern reaches. -/
def maxGroups : Nat := 1073741824

/-- The group that a condition asks about, which need not have been opened yet if it is a number. -/
def conditionGroup : Read Nat := do
  let name := String.ofList (← takeUntil ')' ((← get).source.length + 1) [])
  let group ←
    if Text.isIdentifier name then
      namedGroup name
    else
      match groupNumber? name with
      | none => refuse
      | some number =>
        if number = 0 || number ≥ maxGroups then
          refuse
        modify fun state => { state with conditions := number :: state.conditions }
        pure number
  checkBehind group
  return group

/-! ## Repetition -/

def repeatNumber (digits : List Char) : Read Nat := do
  if digits.length > Json.maxDigits then
    throw (.longInteger digits.length)
  let number := Json.Reader.digitsValue digits
  if number ≥ maxRepeat then throw .repetitionTooLarge else return number

/-- Reads the bounds after an opening brace, and the closing one. Nothing is taken if the brace stands
for itself. -/
def bounds? : Read (Option (Nat × Option Nat)) := do
  let start ← get
  if (← peek) == some (.char '\x7d') then
    return none
  let length := start.source.length + 1
  let low ← takeWhile Char.isDigit length
  let high ← if ← accept ',' then takeWhile Char.isDigit length else pure low
  if !(← accept '\x7d') then
    set start
    return none
  let least ← if low.isEmpty then pure 0 else repeatNumber low
  if high.isEmpty then
    return some (least, none)
  let most ← repeatNumber high
  if most < least then refuse else return some (least, some most)

/-- Whether a part of a pattern can be repeated: a place cannot, nor can a repetition. -/
def isRepeatable : Expr → Bool
  | .anchor _ => false
  | .repeated _ _ _ _ => false
  | _ => true

/-- Reads what follows the bounds of a repetition. -/
def repeatGreed : Read Greed := do
  if ← accept '?' then
    return .lazy
  if ← accept '+' then
    return .possessive
  return .greedy

/-- Repeats the last part read. The parts are given last first. -/
def repeatLast (least : Nat) (most : Option Nat) : List Expr → Read (List Expr)
  | [] => refuse
  | last :: others => do
    if !isRepeatable last then
      refuse
    let greed ← repeatGreed
    modify fun state => { state with repeats := true }
    return .repeated greed least most last :: others

/-! ## The reader -/

def isVerboseBlank (c : Char) : Bool :=
  c == ' ' || c == '\t' || c == '\n' || c == '\r' || c == '\x0b' || c == '\x0c'

/-- Skips a comment, up to the end of its line. -/
def skipLine : Nat → Read Unit
  | 0 => return
  | fuel + 1 => do
    match ← take? with
    | none => return
    | some token => if token == .char '\n' then return else skipLine fuel

/-- Skips a comment, up to its closing parenthesis. -/
def skipComment : Nat → Read Unit
  | 0 => refuse
  | fuel + 1 => do
    match ← take? with
    | none => refuse
    | some token => if token == .char ')' then return else skipComment fuel

/-- What follows the opening of a group. -/
inductive Opening where
  | capture (name : Option String)
  | scope (on off : Flags)
  | atomic
  | look (ahead negated : Bool)
  | condition (group : Nat)
  | reference (group : Expr)
  | comment
  | global

/-- Reads what kind of group is opened. -/
def opening (fuel : Nat) : Read Opening := do
  if !(← accept '?') then
    return .capture none
  match ← take? with
  | some (.char 'P') =>
    if ← accept '<' then
      return .capture (some (← groupName '>'))
    else if ← accept '=' then
      return .reference (← reference (← namedGroup (← groupName ')')))
    else
      refuse
  | some (.char ':') => return .scope Flags.none Flags.none
  | some (.char '#') =>
    skipComment fuel
    return .comment
  | some (.char '=') => return .look true false
  | some (.char '!') => return .look true true
  | some (.char '<') =>
    match ← take? with
    | some (.char '=') => return .look false false
    | some (.char '!') => return .look false true
    | _ => refuse
  | some (.char '(') => return .condition (← conditionGroup)
  | some (.char '>') => return .atomic
  | some (.char c) =>
    match ← groupFlags fuel c with
    | none => return .global
    | some (on, off) => return .scope on off
  | _ => refuse

mutual

/-- Reads options divided by bars. The first option of the whole pattern may start with flags. -/
def readChoice : Nat → Bool → Bool → Read Expr
  | 0, _, _ => refuse
  | fuel + 1, verbose, outermost => do
    let first ← readSequence fuel verbose outermost []
    match ← readOptions fuel verbose outermost with
    | [] => return first
    | others => return .oneOf first.parts (others.map Expr.parts)

/-- Reads the options after the first. -/
def readOptions : Nat → Bool → Bool → Read (List Expr)
  | 0, _, _ => refuse
  | fuel + 1, verbose, outermost => do
    if ← accept '|' then
      let state ← get
      let verbose := if outermost then state.flags.verbose else verbose
      let option ← readSequence fuel verbose false []
      return option :: (← readOptions fuel verbose outermost)
    else
      return []

/-- Reads one part after another; the parts found are given last first. -/
def readSequence : Nat → Bool → Bool → List Expr → Read Expr
  | 0, _, _, _ => refuse
  | fuel + 1, verbose, first, found => do
    match ← peek with
    | none => return .sequence (dissolved found.reverse)
    | some .dangling => refuse
    | some (.escape c) =>
      advance
      readSequence fuel verbose first ((← escape c) :: found)
    | some (.char c) =>
      if c == '|' || c == ')' then
        return .sequence (dissolved found.reverse)
      advance
      if verbose && isVerboseBlank c then
        readSequence fuel verbose first found
      else if verbose && c == '#' then
        skipLine fuel
        readSequence fuel verbose first found
      else
        match c with
        | '[' =>
          let negated ← accept '^'
          let items ← setItems fuel []
          readSequence fuel verbose first (Expr.ofMembers negated items.eraseDups :: found)
        | '?' => readSequence fuel verbose first (← repeatLast 0 (some 1) found)
        | '*' => readSequence fuel verbose first (← repeatLast 0 none found)
        | '+' => readSequence fuel verbose first (← repeatLast 1 none found)
        | '\x7b' =>
          match ← bounds? with
          | none => readSequence fuel verbose first (.code c.toNat :: found)
          | some (least, most) => readSequence fuel verbose first (← repeatLast least most found)
        | '.' => readSequence fuel verbose first (.any :: found)
        | '^' => readSequence fuel verbose first (.anchor .lineStart :: found)
        | '$' => readSequence fuel verbose first (.anchor .lineEnd :: found)
        | '(' =>
          match ← opening fuel with
          | .comment => readSequence fuel verbose first found
          | .global =>
            if !first || !found.isEmpty then
              refuse
            readSequence fuel (← get).flags.verbose first found
          | .reference group => readSequence fuel verbose first (group :: found)
          | .capture name =>
            let group ← openGroup name
            let body ← readChoice fuel verbose false
            expect ')'
            closeGroup group body
            readSequence fuel verbose first (.capture group body :: found)
          | .scope on off =>
            let inside := (verbose || on.verbose) && !off.verbose
            let body ← readChoice fuel inside false
            expect ')'
            readSequence fuel verbose first (.flagged on off body :: found)
          | .atomic =>
            let body ← readChoice fuel verbose false
            expect ')'
            readSequence fuel verbose first (.atomic body :: found)
          | .look ahead negated =>
            let before := (← get).behind
            if !ahead && before.isNone then
              modify fun state => { state with behind := some state.widths.length }
            let body ← readChoice fuel verbose false
            modify fun state => { state with behind := before }
            expect ')'
            let width := body.width (groupWidth (← get).widths)
            if !ahead then
              modify fun state =>
                { state with
                  unfixed := state.unfixed || width.least != width.greatest
                  reach := max state.reach width.least }
            readSequence fuel verbose first (.look ahead negated width.least body :: found)
          | .condition group =>
            let present ← readSequence fuel verbose false []
            let absent ← if ← accept '|' then readSequence fuel verbose false [] else pure (.sequence [])
            expect ')'
            readSequence fuel verbose first (.conditional group present absent :: found)
        | c => readSequence fuel verbose first (.code c.toNat :: found)

end

end Pattern

/-- A pattern: its structure and the flags for all of it. -/
structure Pattern where
  flags : Pattern.Flags
  expr : Pattern.Expr

namespace Pattern

/-- How far behind nothing can be looked for. -/
def unreachable : Nat := 2147483648

/-- Reads the text of a pattern. -/
def parse (text : String) : Except PatternError Pattern := do
  let source := tokens text.toList
  if source.head? == some .dangling then
    throw .invalid
  let start : State := ⟨source, Flags.none, [], [none], none, [], false, false, 0⟩
  let (expr, state) ← (readChoice (2 * source.length + 4) false true).run start
  if state.flags.ascii && state.flags.unicode then
    throw .flagClash
  if !state.source.isEmpty || state.conditions.any (· ≥ state.widths.length) then
    throw .invalid
  if state.unfixed || (state.flags.template && state.repeats) then
    throw .invalid
  if state.reach ≥ unreachable then
    throw .tooFarBehind
  return ⟨state.flags, expr⟩

end Pattern

end SchemaGuard
