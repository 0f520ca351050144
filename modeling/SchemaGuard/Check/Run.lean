import SchemaGuard.Check.Names
import SchemaGuard.Issue
import SchemaGuard.Pattern.Matcher
import SchemaGuard.Text.Normal

/-!
# Running checks

What the statements of a validator do, given what names stand for. Every way in which running them could
go wrong is a `Fault`: a name without a binding, a member that is not there, a helper that is hidden.

A statement is run by recursion on its structure. Validators call each other without such an order,
so `runAs` takes the number of calls that may be inside each other. A call either looks at something
inside the value of its caller or at that value itself; unless validators call each other in circles
on one value, the depth of the value times the number of validators is enough.
-/

namespace SchemaGuard.Check

/-- What a validator returns. -/
inductive Outcome where
  | success (value : Value)
  | failure (issues : List Issue)

namespace Outcome

def isFailure : Outcome → Bool
  | success _ => false
  | failure _ => true

/-- The issues of a failure. -/
def issues : Outcome → List Issue
  | success _ => []
  | failure issues => issues

end Outcome

/-- What a local name is bound to. -/
inductive Bound where
  | item (value : Value)
  | index (position : Nat)
  | key (name : String)
  | result (outcome : Outcome)
  | matchCount (count : Nat)
  /-- Whether the value passes a branch, found when it is called. -/
  | branch (passes : Unit → Except Fault Bool)

/-- The state of a function that is running: its value, its local names, the last bound first, and its
issues. -/
structure Frame where
  value : Value
  locals : List (Local × Bound)
  issues : List Issue

namespace Frame

def bind (frame : Frame) (name : Local) (bound : Bound) : Frame :=
  { frame with locals := (name, bound) :: frame.locals }

def lookup (frame : Frame) (name : Local) : Except Fault Bound :=
  match frame.locals.lookup name with
  | some bound => .ok bound
  | none => .error (.unbound name)

def report (frame : Frame) (issue : Issue) : Frame :=
  { frame with issues := frame.issues ++ [issue] }

end Frame

/-! ## Looking at values -/

/-- The items of an array. -/
def itemsOf : Value → Except Fault (List Value)
  | .list items => .ok items
  | .tuple items => .ok items
  | _ => .error .wrongType

/-- The members of an object. -/
def membersOf : Value → Except Fault (List (String × Value))
  | .dict members => .ok members
  | _ => .error .wrongType

def stringOf : Value → Except Fault String
  | .string text => .ok text
  | _ => .error .wrongType

def numberOf : Value → Except Fault Number
  | .number value => .ok value
  | _ => .error .wrongType

/-- How many parts a value has. -/
def lengthOf : Value → Except Fault Nat
  | .string text => .ok text.length
  | .bytes data => .ok data.length
  | .list items => .ok items.length
  | .tuple items => .ok items.length
  | .dict members => .ok members.length
  | _ => .error .wrongType

def itemAt (value : Value) (position : Nat) : Except Fault Value := do
  match (← itemsOf value)[position]? with
  | some item => return item
  | none => throw .noMember

def memberAt (value : Value) (key : String) : Except Fault Value := do
  match Table.get? (← membersOf value) key with
  | some member => return member
  | none => throw .noMember

def keyOf (frame : Frame) (name : Local) : Except Fault String := do
  match ← frame.lookup name with
  | .key key => return key
  | _ => throw .wrongType

def Operand.eval (frame : Frame) : Operand → Except Fault Value
  | value => .ok frame.value
  | item name => do
    match ← frame.lookup name with
    | .item bound => return bound
    | _ => throw .wrongType
  | position operand index => do itemAt (← operand.eval frame) index
  | member operand key => do Check.memberAt (← operand.eval frame) key
  | memberAt operand name => do Check.memberAt (← operand.eval frame) (← keyOf frame name)

/-- A value as a step of a path. -/
def stepOf : Value → Except Fault PathToken
  | .string name => .ok (.key name)
  | .number (.int position) => .ok (.index position)
  | .bool value => .ok (.flag value)
  | _ => .error .wrongType

def Step.eval (frame : Frame) : Step → Except Fault PathToken
  | key name => .ok (.key name)
  | index position => .ok (.index position)
  | bound name => do
    match ← frame.lookup name with
    | .key member => return .key member
    | .index position => return .index position
    | .item value => stepOf value
    | _ => throw .wrongType

/-! ## Tests -/

def isString : Value → Bool
  | .string _ => true
  | _ => false

def isBool : Value → Bool
  | .bool _ => true
  | _ => false

def isNull : Value → Bool
  | .null => true
  | _ => false

def isList : Value → Bool
  | .list _ => true
  | _ => false

def isTuple : Value → Bool
  | .tuple _ => true
  | _ => false

def isDict : Value → Bool
  | .dict _ => true
  | _ => false

/-- Whether a value is of a type. -/
def TypeTest.eval (names : Names) (value : Value) : TypeTest → Except Fault Bool
  | string => names.isInstance [(.text, isString value)]
  | number => names.test .numberTest value value.isNumber
  | integer => names.test .integerTest value value.isInteger
  | boolean => names.isInstance [(.truth, isBool value)]
  | null => .ok (isNull value)
  | array => names.isInstance [(.list, isList value), (.tuple, isTuple value)]
  | object => names.isInstance [(.dict, isDict value)]

/-- Whether a value is of one of some types; those after the first that it is of are not tried. -/
def anyType (names : Names) (value : Value) : List TypeTest → Except Fault Bool
  | [] => .ok false
  | type :: types => do if ← type.eval names value then return true else anyType names value types

def Comparison.ofNumbers : Comparison → Number → Number → Bool
  | lt, a, b => a.lt b
  | le, a, b => a.le b
  | gt, a, b => b.lt a
  | ge, a, b => b.le a
  | ne, a, b => !a.same b

/-- The name of the class of a bound on a count. -/
def Count.className : Count → String
  | int _ => "int"
  | flag _ => "bool"

/-- Compares the length of a value with a bound. A table differs from every bound and is not ordered. -/
def compareLength (names : Names) (value : Value) (comparison : Comparison) (bound : Count) :
    Except Fault Bool :=
  names.apply .length value
    (do return comparison.ofNumbers (.int (← lengthOf value)) (.int bound.toInt))
    fun _ => if comparison = .ne then .ok true else .error (.unordered comparison bound.className)

/-- A number, or a table in its place. -/
inductive Quantity where
  | count (number : Nat)
  | table
deriving DecidableEq

/-- Whether some items are the same. Tables of the same items are equal. -/
def repeats (names : Names) (value : Value) : Except Fault Bool := do
  let different ← names.apply .distinctCount value
    (do return Quantity.count (Value.countUnique (← itemsOf value))) fun _ => .ok .table
  let all ← names.apply .length value (do return Quantity.count (← lengthOf value)) fun _ => .ok .table
  return different != all

/-- Whether the value passes a branch. -/
def callBranch (frame : Frame) (name : Local) : Except Fault Bool := do
  match ← frame.lookup name with
  | .branch passes => passes ()
  | _ => throw .wrongType

/-- Whether the value passes one of some branches; those after the first that it passes are not
called. -/
def callUntil (frame : Frame) : List Local → Except Fault Bool
  | [] => .ok false
  | name :: names => do if ← callBranch frame name then return true else callUntil frame names

def matchCountOf (frame : Frame) (name : Local) : Except Fault Nat := do
  match ← frame.lookup name with
  | .matchCount count => return count
  | _ => throw .wrongType

def resultOf (frame : Frame) (name : Local) : Except Fault Outcome := do
  match ← frame.lookup name with
  | .result outcome => return outcome
  | _ => throw .wrongType

def Test.eval (names : Names) (frame : Frame) : Test → Except Fault Bool
  | notConst operand expected => do
    let value ← operand.eval frame
    names.call .equality 2
    return !value.same (.ofJson expected)
  | notEnum operand allowed => do
    let value ← operand.eval frame
    names.call .membership 2
    return !value.isOneOf (Value.ofItems allowed)
  | notType operand type => do return !(← type.eval names (← operand.eval frame))
  | noType operand types => do return !(← anyType names (← operand.eval frame) types)
  | notInteger operand => do return !(← TypeTest.integer.eval names (← operand.eval frame))
  | length operand comparison bound => do
    compareLength names (← operand.eval frame) comparison bound
  | number operand comparison bound => do
    return comparison.ofNumbers (← numberOf (← operand.eval frame)) bound
  | noMatch operand pattern => do
    names.operation .patterns "search"
    let text ← stringOf (← operand.eval frame)
    match Pattern.parse pattern with
    | .ok pattern => return !pattern.matchesSomewhere text
    | .error _ => throw .badPattern
  | notUnique operand => do repeats names (← operand.eval frame)
  | missing operand key => do return !Table.has (← membersOf (← operand.eval frame)) key
  | present operand key => do return Table.has (← membersOf (← operand.eval frame)) key
  | unknownKey name known => do return !known.contains (← keyOf frame name)
  | notOneMatch name => do return (← matchCountOf frame name) != 1
  | noBranch branches => do return !(← callUntil frame branches)
  | failed name => do
    let outcome ← resultOf frame name
    names.isInstance [(.failure, outcome.isFailure)]

def between (affixes : String × String) (text : String) : String := affixes.1 ++ text ++ affixes.2

/-- The length of a value as text. -/
def lengthText (names : Names) (value : Value) : Except Fault String :=
  names.apply .length value (do return toString (← lengthOf value)) fun table => .ok table.display

def Received.eval (names : Names) (frame : Frame) : Received → Except Fault String
  | typeName operand => do
    let value ← operand.eval frame
    names.describe .typeName value value.typeName
  | shown operand => do
    let value ← operand.eval frame
    names.describe .description value value.describe
  | itself operand => do stringOf (← operand.eval frame)
  | length counted operand => do
    return between counted.affixes (← lengthText names (← operand.eval frame))
  | fixed text => .ok text
  | key name => do
    let text ← keyOf frame name
    names.describe .text (.string text) text
  | matchCount name => do return between matchAffixes (toString (← matchCountOf frame name))

/-! ## Statements -/

/-- How a statement ends: the next one follows, or the function returns. A validator returns a
failure, a branch returns that the value is refused. -/
inductive Flow where
  | next (frame : Frame)
  | failed (issues : List Issue)
  | refused

/-- Goes on with what follows a statement. -/
def Flow.andThen (flow : Flow) (continuation : Frame → Except Fault Flow) : Except Fault Flow :=
  match flow with
  | next frame => continuation frame
  | failed issues => .ok (failed issues)
  | refused => .ok refused

/-- Runs the body of a loop once for each element. -/
def loop {α : Type} (body : α → Frame → Except Fault Flow) : List α → Frame → Except Fault Flow
  | [], frame => .ok (.next frame)
  | element :: elements, frame => do
    (← body element frame).andThen (loop body elements)

/-- What is gone through in a loop over items: the items from a position on, with their positions. -/
def enumerated (items : List Value) (start : Option Nat) : List (Value × Nat) :=
  items.zipIdx.drop (start.getD 0)

/-- A round of a loop over items: what its names for the position and for the item are bound to. -/
structure Round where
  index : Bound
  item : Bound

/-- The table that a hidden enumeration makes; the position to start from is an entry too. -/
def enumeratedTable (value : Value) : Option Nat → Except Fault ValueTable
  | none => ValueTable.ofValue value
  | some start => do
    let table ← ValueTable.ofValue (.list ((← itemsOf value).drop start))
    return table.put (.string "start") (.number (.int start))

/-- The rounds of a loop over items. Where enumeration is hidden, the keys of a table are gone through, and
each is taken apart, which may go wrong when its turn comes. -/
def roundsOf (names : Names) (value : Value) (start : Option Nat) :
    Except Fault (List (Except Fault Round)) :=
  match names .enumeration with
  | none => do
    return (enumerated (← itemsOf value) start).map fun (item, position) =>
      .ok ⟨.index position, .item item⟩
  | some .dictType => do
    return (← enumeratedTable value start).map fun entry =>
      (unpack entry.1).map fun (index, item) => ⟨.item index, .item item⟩
  | some .synonym => .error (if start.isSome then .argumentNamed "start" else .argumentsGiven 1)

/-- What a branch says when its body is done. -/
def verdict : Flow → Except Fault Bool
  | .next _ => .ok true
  | .refused => .ok false
  | .failed _ => .error .misplacedReturn

/-- How a validator is called by another. -/
abbrev Call := (name : String) → Value → Except Fault Outcome

mutual

/-- Runs a statement. -/
def Stmt.run (names : Names) (call : Call) (abortEarly : Bool) : Stmt → Frame → Except Fault Flow
  | .report code path expected received, frame => do
    let path ← path.mapM (Step.eval frame)
    let received ← received.eval names frame
    names.call .issue 5
    return .next (frame.report (.report code.name path expected received))
  | .abort true, _ => .ok .refused
  | .abort false, frame =>
    if abortEarly then do
      names.fail
      return .failed frame.issues
    else
      .ok (.next frame)
  | .ifElse test body orelse, frame => do
    if ← test.eval names frame then runAll names call abortEarly body frame
    else runAll names call abortEarly orelse frame
  | .forItems index item operand start body, frame => do
    let rounds ← roundsOf names (← operand.eval frame) start
    loop (fun round frame => do
        let round ← round
        runAll names call abortEarly body ((frame.bind index round.index).bind item round.item))
      rounds frame
  | .forKeys name operand body, frame => do
    let members ← membersOf (← operand.eval frame)
    loop (fun key frame => runAll names call abortEarly body (frame.bind name (.key key)))
      (Table.keys members) frame
  | .call result validator operand, frame => do
    let outcome ← call validator (← operand.eval frame)
    return .next (frame.bind result (.result outcome))
  | .takeOver result path, frame => do
    let outcome ← resultOf frame result
    let path ← path.mapM (Step.eval frame)
    return .next { frame with issues := frame.issues ++ outcome.issues.map (·.under path) }
  | .branch name body, frame =>
    let passes := fun _ => do verdict (← runAll names call abortEarly body { frame with issues := [] })
    .ok (.next (frame.bind name (.branch passes)))
  | .countMatches matchCount branches, frame => do
    let passed ← branches.mapM (callBranch frame)
    return .next (frame.bind matchCount (.matchCount (passed.count true)))

/-- Runs statements one after another. -/
def runAll (names : Names) (call : Call) (abortEarly : Bool) : List Stmt → Frame → Except Fault Flow
  | [], frame => .ok (.next frame)
  | statement :: statements, frame => do
    (← statement.run names call abortEarly frame).andThen (runAll names call abortEarly statements)

end

/-- What a validator returns when its body is done. -/
def outcome (names : Names) : Flow → Except Fault Outcome
  | .next frame =>
    if frame.issues.isEmpty then do
      names.succeed frame.value
      return .success frame.value
    else do
      names.fail
      return .failure frame.issues
  | .failed issues => .ok (.failure issues)
  | .refused => .error .misplacedReturn

/-- Runs a validator on a value. -/
def Validator.run (names : Names) (call : Call) (abortEarly : Bool) (validator : Validator) (value : Value) :
    Except Fault Outcome := do
  outcome names (← runAll names call abortEarly validator.body ⟨value, [], []⟩)

/-- The validator of a name: the last of those whose names have the same normal form. -/
def validatorNamed? (validators : List Validator) (name : String) : Option Validator :=
  (validators.filter fun validator => Text.normalForm validator.name == Text.normalForm name).getLast?

/-- Runs the validator of a name on a value; `fuel` is how many calls may be inside each other. -/
def runAs (names : Names) (validators : List Validator) (abortEarly : Bool) : Nat → Call
  | 0, _, _ => .error .tooDeep
  | fuel + 1, name, value =>
    match validatorNamed? validators name with
    | some validator => validator.run names (runAs names validators abortEarly fuel) abortEarly value
    | none => .error (.noValidator name)

/-- As many calls as validators that do not call each other in circles need. -/
def fuelForValue (validators : List Validator) (value : Value) : Nat :=
  (value.depth + 1) * (validators.length + 1)

/-- Runs the validator of a name on a value. -/
def validate (names : Names) (validators : List Validator) (abortEarly : Bool) (name : String)
    (value : Value) : Except Fault Outcome :=
  runAs names validators abortEarly (fuelForValue validators value) name value

end SchemaGuard.Check
