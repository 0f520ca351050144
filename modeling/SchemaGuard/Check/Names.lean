import SchemaGuard.Check.Fault
import SchemaGuard.Value.Equality

/-!
# Names in validators

Validators use functions and classes by name. A type of the same module that has such a name hides what
the name stood for, and using the name means using the type. A dictionary type cannot be asked whether a
value is an instance of it, and calling it makes a table of what it is given. A synonym is kept as a
function of no arguments that gives its type: it cannot be asked, and it is never called as it should be.
-/

namespace SchemaGuard.Check

/-- What validators use by name. -/
inductive Helper where
  | instanceTest
  | length
  | enumeration
  | text
  | truth
  | list
  | tuple
  | dict
  | numberTest
  | integerTest
  | equality
  | membership
  | distinctCount
  | typeName
  | description
  | issue
  | cast
  | failure
  | success
  | refusal
  | patterns
deriving DecidableEq

def Helper.name : Helper → String
  | instanceTest => "isinstance"
  | length => "len"
  | enumeration => "enumerate"
  | text => "str"
  | truth => "bool"
  | list => "list"
  | tuple => "tuple"
  | dict => "dict"
  | numberTest => "is_number"
  | integerTest => "is_integer"
  | equality => "json_equals"
  | membership => "is_one_of"
  | distinctCount => "count_unique"
  | typeName => "get_type"
  | description => "stringify"
  | issue => "add_issue"
  | cast => "cast"
  | failure => "ValidationFailure"
  | success => "ValidationSuccess"
  | refusal => "ValidationError"
  | patterns => "re"

/-- A type that has the name of a helper. -/
inductive Hiding where
  | dictType
  | synonym
deriving DecidableEq

/-- What the names of helpers stand for: the type that hides each, if one does. -/
abbrev Names := Helper → Option Hiding

/-- Nothing is hidden. -/
def Names.plain : Names := fun _ => none

/-! ## Tables of values -/

/-- A table whose keys are any values. -/
abbrev ValueTable := List (Value × Value)

/-- The name of the class of a value. -/
def className : Value → String
  | .null => "NoneType"
  | .bool _ => "bool"
  | .number (.int _) => "int"
  | .number (.float _) => "float"
  | .string _ => "str"
  | .bytes _ => "bytes"
  | .list _ => "list"
  | .tuple _ => "tuple"
  | .dict _ => "dict"

/-- The parts that a value is gone through in. -/
def parts? : Value → Option (List Value)
  | .string text => some (text.toList.map fun c => .string c.toString)
  | .bytes data => some (data.map fun byte => .number (.int byte.toNat))
  | .list items => some items
  | .tuple items => some items
  | .dict members => some (members.map fun member => .string member.1)
  | _ => none

mutual

/-- The class of what keeps a value from being a key. -/
def unhashable? : Value → Option String
  | .list _ => some "list"
  | .dict _ => some "dict"
  | .tuple items => unhashableIn? items
  | _ => none

def unhashableIn? : List Value → Option String
  | [] => none
  | item :: items => (unhashable? item).orElse fun _ => unhashableIn? items

end

/-- The number that a value counts as. -/
def countsAs? : Value → Option Number
  | .bool value => some (.int (if value then 1 else 0))
  | .number value => some value
  | _ => none

mutual

/-- Whether two values are the same key. -/
def sameKey : Value → Value → Bool
  | .tuple as, .tuple bs => sameKeys as bs
  | .string a, .string b => a == b
  | .bytes a, .bytes b => a == b
  | .null, .null => true
  | a, b =>
    match countsAs? a, countsAs? b with
    | some a, some b => a.same b
    | _, _ => false

def sameKeys : List Value → List Value → Bool
  | [], [] => true
  | a :: as, b :: bs => sameKey a b && sameKeys as bs
  | _, _ => false

end

namespace ValueTable

/-- Puts a value under a key, which keeps its place. -/
def put (key value : Value) : ValueTable → ValueTable
  | [] => [(key, value)]
  | entry :: entries =>
    if sameKey entry.1 key then (entry.1, value) :: entries else entry :: put key value entries

/-- Puts the entry that an element stands for. -/
def putElement (table : ValueTable) (element : Value) (position : Nat) : Except Fault ValueTable :=
  match parts? element with
  | none => .error (.notPair position)
  | some [key, value] =>
    match unhashable? key with
    | some kind => .error (.unhashable kind)
    | none => .ok (table.put key value)
  | some parts => .error (.pairLength position parts.length)

/-- Puts the entries that elements stand for, from a position on. -/
def putElements (table : ValueTable) : List Value → Nat → Except Fault ValueTable
  | [], _ => .ok table
  | element :: elements, position => do
    putElements (← table.putElement element position) elements (position + 1)

/-- The table that a value is turned into. -/
def ofValue : Value → Except Fault ValueTable
  | .dict members => .ok (members.map fun member => (.string member.1, member.2))
  | value =>
    match parts? value with
    | some elements => putElements [] elements 0
    | none => .error (.notIterable (className value))

/-- A table as a display of literals. -/
def display (table : ValueTable) : String :=
  "\x7b" ++ ", ".intercalate (table.map fun entry => entry.1.display ++ ": " ++ entry.2.display) ++ "\x7d"

end ValueTable

/-- Takes a value apart into two. -/
def unpack (value : Value) : Except Fault (Value × Value) :=
  match parts? value with
  | none => .error (.noParts (className value))
  | some [first, second] => .ok (first, second)
  | some parts => .error (if parts.length > 2 then .tooManyParts else .tooFewParts parts.length)

/-! ## Using types -/

namespace Hiding

/-- What goes wrong when a type is called with several arguments. -/
def callFault (arguments : Nat) : Hiding → Fault
  | dictType => .tableArguments arguments
  | synonym => .argumentsGiven arguments

/-- Calls a type with a value: what comes of a table of the value. -/
def apply {α : Type} (value : Value) (next : ValueTable → Except Fault α) : Hiding → Except Fault α
  | dictType => do next (← ValueTable.ofValue value)
  | synonym => .error (.argumentsGiven 1)

end Hiding

/-! ## Using helpers -/

namespace Names

/-- Calls a helper with several arguments, which goes wrong if it is hidden. -/
def call (names : Names) (helper : Helper) (arguments : Nat) : Except Fault Unit :=
  match names helper with
  | none => .ok ()
  | some type => .error (type.callFault arguments)

/-- Calls a helper with a value: what it gives, or what comes of a table of the value. -/
def apply {α : Type} (names : Names) (helper : Helper) (value : Value) (proper : Except Fault α)
    (hidden : ValueTable → Except Fault α) : Except Fault α :=
  match names helper with
  | none => proper
  | some type => type.apply value hidden

/-- Calls a test with a value; a table passes unless it is empty. -/
def test (names : Names) (helper : Helper) (value : Value) (proper : Bool) : Except Fault Bool :=
  names.apply helper value (.ok proper) fun table => .ok !table.isEmpty

/-- Calls a helper that describes a value. -/
def describe (names : Names) (helper : Helper) (value : Value) (proper : String) : Except Fault String :=
  names.apply helper value (.ok proper) fun table => .ok table.display

/-- Asks for classes, given with what they answer, until one is that of the value. -/
def askClasses (names : Names) : List (Helper × Bool) → Except Fault Bool
  | [] => .ok false
  | (helper, answer) :: classes =>
    match names helper with
    | none => if answer then .ok true else askClasses names classes
    | some .dictType => .error .dictTypeTest
    | some .synonym => .error .noTypeTest

/-- Whether a value is an instance of one of some classes, given with what they answer. -/
def isInstance (names : Names) (classes : List (Helper × Bool)) : Except Fault Bool := do
  names.call .instanceTest 2
  names.askClasses classes

/-- Uses an operation of a helper. -/
def operation (names : Names) (helper : Helper) (name : String) : Except Fault Unit :=
  match names helper with
  | none => .ok ()
  | some .dictType => .error (.noOperation helper.name name)
  | some .synonym => .error (.noSynonymOperation name)

/-- Makes a failure out of issues, of which there are some. -/
def fail (names : Names) : Except Fault Unit :=
  match names .failure with
  | none => .ok ()
  | some .dictType => .error (.notPair 0)
  | some .synonym => .error (.argumentsGiven 1)

/-- Makes a success out of a value. -/
def succeed (names : Names) (value : Value) : Except Fault Unit := do
  names.call .cast 2
  names.apply .success value (.ok ()) fun _ => .error (.noAttribute "success")

end Names

end SchemaGuard.Check
