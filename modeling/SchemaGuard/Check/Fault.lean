import SchemaGuard.Check.Printer

/-!
# Faults

The ways in which running a validator goes wrong. Some cannot happen to validators that were compiled
from schemas; others come of types that are named like something validators use.
-/

namespace SchemaGuard.Check

inductive Fault where
  /-- A local name without a binding. -/
  | unbound (name : Local)
  /-- A validator that is not there. -/
  | noValidator (name : String)
  /-- A member or position that a value does not have. -/
  | noMember
  /-- An operation on a value that it does not apply to. -/
  | wrongType
  | badPattern
  /-- A branch that returns like a validator, or a validator like a branch. -/
  | misplacedReturn
  | tooDeep
  /-- A dictionary type that is asked whether a value is an instance of it. -/
  | dictTypeTest
  /-- Something other than a type that is asked whether a value is an instance of it. -/
  | noTypeTest
  /-- A table to be made of several arguments. -/
  | tableArguments (count : Nat)
  /-- A synonym that is called with arguments, of which it takes none. -/
  | argumentsGiven (count : Nat)
  /-- A synonym that is called with an argument of a name. -/
  | argumentNamed (name : String)
  /-- A class that is to be based on a synonym. -/
  | noBase
  /-- A type that has no operation of a name. -/
  | noOperation (type operation : String)
  /-- A synonym that has no operation of a name. -/
  | noSynonymOperation (operation : String)
  /-- A value that has no elements to go through. -/
  | notIterable (kind : String)
  /-- An element of a table to be made that has no parts. -/
  | notPair (position : Nat)
  /-- An element of a table to be made that does not have two parts. -/
  | pairLength (position length : Nat)
  /-- A key that a table cannot have. -/
  | unhashable (kind : String)
  /-- A table that is compared with a bound. -/
  | unordered (comparison : Comparison) (bound : String)
  /-- A value without parts that is to be taken for two. -/
  | noParts (kind : String)
  | tooManyParts
  | tooFewParts (count : Nat)
  /-- A table that is taken for something with an attribute of a name. -/
  | noAttribute (name : String)
  /-- A text that cannot be read. -/
  | malformed
deriving DecidableEq

def Fault.message : Fault → String
  | unbound name => s!"name '{name.text}' is not defined"
  | noValidator name => s!"name '{name}' is not defined"
  | noMember => ""
  | wrongType => ""
  | badPattern => ""
  | misplacedReturn => ""
  | tooDeep => ""
  | dictTypeTest => "TypedDict does not support instance and class checks"
  | noTypeTest => "isinstance() arg 2 must be a type, a tuple of types, or a union"
  | tableArguments count => s!"dict expected at most 1 argument, got {count}"
  | argumentsGiven count =>
    let verb := if count = 1 then "was" else "were"
    s!"<lambda>() takes 0 positional arguments but {count} {verb} given"
  | argumentNamed name => s!"<lambda>() got an unexpected keyword argument '{name}'"
  | noBase => "function() argument 'code' must be code, not str"
  | noOperation type operation => s!"type object '{type}' has no attribute '{operation}'"
  | noSynonymOperation operation => s!"'function' object has no attribute '{operation}'"
  | notIterable kind => s!"'{kind}' object is not iterable"
  | notPair position => s!"cannot convert dictionary update sequence element #{position} to a sequence"
  | pairLength position length =>
    s!"dictionary update sequence element #{position} has length {length}; 2 is required"
  | unhashable kind => s!"unhashable type: '{kind}'"
  | unordered comparison bound =>
    s!"'{comparison.text}' not supported between instances of 'dict' and '{bound}'"
  | noParts kind => s!"cannot unpack non-iterable {kind} object"
  | tooManyParts => "too many values to unpack (expected 2)"
  | tooFewParts count => s!"not enough values to unpack (expected 2, got {count})"
  | noAttribute name => s!"'dict' object has no attribute '{name}'"
  | malformed => ""

end SchemaGuard.Check
