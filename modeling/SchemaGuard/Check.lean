import SchemaGuard.Json

/-!
# Checks

The statements of a validator. A validator looks at a value, or at something inside it reached by an
`Operand`, and reports issues at paths that follow the operand. Alternatives of a schema are tried in
branches: functions of no argument that look at the same value and tell whether it passes.

Local names carry a number, and the numbers of a validator are drawn from one counter.
-/

namespace SchemaGuard.Check

/-- What a local name stands for. -/
inductive LocalKind where
  | result
  | branch
  | matchCount
  | index
  | item
  | key
deriving DecidableEq

/-- A local name of a validator. -/
structure Local where
  kind : LocalKind
  number : Nat
deriving DecidableEq

/-- A value that is looked at. -/
inductive Operand where
  | value
  | item (name : Local)
  | position (operand : Operand) (index : Nat)
  | member (operand : Operand) (key : String)
  | memberAt (operand : Operand) (key : Local)
deriving DecidableEq

/-- A step of the path of an issue. -/
inductive Step where
  | key (name : String)
  | index (position : Nat)
  | bound (name : Local)
deriving DecidableEq

/-- The types that values are tested for. -/
inductive TypeTest where
  | string
  | number
  | integer
  | boolean
  | null
  | array
  | object
deriving DecidableEq

inductive Comparison where
  | lt
  | le
  | gt
  | ge
  | ne
deriving DecidableEq

/-- A bound on a count: an integer, or a truth value counting as one or zero. -/
inductive Count where
  | int (value : Int)
  | flag (value : Bool)
deriving DecidableEq

namespace Count

def ofJson? : Json → Option Count
  | .number (.int value) => some (int value)
  | .bool value => some (flag value)
  | _ => none

def toInt : Count → Int
  | int value => value
  | flag value => if value then 1 else 0

end Count

inductive Test where
  | notConst (operand : Operand) (expected : Json)
  | notEnum (operand : Operand) (allowed : List Json)
  | notType (operand : Operand) (type : TypeTest)
  | noType (operand : Operand) (types : List TypeTest)
  | notInteger (operand : Operand)
  | length (operand : Operand) (comparison : Comparison) (bound : Count)
  | number (operand : Operand) (comparison : Comparison) (bound : Number)
  | noMatch (operand : Operand) (pattern : String)
  | notUnique (operand : Operand)
  | missing (operand : Operand) (key : String)
  | present (operand : Operand) (key : String)
  | unknownKey (key : Local) (known : List String)
  | notOneMatch (matchCount : Local)
  | noBranch (branches : List Local)
  | failed (result : Local)

/-- What is counted in a description. -/
inductive Counted where
  | characters
  | items
  | elements
  | properties
deriving DecidableEq

/-- The description of what an issue received. -/
inductive Received where
  | typeName (operand : Operand)
  | shown (operand : Operand)
  | itself (operand : Operand)
  | length (counted : Counted) (operand : Operand)
  | fixed (text : String)
  | key (name : Local)
  | matchCount (name : Local)

inductive Code where
  | invalidType
  | invalidValue
  | tooSmall
  | tooBig
  | invalidString
  | notInteger
  | notUnique
  | unrecognizedKey
  | missingKey
deriving DecidableEq

def Code.name : Code → String
  | invalidType => "invalid_type"
  | invalidValue => "invalid_value"
  | tooSmall => "too_small"
  | tooBig => "too_big"
  | invalidString => "invalid_string"
  | notInteger => "not_integer"
  | notUnique => "not_unique"
  | unrecognizedKey => "unrecognized_key"
  | missingKey => "missing_key"

inductive Stmt where
  /-- Records an issue. -/
  | report (code : Code) (path : List Step) (expected : String) (received : Received)
  /-- Ends a branch as failed, or, outside of branches, ends the validator if it is to stop at the
  first issue. -/
  | abort (inBranch : Bool)
  | ifElse (test : Test) (body orelse : List Stmt)
  /-- Goes through the items of an array, from a position on if one is given. -/
  | forItems (index item : Local) (operand : Operand) (start : Option Nat) (body : List Stmt)
  /-- Goes through the keys of an object. -/
  | forKeys (key : Local) (operand : Operand) (body : List Stmt)
  /-- Calls another validator. -/
  | call (result : Local) (validator : String) (operand : Operand)
  /-- Takes over the issues of a failed call, under a path. -/
  | takeOver (result : Local) (path : List Step)
  /-- Defines a branch. Its body has its own issues, and it passes if it gets to its end. -/
  | branch (name : Local) (body : List Stmt)
  /-- Counts the branches that pass. -/
  | countMatches (matchCount : Local) (branches : List Local)

/-- A validator, with the name of the type it validates. -/
structure Validator where
  name : String
  typeName : String
  body : List Stmt

end SchemaGuard.Check
