import SchemaGuard.Json.Writer
import SchemaGuard.Text.Quoted

/-!
# Values under validation

What a validator is given: the values a JSON document can hold, sequences that may be lists or
tuples, and byte strings, which no JSON type covers.
-/

namespace SchemaGuard

inductive Value where
  | null
  | bool (value : Bool)
  | number (value : Number)
  | string (value : String)
  | bytes (data : List UInt8)
  | list (items : List Value)
  | tuple (items : List Value)
  | dict (members : List (String × Value))
deriving Inhabited

namespace Value

/-- The name of the JSON type of a value; a byte string goes by its own name. -/
def typeName : Value → String
  | null => "null"
  | bool _ => "boolean"
  | number _ => "number"
  | string _ => "string"
  | bytes _ => "bytes"
  | list _ => "array"
  | tuple _ => "array"
  | dict _ => "object"

/-- Truth values are not numbers. -/
def isNumber : Value → Bool
  | number _ => true
  | _ => false

/-- A number without a fractional part, of either kind. -/
def isInteger : Value → Bool
  | number value => value.isWhole
  | _ => false

mutual

/-- The value a document stands for. -/
def ofJson : Json → Value
  | .null => null
  | .bool value => bool value
  | .number value => number value
  | .string value => string value
  | .array items => list (ofItems items)
  | .object members => dict (ofMembers members)

def ofItems : List Json → List Value
  | [] => []
  | item :: items => ofJson item :: ofItems items

def ofMembers : List (String × Json) → List (String × Value)
  | [] => []
  | (key, member) :: members => (key, ofJson member) :: ofMembers members

end

mutual

/-- The document that stands for a value, a tuple as an array; none if it holds a byte string. -/
def toJson? : Value → Option Json
  | null => some .null
  | bool value => some (.bool value)
  | number value => some (.number value)
  | string value => some (.string value)
  | bytes _ => none
  | list items => (toItems? items).map .array
  | tuple items => (toItems? items).map .array
  | dict members => (toMembers? members).map .object

def toItems? : List Value → Option (List Json)
  | [] => some []
  | item :: items => do return (← toJson? item) :: (← toItems? items)

def toMembers? : List (String × Value) → Option (List (String × Json))
  | [] => some []
  | (key, member) :: members => do return (key, ← toJson? member) :: (← toMembers? members)

end

/-! ## Text -/

/-- Numbers without digits, where values are displayed. -/
def numberSpelling : Number.Spelling := ⟨"inf", "nan"⟩

mutual

/-- A value as a display of literals. -/
def display : Value → String
  | null => "None"
  | bool value => if value then "True" else "False"
  | number value => value.text numberSpelling
  | string value => Text.quoted value
  | bytes data => Text.quotedBytes data
  | list items => "[" ++ ", ".intercalate (displayItems items) ++ "]"
  | tuple [item] => "(" ++ display item ++ ",)"
  | tuple items => "(" ++ ", ".intercalate (displayItems items) ++ ")"
  | dict members => "\x7b" ++ ", ".intercalate (displayMembers members) ++ "\x7d"

def displayItems : List Value → List String
  | [] => []
  | item :: items => display item :: displayItems items

def displayMembers : List (String × Value) → List String
  | [] => []
  | (key, member) :: members =>
    (Text.quoted key ++ ": " ++ display member) :: displayMembers members

end

/-- How a value is shown in an issue: as JSON if it stands for a document, else as a display. -/
def describe (value : Value) : String :=
  match value.toJson? with
  | some document => document.write .unicode
  | none => value.display

/-- A value as plain text: a string as it is, anything else as a display. -/
def plainText : Value → String
  | string value => value
  | value => value.display

/-! ## Depth -/

mutual

/-- How deep a value is nested. -/
def depth : Value → Nat
  | list items => depthItems items + 1
  | tuple items => depthItems items + 1
  | dict members => depthMembers members + 1
  | _ => 1

def depthItems : List Value → Nat
  | [] => 0
  | item :: items => max (depth item) (depthItems items)

def depthMembers : List (String × Value) → Nat
  | [] => 0
  | (_, member) :: members => max (depth member) (depthMembers members)

end

end Value

end SchemaGuard
