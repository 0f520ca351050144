import SchemaGuard.Json
import SchemaGuard.Text.Quoted

/-!
# Literals

JSON values as expressions of the emitted language: constants and displays of lists and dictionaries.
There is no literal for the numbers without digits, so infinity is written as a decimal that is too
large and `nan` as a difference of two of them.
-/

namespace SchemaGuard.Literal

/-- Numbers without digits, as expressions. -/
def numberSpelling : Number.Spelling := ⟨"1e309", "(1e309-1e309)"⟩

def ofNumber (value : Number) : String := value.text numberSpelling

def ofBool (value : Bool) : String := if value then "True" else "False"

mutual

/-- The expression of a value. -/
def ofJson : Json → String
  | .null => "None"
  | .bool value => ofBool value
  | .number value => ofNumber value
  | .string value => Text.quoted value
  | .array items => "[" ++ ", ".intercalate (ofItems items) ++ "]"
  | .object members => "\x7b" ++ ", ".intercalate (ofMembers members) ++ "\x7d"

def ofItems : List Json → List String
  | [] => []
  | item :: items => ofJson item :: ofItems items

def ofMembers : List (String × Json) → List String
  | [] => []
  | (key, member) :: members => (Text.quoted key ++ ": " ++ ofJson member) :: ofMembers members

end

/-- A value as a statement of its own. A text that stands alone is documentation. -/
def statement : Json → String
  | .string value => Text.tripleQuoted value
  | value => ofJson value

end SchemaGuard.Literal
