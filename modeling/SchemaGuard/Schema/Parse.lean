import SchemaGuard.Pointer
import SchemaGuard.Schema.Node

/-!
# Nodes from schemas

A schema object is read by the first of these that applies: `const`; a list under `enum`; a list
under `oneOf`, `anyOf` or `allOf`; a text under `$ref`; `type`. Everything else, boolean schemas and
malformed values included, is unknown and says nothing.

The one way to fail is a `type` that cannot be a type at all: an object, or a list of one entry
that is an object or a list.

The recursion follows the document: a keyword is looked up by going through the members, so the
value under it is visibly part of the schema.
-/

namespace SchemaGuard

/-- A `type` that is an object or a list. -/
inductive TypeError where
  | object
  | array
deriving DecidableEq

def TypeError.message : TypeError → String
  | object => "unhashable type: 'dict'"
  | array => "unhashable type: 'list'"

namespace Schema

/-- A keyword's value; null counts as absent. -/
def keyword? (members : List (String × Json)) (name : String) : Option Json :=
  match Table.get? members name with
  | some .null => none
  | value => value

def bounds (members : List (String × Json)) : Bounds where
  minimum := keyword? members "minimum"
  maximum := keyword? members "maximum"
  exclusiveMinimum := keyword? members "exclusiveMinimum"
  exclusiveMaximum := keyword? members "exclusiveMaximum"

/-- The type without parts that a name stands for, with its constraints. -/
def primitive? (members : List (String × Json)) : String → Option Primitive
  | "string" => some (.string (keyword? members "minLength") (keyword? members "maxLength")
      (keyword? members "pattern"))
  | "integer" => some (.integer (bounds members))
  | "number" => some (.number (bounds members))
  | "boolean" => some .boolean
  | "null" => some .null
  | _ => none

def arrayLimits (members : List (String × Json)) : ArrayLimits where
  minItems := keyword? members "minItems"
  maxItems := keyword? members "maxItems"
  uniqueItems :=
    match keyword? members "uniqueItems" with
    | some (.bool true) => true
    | _ => false

def objectLimits (members : List (String × Json)) : ObjectLimits where
  minProperties := keyword? members "minProperties"
  maxProperties := keyword? members "maxProperties"

/-- The texts in a list. -/
def strings (items : List Json) : List String := items.filterMap Json.string?

/-- The names that `required` lists. -/
def requiredNames (members : List (String × Json)) : List String :=
  match Table.get? members "required" with
  | some (.array items) => strings items
  | _ => []

/-- What `type` says: one type, several, or nothing known. -/
inductive TypeKeyword where
  | single (name : String)
  | several (names : List String)
  | unknown

/-- Reads the value of `type`. A list of one entry says what its entry says. -/
def typeKeyword : Json → Except TypeError TypeKeyword
  | .string name => .ok (.single name)
  | .object _ => .error .object
  | .array [.string name] => .ok (.single name)
  | .array [.object _] => .error .object
  | .array [.array _] => .error .array
  | .array [_] => .ok .unknown
  | .array items => .ok (.several (strings items))
  | _ => .ok .unknown

mutual

/-- Reads the schema at a path. -/
def parse (path : String) : Json → Except TypeError Node
  | .object members => do
    let origin : Origin := ⟨path, .object members⟩
    if let some value := Table.get? members "const" then
      return .const origin value
    if let some (.array values) := Table.get? members "enum" then
      return .enum origin values
    if let some branches ← parseListed path "oneOf" members then
      return .combinator origin .oneOf branches
    if let some branches ← parseListed path "anyOf" members then
      return .combinator origin .anyOf branches
    if let some branches ← parseListed path "allOf" members then
      return .combinator origin .allOf branches
    if let some (.string target) := Table.get? members "$ref" then
      return .ref origin target
    match Table.get? members "type" with
    | none => return .unknown origin
    | some value =>
      match ← typeKeyword value with
      | .several names => return .union origin names
      | .single "array" =>
        let items ← parseItems path members
        let leading ← parseListed path "prefixItems" members
        return .array origin items leading (arrayLimits members)
      | .single "object" =>
        let required := requiredNames members
        let properties ← parseProperties path required members
        let additional ← parseAdditional path members
        return .object origin properties required additional (objectLimits members)
      | .single name =>
        match primitive? members name with
        | some type => return .primitive origin type
        | none => return .unknown origin
      | .unknown => return .unknown origin
  | schema => return .unknown ⟨path, schema⟩

/-- Reads the list of schemas under a keyword, if it is a list. -/
def parseListed (path keyword : String) : List (String × Json) → Except TypeError (Option (List Node))
  | [] => return none
  | (name, value) :: rest =>
    if name == keyword then
      match value with
      | .array schemas => some <$> parseEach s!"{path}/{keyword}" 0 schemas
      | _ => return none
    else
      parseListed path keyword rest

/-- Reads schemas at consecutive positions below a path. -/
def parseEach (path : String) (position : Nat) : List Json → Except TypeError (List Node)
  | [] => return []
  | schema :: schemas => do
    let node ← parse s!"{path}/{position}" schema
    return node :: (← parseEach path (position + 1) schemas)

/-- Reads `items`. Null and false count as absent. -/
def parseItems (path : String) : List (String × Json) → Except TypeError (Items Node)
  | [] => return .absent
  | (name, value) :: rest =>
    if name == "items" then
      match value with
      | .array schemas => .each <$> parseEach s!"{path}/items" 0 schemas
      | .null => return .absent
      | .bool false => return .absent
      | schema => .all <$> parse s!"{path}/items" schema
    else
      parseItems path rest

/-- Reads `properties`, if it is an object. -/
def parseProperties (path : String) (required : List String) :
    List (String × Json) → Except TypeError (Option (List (Property Node)))
  | [] => return none
  | (name, value) :: rest =>
    if name == "properties" then
      match value with
      | .object schemas => some <$> parseMembers s!"{path}/properties" required schemas
      | _ => return none
    else
      parseProperties path required rest

/-- Reads schemas under names below a path. -/
def parseMembers (path : String) (required : List String) :
    List (String × Json) → Except TypeError (List (Property Node))
  | [] => return []
  | (name, schema) :: schemas => do
    let node ← parse s!"{path}/{name}" schema
    return ⟨name, required.contains name, node⟩ :: (← parseMembers path required schemas)

/-- Reads `additionalProperties`. -/
def parseAdditional (path : String) : List (String × Json) → Except TypeError (Additional Node)
  | [] => return .value none
  | (name, value) :: rest =>
    if name == "additionalProperties" then
      match value with
      | .null => return .value none
      | .object members => .schema <$> parse s!"{path}/additionalProperties" (.object members)
      | raw => return .value (some raw)
    else
      parseAdditional path rest

end

/-! ## Places in a document -/

/-- Why there is no node at a pointer. -/
inductive NodeError where
  | lookup (error : LookupError)
  | type (error : TypeError)
deriving DecidableEq

def NodeError.message : NodeError → String
  | lookup error => error.message
  | type error => error.message

/-- The node at a pointer with escaped segments. -/
def nodeAt (document : Json) (ref : String) : Except NodeError Node :=
  match Pointer.resolveEscaped document ref with
  | .error error => .error (.lookup error)
  | .ok schema =>
    match parse ref schema with
    | .error error => .error (.type error)
    | .ok node => .ok node

/-- The schema of a reusable definition and its path; `definitions` goes before `$defs`. -/
def definition? (document : Json) (name : String) : Option (String × Json) :=
  ["definitions", "$defs"].findSome? fun container =>
    match document.get? container with
    | some (.object definitions) =>
      (Table.get? definitions name).map fun schema => (s!"#/{container}/{name}", schema)
    | _ => none

/-- The node of a reusable definition. -/
def definitionNode (document : Json) (name : String) : Except TypeError (Option Node) :=
  match definition? document name with
  | none => .ok none
  | some (path, schema) => some <$> parse path schema

end Schema

end SchemaGuard
