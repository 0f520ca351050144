import SchemaGuard.Json

/-!
# Schema nodes

What a schema says at one place, with one case per kind of schema. Keyword values that the checks
interpret are kept as they were written; a keyword that is absent or null is `none`.

Every node knows its `Origin`: the path of its place in the document, and the schema there.
-/

namespace SchemaGuard

/-- Where a node comes from. -/
structure Origin where
  path : String
  raw : Json

inductive Combinator where
  | oneOf
  | anyOf
  | allOf
deriving DecidableEq

/-- The keyword of a combinator. -/
def Combinator.keyword : Combinator → String
  | oneOf => "oneOf"
  | anyOf => "anyOf"
  | allOf => "allOf"

/-- The bounds of a number. An exclusive bound is a number, or a truth value that makes the plain
bound exclusive. -/
structure Bounds where
  minimum : Option Json
  maximum : Option Json
  exclusiveMinimum : Option Json
  exclusiveMaximum : Option Json

/-- The types without parts, with their constraints. -/
inductive Primitive where
  | string (minLength maxLength pattern : Option Json)
  | integer (bounds : Bounds)
  | number (bounds : Bounds)
  | boolean
  | null

/-- The name of a type without parts. -/
def Primitive.typeName : Primitive → String
  | string _ _ _ => "string"
  | integer _ => "integer"
  | number _ => "number"
  | boolean => "boolean"
  | null => "null"

/-- How many items an array may have, and whether they must differ. -/
structure ArrayLimits where
  minItems : Option Json
  maxItems : Option Json
  uniqueItems : Bool

/-- How many members an object may have. -/
structure ObjectLimits where
  minProperties : Option Json
  maxProperties : Option Json

/-- A declared member of an object, over the type of nodes. -/
structure Property (α : Type) where
  name : String
  required : Bool
  node : α

/-- The `items` of an array, over the type of nodes: absent, one schema for all, or one for each. -/
inductive Items (α : Type) where
  | absent
  | all (node : α)
  | each (nodes : List α)

/-- The `additionalProperties` of an object, over the type of nodes: any value that is no schema
object, or a schema. -/
inductive Additional (α : Type) where
  | value (raw : Option Json)
  | schema (node : α)

inductive Node where
  | unknown (origin : Origin)
  | const (origin : Origin) (value : Json)
  | enum (origin : Origin) (values : List Json)
  | combinator (origin : Origin) (kind : Combinator) (branches : List Node)
  | ref (origin : Origin) (target : String)
  | primitive (origin : Origin) (type : Primitive)
  | union (origin : Origin) (types : List String)
  | array (origin : Origin) (items : Items Node) (leading : Option (List Node)) (limits : ArrayLimits)
  | object (origin : Origin) (properties : Option (List (Property Node))) (required : List String)
      (additional : Additional Node) (limits : ObjectLimits)

namespace Node

def origin : Node → Origin
  | unknown origin => origin
  | const origin _ => origin
  | enum origin _ => origin
  | combinator origin _ _ => origin
  | ref origin _ => origin
  | primitive origin _ => origin
  | union origin _ => origin
  | array origin _ _ _ => origin
  | object origin _ _ _ _ => origin

/-- The path of a node's place in the document. -/
def path (node : Node) : String := node.origin.path

def isUnknown : Node → Bool
  | unknown _ => true
  | _ => false

end Node

end SchemaGuard
