import SchemaGuard.Number
import SchemaGuard.Table

/-!
# JSON documents

The values a schema document is made of. Members of an object keep their order, and the reader gives
every key once.
-/

namespace SchemaGuard

inductive Json where
  | null
  | bool (value : Bool)
  | number (value : Number)
  | string (value : String)
  | array (items : List Json)
  | object (members : List (String × Json))
deriving Inhabited

namespace Json

/-- The member under a key, of an object; nothing else has members. -/
def get? (key : String) : Json → Option Json
  | object members => Table.get? members key
  | _ => none

def string? : Json → Option String
  | string value => some value
  | _ => none

/-- An integer, written without point or exponent. -/
def ofInt (value : Int) : Json := number (.int value)

mutual

/-- Equality of documents, member order and the kinds of numbers included. -/
def beq : Json → Json → Bool
  | null, null => true
  | bool a, bool b => a == b
  | number a, number b => a == b
  | string a, string b => a == b
  | array a, array b => beqItems a b
  | object a, object b => beqMembers a b
  | _, _ => false

def beqItems : List Json → List Json → Bool
  | [], [] => true
  | a :: as, b :: bs => beq a b && beqItems as bs
  | _, _ => false

def beqMembers : List (String × Json) → List (String × Json) → Bool
  | [], [] => true
  | (j, a) :: as, (k, b) :: bs => j == k && beq a b && beqMembers as bs
  | _, _ => false

end

instance : BEq Json := ⟨beq⟩

/-- Whether a value counts as true: null, false, zero and what is empty do not. -/
def isTruthy : Json → Bool
  | null => false
  | bool value => value
  | number value => !value.same (.int 0)
  | string value => !value.isEmpty
  | array items => !items.isEmpty
  | object members => !members.isEmpty

/-! ## Size and depth -/

mutual

/-- The number of values in a document, itself included. -/
def size : Json → Nat
  | array items => sizeItems items + 1
  | object members => sizeMembers members + 1
  | _ => 1

def sizeItems : List Json → Nat
  | [] => 0
  | item :: items => size item + sizeItems items

def sizeMembers : List (String × Json) → Nat
  | [] => 0
  | (_, member) :: members => size member + sizeMembers members

end

mutual

/-- How many lists and objects are inside each other. -/
def depth : Json → Nat
  | array items => depthItems items + 1
  | object members => depthMembers members + 1
  | _ => 0

def depthItems : List Json → Nat
  | [] => 0
  | item :: items => max (depth item) (depthItems items)

def depthMembers : List (String × Json) → Nat
  | [] => 0
  | (_, member) :: members => max (depth member) (depthMembers members)

end

end Json

end SchemaGuard
