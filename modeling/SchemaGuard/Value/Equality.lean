import SchemaGuard.Value

/-!
# Equality of values

Two values are the same JSON value when they have the same shape and the same scalars: lists and
tuples are one kind, numbers compare by value whatever their kind, members compare without regard to
order, and truth values equal only truth values.

Distinct values are counted through keys. A key tags every scalar with its kind and turns an object
into the set of its entries, so that two values are the same exactly when their keys are.
-/

namespace SchemaGuard

namespace Value

mutual

/-- Whether two values are the same JSON value. -/
def same : Value → Value → Bool
  | null, null => true
  | bool a, bool b => a == b
  | number a, number b => a.same b
  | string a, string b => a == b
  | bytes a, bytes b => a == b
  | list a, list b => sameItems a b
  | list a, tuple b => sameItems a b
  | tuple a, list b => sameItems a b
  | tuple a, tuple b => sameItems a b
  | dict a, dict b => a.length == b.length && sameMembers a b
  | _, _ => false

def sameItems : List Value → List Value → Bool
  | [], [] => true
  | a :: as, b :: bs => same a b && sameItems as bs
  | _, _ => false

/-- Whether every member on the left has the same member on the right. -/
def sameMembers : List (String × Value) → List (String × Value) → Bool
  | [], _ => true
  | (key, a) :: as, bs =>
    (match Table.get? bs key with
      | some b => same a b
      | none => false) && sameMembers as bs

end

/-- Whether a value is the same as one of those allowed. -/
def isOneOf (value : Value) (allowed : List Value) : Bool := allowed.any (value.same ·)

/-- What values are counted by. -/
inductive Key where
  | null
  | boolean (value : Bool)
  | number (value : Number)
  | string (value : String)
  | array (items : List Key)
  | object (entries : List (String × Key))
  | other (text : String)

namespace Key

mutual

/-- Equality of keys, with objects compared as sets of entries. -/
def same : Key → Key → Bool
  | null, null => true
  | boolean a, boolean b => a == b
  | number a, number b => a.same b
  | string a, string b => a == b
  | array a, array b => sameItems a b
  | object a, object b => subset a b && b.all (holds a)
  | other a, other b => a == b
  | _, _ => false

def sameItems : List Key → List Key → Bool
  | [], [] => true
  | a :: as, b :: bs => same a b && sameItems as bs
  | _, _ => false

/-- Whether every entry on the left is one on the right. -/
def subset : List (String × Key) → List (String × Key) → Bool
  | [], _ => true
  | (name, a) :: as, bs => (bs.any fun entry => entry.1 == name && same a entry.2) && subset as bs

/-- Whether an entry is among those on the left. -/
def holds : List (String × Key) → String × Key → Bool
  | [], _ => false
  | (name, a) :: as, entry => (name == entry.1 && same a entry.2) || holds as entry

end

/-- How many different keys a list holds. -/
def countDistinct : List Key → Nat
  | [] => 0
  | key :: keys => if keys.any (key.same ·) then countDistinct keys else countDistinct keys + 1

end Key

mutual

/-- The key of a value. -/
def key : Value → Key
  | null => .null
  | bool value => .boolean value
  | number value => .number value
  | string value => .string value
  | bytes data => .other (Text.quotedBytes data)
  | list items => .array (keyItems items)
  | tuple items => .array (keyItems items)
  | dict members => .object (keyMembers members)

def keyItems : List Value → List Key
  | [] => []
  | item :: items => key item :: keyItems items

def keyMembers : List (String × Value) → List (String × Key)
  | [] => []
  | (name, member) :: members => (name, key member) :: keyMembers members

end

/-- How many different values a list holds. -/
def countUnique (values : List Value) : Nat := Key.countDistinct (keyItems values)

end Value

end SchemaGuard
