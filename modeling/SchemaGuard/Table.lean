/-!
# Tables

A table keeps its entries in the order in which their keys first came in. Putting a key again
changes its value and keeps its place.
-/

namespace SchemaGuard

/-- Entries under keys, in order of arrival. -/
abbrev Table (α : Type) := List (String × α)

namespace Table

variable {α : Type}

def get? (table : Table α) (key : String) : Option α := List.lookup key table

def has (table : Table α) (key : String) : Bool := table.any (·.1 == key)

def keys (table : Table α) : List String := table.map (·.1)

/-- Sets the value under a key: in place when the key is there, else at the end. -/
def put (table : Table α) (key : String) (value : α) : Table α :=
  if table.has key then
    table.map fun entry => if entry.1 == key then (key, value) else entry
  else
    table ++ [(key, value)]

/-- The table of a list of entries, put one after another. -/
def ofList (entries : List (String × α)) : Table α :=
  entries.foldl (fun table entry => table.put entry.1 entry.2) []

end Table

end SchemaGuard
