import SchemaGuard.Notice
import SchemaGuard.Schema.Refs

/-!
# Dependencies

The pointers that have to be generated for some targets: the targets, and every pointer that resolves
and is referenced, through any number of steps, from a target that resolves.

The walk is depth first. It takes the first pending pointer that is not visited yet and puts the
references of its schema in front of the others; `pool` holds the pointers not visited yet, at first all
pointers that can come up, so that a pointer is visited when it is taken out of the pool and no
pointer is taken out twice.
-/

namespace SchemaGuard.Dependencies

/-- A computation that leaves notices, whether or not it succeeds. -/
abbrev Noted (ε : Type) := ExceptT ε (StateM (List Notice))

def note {ε : Type} (notice : Notice) : Noted ε Unit := modify fun notices => notices ++ [notice]

/-- The local references of a schema; each external one is noted. -/
def references {ε : Type} (schema : Json) : Noted ε (List String) := do
  (Schema.externalRefs schema).forM fun ref => note (.externalRef ref)
  return Schema.localRefs schema

/-- The pool after a pointer is taken out. -/
def without (pool : List String) (pointer : String) : List String := pool.filter (· != pointer)

theorem length_without_lt {pool : List String} {pointer : String} (found : pool.contains pointer) :
    (without pool pointer).length < pool.length :=
  List.length_filter_lt_length_iff_exists.2 ⟨pointer, by simpa using found, by simp⟩

/-- The pending pointers from the first one on that is still in the pool. -/
def unvisited (pool pending : List String) : List String := pending.dropWhile (!pool.contains ·)

theorem contains_of_unvisited {pool pending rest : List String} {pointer : String}
    (found : unvisited pool pending = pointer :: rest) : pool.contains pointer := by
  have head := List.head?_dropWhile_not (!pool.contains ·) pending
  rw [← unvisited, found] at head
  simpa using head

/-- Visits the pending pointers that are still in the pool, and what they refer to. -/
def visit (document : Json) (targets pool pending : List String) : Noted IndexError (List String) :=
  match _found : unvisited pool pending with
  | [] => return []
  | pointer :: pending =>
    match Pointer.resolve document pointer with
    | .error (.index error) => throw error
    | .error (.pointer error) => do
      note (.unresolvedPath pointer error)
      let others ← visit document targets (without pool pointer) pending
      return if targets.contains pointer then pointer :: others else others
    | .ok schema => do
      let refs ← references schema
      let others ← visit document targets (without pool pointer) (refs ++ pending)
      return pointer :: others
termination_by pool.length
decreasing_by
  · exact length_without_lt (contains_of_unvisited _found)
  · exact length_without_lt (contains_of_unvisited _found)

/-- The targets and all that they depend on, in the order of the walk. -/
def collect (document : Json) (targets : List String) : Noted IndexError (List String) := do
  let pointers ← visit document targets (targets ++ Schema.refs document) targets
  note (.collected pointers)
  return pointers

end SchemaGuard.Dependencies
