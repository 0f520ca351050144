import SchemaGuard.Check.OfNode
import SchemaGuard.Proofs.Gives
import SchemaGuard.Proofs.NodeInduction

/-!
# The checks of arrays and objects, taken apart

The checks of an array are the checks of its items, then those of its limits, all behind one test of
its type. Those of an object are its limits, the required keys, the declared members and the other
keys. The definitions of this file name these parts, and the equations say that the checks of a node
are put together from them.
-/

namespace SchemaGuard.Check

/-- The checks of the items of an array. -/
def ofItems (onRef : OnRef) (items : Items Node) (leading : Option (List Node)) (scope : Scope) :
    Compile (List Stmt) :=
  match leading, items with
  | some nodes, .all rest => do
    let positions ← ofPositions onRef nodes 0 scope
    let loop ← itemsLoop scope (some nodes.length) (ofNode onRef rest)
    return tupleLengthCheck scope nodes.length false ++ positions ++ loop
  | some nodes, _ => do
    let positions ← ofPositions onRef nodes 0 scope
    return tupleLengthCheck scope nodes.length true ++ positions
  | none, .each nodes => do
    let positions ← ofPositions onRef nodes 0 scope
    return tupleLengthCheck scope nodes.length true ++ positions
  | none, .all node => itemsLoop scope none (ofNode onRef node)
  | none, .absent => return []

/-- The checks of the declared members of an object. -/
def ofDeclared (onRef : OnRef) (properties : Option (List (Property Node))) (scope : Scope) :
    Compile (List Stmt) :=
  match properties with
  | some properties => ofProperties onRef properties scope
  | none => return []

/-- The names of the declared members of an object. -/
def knownNames (properties : Option (List (Property Node))) : List String :=
  (properties.getD []).map (·.name)

/-- The checks of the members of an object that are not declared. -/
def ofOthers (onRef : OnRef) (properties : Option (List (Property Node)))
    (additional : Additional Node) (scope : Scope) : Compile (List Stmt) :=
  match additional with
  | .schema node => keysLoop scope (knownNames properties) fun _ inner => ofNode onRef node inner
  | .value (some (.bool false)) =>
    if properties.isNone then return []
    else keysLoop scope (knownNames properties) fun key inner =>
      return unrecognized scope (knownNames properties) key inner
  | .value _ => return []

theorem ofOthers_open {properties : Option (List (Property Node))} {raw : Option Json}
    (h : raw ≠ some (.bool false)) (onRef : OnRef) (scope : Scope) :
    ofOthers onRef properties (.value raw) scope = return [] := by
  unfold ofOthers
  split
  · rename_i heq
    cases heq
  · rename_i heq
    exact (h (Additional.value.inj heq)).elim
  · rfl

theorem fresh_gives {kind : LocalKind} {s s' : Progress} {name : Local} :
    Gives (fresh kind) s name s' ↔
      name = ⟨kind, s.counter + 1⟩ ∧ s' = { s with counter := s.counter + 1 } := by
  simp only [fresh, Gives.bind_iff, Gives.get_iff, Gives.set_iff, Gives.pure_iff]
  constructor
  · rintro ⟨_, _, ⟨rfl, rfl⟩, _, _, rfl, rfl, rfl⟩
    exact ⟨rfl, rfl⟩
  · rintro ⟨rfl, rfl⟩
    exact ⟨s, s, ⟨rfl, rfl⟩, (), _, rfl, rfl, rfl⟩

theorem ofNode_array (onRef : OnRef) (origin : Origin) (items : Items Node)
    (leading : Option (List Node)) (limits : ArrayLimits) (scope : Scope) :
    ofNode onRef (.array origin items leading limits) scope = (do
      let parts ← ofItems onRef items leading scope
      return typeCheck scope .array "array" (parts ++ arrayLimitChecks scope limits)) := by
  cases leading <;> cases items <;> simp [ofNode, ofItems]

theorem ofNode_object (onRef : OnRef) (origin : Origin)
    (properties : Option (List (Property Node))) (required : List String)
    (additional : Additional Node) (limits : ObjectLimits) (scope : Scope) :
    ofNode onRef (.object origin properties required additional limits) scope = (do
      let declared ← ofDeclared onRef properties scope
      let others ← ofOthers onRef properties additional scope
      return typeCheck scope .object "object"
        (objectLimitChecks scope limits ++ required.map (requiredCheck scope) ++ declared ++
          others)) := by
  unfold ofNode ofDeclared ofOthers knownNames
  cases properties <;> dsimp only <;> split <;> simp

end SchemaGuard.Check
