import SchemaGuard.Schema.Node

/-!
# The layout of arrays

An array schema is uniform or fixes positions. `prefixItems` fixes leading positions and leaves the
items after them to `items`, if that is one schema, and else closes the array; a list under `items`
fixes all positions. `prefixItems` goes first.
-/

namespace SchemaGuard

/-- How an array schema lays out its items. -/
inductive Layout where
  | uniform
  | leading (nodes : List Node) (rest : Option Node)
  | listed (nodes : List Node)

namespace Layout

def of (items : Items Node) (leading : Option (List Node)) : Layout :=
  match leading, items with
  | some nodes, .all node => .leading nodes (some node)
  | some nodes, _ => .leading nodes none
  | none, .each nodes => .listed nodes
  | none, _ => .uniform

/-- The schemas of the fixed positions. -/
def positions : Layout → List Node
  | uniform => []
  | leading nodes _ => nodes
  | listed nodes => nodes

/-- The schema of the items after the fixed positions. -/
def rest? : Layout → Option Node
  | leading _ rest => rest
  | _ => none

/-- Whether positions are fixed at all. -/
def isTuple : Layout → Bool
  | uniform => false
  | _ => true

/-- Whether there are no items but the fixed positions. -/
def isClosed (layout : Layout) : Bool := layout.isTuple && layout.rest?.isNone

end Layout

end SchemaGuard
