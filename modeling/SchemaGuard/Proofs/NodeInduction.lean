import SchemaGuard.Schema.Layout

/-!
# Induction over nodes

A node holds other nodes in lists, under options and inside properties. `Node.HasPart` is the relation
between a node and what it holds, and `Node.induction` is the induction along it.
-/

namespace SchemaGuard

/-- A node holds another one. -/
inductive Node.HasPart : Node → Node → Prop where
  | branch {origin : Origin} {kind : Combinator} {branches : List Node} {branch : Node}
      (h : branch ∈ branches) : HasPart (.combinator origin kind branches) branch
  | item {origin : Origin} {node : Node} {leading : Option (List Node)} {limits : ArrayLimits} :
      HasPart (.array origin (.all node) leading limits) node
  | listed {origin : Origin} {nodes : List Node} {leading : Option (List Node)}
      {limits : ArrayLimits}
      {node : Node} (h : node ∈ nodes) : HasPart (.array origin (.each nodes) leading limits) node
  | leading {origin : Origin} {items : Items Node} {nodes : List Node}
      {limits : ArrayLimits} {node : Node}
      (h : node ∈ nodes) : HasPart (.array origin items (some nodes) limits) node
  | property {origin : Origin} {properties : List (Property Node)} {required : List String}
      {additional : Additional Node} {limits : ObjectLimits} {property : Property Node}
      (h : property ∈ properties) :
      HasPart (.object origin (some properties) required additional limits) property.node
  | additional {origin : Origin} {properties : Option (List (Property Node))}
      {required : List String} {node : Node} {limits : ObjectLimits} :
      HasPart (.object origin properties required (.schema node) limits) node

theorem Node.HasPart.sizeOf_lt {node part : Node} (h : node.HasPart part) :
    sizeOf part < sizeOf node := by
  cases h with
  | branch hmem | listed hmem | leading hmem =>
    have := List.sizeOf_lt_of_mem hmem
    simp
    omega
  | @property _ _ _ _ _ property hmem =>
    have := List.sizeOf_lt_of_mem hmem
    cases property
    simp at *
    omega
  | item | additional =>
    simp
    omega

/-- **Induction over nodes by their parts.** -/
theorem Node.induction {motive : Node → Prop}
    (step : ∀ node, (∀ part, node.HasPart part → motive part) → motive node) (node : Node) :
    motive node :=
  step node fun part _ => induction step part
termination_by sizeOf node
decreasing_by exact Node.HasPart.sizeOf_lt ‹_›

/-- The nodes that a node holds, as a list. -/
def Node.parts : Node → List Node
  | .combinator _ _ branches => branches
  | .array _ items leading _ =>
    leading.getD [] ++
      match items with
      | .absent => []
      | .all item => [item]
      | .each nodes => nodes
  | .object _ properties _ additional _ =>
    (properties.getD []).map (·.node) ++
      match additional with
      | .schema node => [node]
      | .value _ => []
  | _ => []

theorem Node.HasPart.mem_parts {node part : Node} (h : node.HasPart part) : part ∈ node.parts := by
  cases h with
  | branch hmem => exact hmem
  | item => exact List.mem_append_right _ (List.mem_singleton_self _)
  | listed hmem => exact List.mem_append_right _ hmem
  | leading hmem => exact List.mem_append_left _ hmem
  | property hmem => exact List.mem_append_left _ (List.mem_map_of_mem hmem)
  | additional => exact List.mem_append_right _ (List.mem_singleton_self _)

end SchemaGuard
