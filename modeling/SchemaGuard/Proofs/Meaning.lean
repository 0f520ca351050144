import SchemaGuard.Check.OfNode
import SchemaGuard.Check.Run

/-!
# What a node means

`Satisfies refs node value` says when a value satisfies a node, with no word on how this is checked:
by the kind of the node and through its parts. What a reference asks for is a parameter, since a
document may refer to itself.

Nodes that say nothing accept everything: unknown nodes, `allOf`, combinators without branches and
lists of types none of which is known. A member or a position that is not there satisfies every
schema of it.
-/

namespace SchemaGuard

/-- The items of an array. -/
def Value.elements? : Value → Option (List Value)
  | .list items => some items
  | .tuple items => some items
  | _ => none

/-- The members of an object. -/
def Value.members? : Value → Option (List (String × Value))
  | .dict members => some members
  | _ => none

/-- A value is of a type. -/
def Check.TypeTest.Holds (value : Value) : TypeTest → Prop
  | string => ∃ text, value = .string text
  | number => ∃ number, value = .number number
  | integer => ∃ number, value = .number number ∧ number.isWhole = true
  | boolean => ∃ truth, value = .bool truth
  | null => value = .null
  | array => ∃ items, value.elements? = some items
  | object => ∃ members, value.members? = some members

/-! ## Constraints -/

/-- A count is not below the least nor above the greatest one. Keywords that bound no count do not
bind. -/
def CountWithin (least most : Option Json) (count : Nat) : Prop :=
  (∀ bound, least.bind Check.Count.ofJson? = some bound → bound.toInt ≤ count) ∧
    ∀ bound, most.bind Check.Count.ofJson? = some bound → count ≤ bound.toInt

/-- A number is on the right side of all bounds; a plain bound is exclusive if the keyword for
exclusive ones is true. A number that compares with nothing is on the right side. -/
def Bounds.Admit (bounds : Bounds) (number : Number) : Prop :=
  (∀ bound, Check.number? bounds.minimum = some bound →
    if Check.isTrue bounds.exclusiveMinimum then number.le bound = false
      else number.lt bound = false) ∧
  (∀ bound, Check.number? bounds.exclusiveMinimum = some bound → number.le bound = false) ∧
  (∀ bound, Check.number? bounds.maximum = some bound →
    if Check.isTrue bounds.exclusiveMaximum then bound.le number = false
      else bound.lt number = false) ∧
  ∀ bound, Check.number? bounds.exclusiveMaximum = some bound → bound.le number = false

/-- A text matches a pattern, if the pattern can be read. -/
def PatternAdmits (pattern : Option Json) (text : String) : Prop :=
  ∀ source expr, pattern = some (.string source) → Pattern.parse source = .ok expr →
    expr.matchesSomewhere text = true

/-- A value is of a type without parts, and within its constraints. -/
def Primitive.Admits : Primitive → Value → Prop
  | string minLength maxLength pattern, value => ∃ text, value = .string text ∧
      CountWithin minLength maxLength text.length ∧ PatternAdmits pattern text
  | integer bounds, value => ∃ number, value = .number number ∧ number.isWhole = true ∧
    bounds.Admit number
  | number bounds, value => ∃ number, value = .number number ∧ bounds.Admit number
  | boolean, value => ∃ truth, value = .bool truth
  | null, value => value = .null

/-- The items of an array are as many as they may be and, if they must, all differ. -/
def ArrayLimits.Admit (limits : ArrayLimits) (items : List Value) : Prop :=
  CountWithin limits.minItems limits.maxItems items.length ∧
    (limits.uniqueItems = true → items.Pairwise fun item other => item.key.same other.key = false)

/-! ## Nodes -/

mutual

/-- A value satisfies a node. -/
def Satisfies (refs : String → Value → Prop) : Node → Value → Prop
  | .unknown _, _ => True
  | .const _ expected, value => value.same (.ofJson expected) = true
  | .enum _ allowed, value => ∃ expected ∈ Value.ofItems allowed, value.same expected = true
  | .combinator _ .oneOf branches, value => branches = [] ∨ SatisfiesOne refs branches value
  | .combinator _ .anyOf branches, value => branches = [] ∨ SatisfiesSome refs branches value
  | .combinator _ .allOf _, _ => True
  | .ref _ target, value => refs target value
  | .primitive _ type, value => type.Admits value
  | .union _ types, value => types.filterMap Check.typeTest? = [] ∨
      ∃ type ∈ types.filterMap Check.typeTest?, type.Holds value
  | .array _ items leading limits, value => ∃ elements, value.elements? = some elements ∧
      (match leading, items with
        | some nodes, .all rest => nodes.length ≤ elements.length ∧
            SatisfiesEach refs nodes elements ∧
            ∀ item ∈ elements.drop nodes.length, Satisfies refs rest item
        | some nodes, _ => elements.length = nodes.length ∧ SatisfiesEach refs nodes elements
        | none, .each nodes => elements.length = nodes.length ∧ SatisfiesEach refs nodes elements
        | none, .all node => ∀ item ∈ elements, Satisfies refs node item
        | none, .absent => True) ∧
      limits.Admit elements
  | .object _ properties required additional limits, value => ∃ members,
    value.members? = some members ∧
      CountWithin limits.minProperties limits.maxProperties members.length ∧
      (∀ name ∈ required, Table.has members name = true) ∧
      (match properties with
        | some properties => SatisfiesDeclared refs properties members
        | none => True) ∧
      (match additional with
        | .schema node => ∀ name member, Table.get? members name = some member →
            name ∉ (properties.getD []).map (·.name) → Satisfies refs node member
        | .value (some (.bool false)) => properties.isSome = true →
            ∀ name ∈ Table.keys members, name ∈ (properties.getD []).map (·.name)
        | .value _ => True)

/-- A value satisfies one of some nodes at least. -/
def SatisfiesSome (refs : String → Value → Prop) : List Node → Value → Prop
  | [], _ => False
  | node :: nodes, value => Satisfies refs node value ∨ SatisfiesSome refs nodes value

/-- A value satisfies exactly one of some nodes. -/
def SatisfiesOne (refs : String → Value → Prop) : List Node → Value → Prop
  | [], _ => False
  | node :: nodes, value =>
    (Satisfies refs node value ∧ ¬SatisfiesSome refs nodes value) ∨
      (¬Satisfies refs node value ∧ SatisfiesOne refs nodes value)

/-- Items satisfy the nodes of their positions. -/
def SatisfiesEach (refs : String → Value → Prop) : List Node → List Value → Prop
  | [], _ => True
  | _ :: _, [] => True
  | node :: nodes, item :: items => Satisfies refs node item ∧ SatisfiesEach refs nodes items

/-- The declared members that are there satisfy their nodes. -/
def SatisfiesDeclared (refs : String → Value → Prop) :
    List (Property Node) → List (String × Value) → Prop
  | [], _ => True
  | ⟨name, _, node⟩ :: properties, members =>
    (∀ member, Table.get? members name = some member → Satisfies refs node member) ∧
      SatisfiesDeclared refs properties members

end

/-! ### Lists of nodes -/

section Lists

variable {refs : String → Value → Prop} {nodes : List Node} {value : Value}

theorem satisfiesSome_iff :
    SatisfiesSome refs nodes value ↔ ∃ node ∈ nodes, Satisfies refs node value := by
  induction nodes with
  | nil => simp [SatisfiesSome]
  | cons node nodes ih => simp [SatisfiesSome, ih]

theorem SatisfiesOne.some (h : SatisfiesOne refs nodes value) : SatisfiesSome refs nodes value := by
  induction nodes with
  | nil => exact h
  | cons node nodes ih =>
    rcases h with ⟨hnode, -⟩ | ⟨-, hone⟩
    · exact .inl hnode
    · exact .inr (ih hone)

theorem satisfiesEach_iff {items : List Value} :
    SatisfiesEach refs nodes items ↔ ∀ (position : Nat) node item, nodes[position]? = some node →
      items[position]? = some item → Satisfies refs node item := by
  induction nodes generalizing items with
  | nil => simp [SatisfiesEach]
  | cons node nodes ih =>
    cases items with
    | nil => simp [SatisfiesEach]
    | cons item items =>
      rw [SatisfiesEach, ih]
      constructor
      · rintro ⟨hfirst, hothers⟩ position
        cases position with
        | zero => simpa using hfirst
        | succ position => exact hothers position
      · intro h
        exact ⟨h 0 node item rfl rfl, fun position => h (position + 1)⟩

theorem satisfiesDeclared_iff {properties : List (Property Node)}
    {members : List (String × Value)} :
    SatisfiesDeclared refs properties members ↔ ∀ property ∈ properties, ∀ member,
      Table.get? members property.name = some member → Satisfies refs property.node member := by
  induction properties with
  | nil => simp [SatisfiesDeclared]
  | cons property properties ih => simp [SatisfiesDeclared, ih]

end Lists

/-! ### The parts of arrays and objects, by name -/

section Parts

variable (refs : String → Value → Prop)

/-- The items of an array satisfy the nodes of their places. -/
def SatisfiesLayout (items : Items Node) (leading : Option (List Node)) (elements : List Value) :
    Prop :=
  match leading, items with
  | some nodes, .all rest => nodes.length ≤ elements.length ∧
      SatisfiesEach refs nodes elements ∧ ∀ item ∈ elements.drop nodes.length,
        Satisfies refs rest item
  | some nodes, _ => elements.length = nodes.length ∧ SatisfiesEach refs nodes elements
  | none, .each nodes => elements.length = nodes.length ∧ SatisfiesEach refs nodes elements
  | none, .all node => ∀ item ∈ elements, Satisfies refs node item
  | none, .absent => True

/-- The declared members of an object satisfy their nodes, if members are declared. -/
def SatisfiesProperties (properties : Option (List (Property Node)))
    (members : List (String × Value)) : Prop :=
  match properties with
  | some properties => SatisfiesDeclared refs properties members
  | none => True

/-- The members of an object that are not declared are as they may be. -/
def SatisfiesAdditional (properties : Option (List (Property Node))) (additional : Additional Node)
    (members : List (String × Value)) : Prop :=
  match additional with
  | .schema node => ∀ name member, Table.get? members name = some member →
      name ∉ (properties.getD []).map (·.name) → Satisfies refs node member
  | .value (some (.bool false)) => properties.isSome = true →
      ∀ name ∈ Table.keys members, name ∈ (properties.getD []).map (·.name)
  | .value _ => True

variable {refs} {properties : Option (List (Property Node))} {origin : Origin} {value : Value}

/-- Only `false` forbids members that are not declared. -/
theorem satisfiesAdditional_open {raw : Option Json} (h : raw ≠ some (.bool false))
    (members : List (String × Value)) :
    SatisfiesAdditional refs properties (.value raw) members := by
  unfold SatisfiesAdditional
  split
  · rename_i heq
    cases heq
  · rename_i heq
    exact (h (Additional.value.inj heq)).elim
  · trivial

theorem satisfies_array {items : Items Node} {leading : Option (List Node)} {limits : ArrayLimits} :
    Satisfies refs (.array origin items leading limits) value ↔ ∃ elements,
      value.elements? = some elements ∧ SatisfiesLayout refs items leading elements ∧
        limits.Admit elements := by
  rw [Satisfies]
  cases leading <;> cases items <;> rfl

theorem satisfies_object {required : List String} {additional : Additional Node}
    {limits : ObjectLimits} :
    Satisfies refs (.object origin properties required additional limits) value ↔ ∃ members,
      value.members? = some members ∧
        CountWithin limits.minProperties limits.maxProperties members.length ∧
        (∀ name ∈ required, Table.has members name = true) ∧
        SatisfiesProperties refs properties members ∧
        SatisfiesAdditional refs properties additional members := by
  rw [Satisfies]
  rfl

end Parts

/-! ## References -/

/-- The node that a reference without a name of its own is expanded to: the one at its pointer, or
else the reusable definition of its last segment. References that leave the document lead nowhere.
-/
def leadsTo (document : Json) (ref : String) : Option Node :=
  if Pointer.isLocal ref then
    match Schema.nodeAt document ref with
    | .ok node => some node
    | .error (.lookup (.pointer _)) => (Emit.byName document ref).toOption.join
    | .error _ => none
  else
    none

variable {output : Output} {document : Json} {opened : List String} {ref path : String}

/-- A reference that can be expanded is expanded to the node it leads to. -/
theorem leadsTo_of_resolve {node : Option Node}
    (h : (Emit.resolve output document opened ref path).outcome = .ok node) :
    leadsTo document ref = node := by
  unfold Emit.resolve at h
  unfold leadsTo
  split at h
  · cases h
  · cases hlocal : Pointer.isLocal ref with
    | false =>
      simp only [hlocal, Bool.not_false, if_true] at h
      cases h
      rfl
    | true =>
      simp only [hlocal, Bool.not_true, Bool.false_eq_true, if_false] at h
      simp only [if_true]
      split at h
      · rename_i hnode
        cases h
        rw [hnode]
      · cases h
      · cases h
      · rename_i hnode
        rw [hnode]
        split at h
        · cases h
        · rename_i hname
          cases h
          simp only [hname]
          rfl
        · rename_i hname
          cases h
          simp only [hname]
          rfl

/-- A reference is expanded to the node it leads to, outside its own expansion. -/
theorem resolve_of_leadsTo {node : Node} (hnew : ref ∉ opened)
    (h : leadsTo document ref = some node) :
    (Emit.resolve output document opened ref path).outcome = .ok (some node) := by
  have hopen : opened.contains ref = false := by simpa using hnew
  unfold leadsTo at h
  unfold Emit.resolve
  split at h
  · rename_i hlocal
    simp only [hopen, hlocal, Bool.not_true, Bool.false_eq_true, if_false]
    split at h
    · rename_i hnode
      cases h
      rw [hnode]
    · rename_i hnode
      rw [hnode]
      cases hname : Emit.byName document ref with
      | error error =>
        rw [hname] at h
        cases h
      | ok found =>
        rw [hname] at h
        cases h
        rfl
    · cases h
  · cases h

end SchemaGuard
