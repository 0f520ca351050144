import SchemaGuard.Proofs.AbortEarly
import SchemaGuard.Proofs.Safety

/-!
# Issues point at real locations

**Theorem (`issues_placed`).** Whatever a validator of a generated module reports, the path of an
issue leads to a part of the value, and the issue is about that part: its message says what was
expected and received there, a missing key is one that the schema there requires and the object
there lacks, an unrecognized key is one that the object has and its schema does not declare, and
every other constraint is one of the type that the part has.

What "the schema there" is, is said by `Place.Visits`: the nodes that checking a value comes to,
with the paths on which it does. A path is built up while checks are compiled, and again whenever a
call hands over its issues. In findings both are the same thing, the findings of a part seen from
further out, so it is enough that visiting a part is visiting the whole one step further
(`Reports.under`).
-/

namespace SchemaGuard

/-! ## Paths into values -/

namespace Value

/-- One step into a value: by the key of an object, or by a position in an array. -/
def child? (value : Value) : PathToken → Option Value
  | .key name => value.members?.bind (Table.get? · name)
  | .index (.ofNat position) => value.elements?.bind (·[position]?)
  | .index (.negSucc _) => none
  | .flag _ => none

/-- The part of a value that a path leads to. -/
def follow? (value : Value) : List PathToken → Option Value
  | [] => some value
  | token :: path => (value.child? token).bind (·.follow? path)

theorem follow?_append (value : Value) (path rest : List PathToken) :
    value.follow? (path ++ rest) = (value.follow? path).bind (·.follow? rest) := by
  induction path generalizing value with
  | nil => rfl
  | cons token path ih =>
    rw [List.cons_append, follow?, follow?, Option.bind_assoc]
    exact congrArg _ (funext fun child => ih child)

end Value

/-! ## Nodes that are visited -/

/-- The node that the items of an array at a position are checked by. -/
def itemNode? (items : Items Node) (leading : Option (List Node)) (position : Nat) : Option Node :=
  match leading, items with
  | some nodes, .all rest => some (nodes[position]?.getD rest)
  | some nodes, _ => nodes[position]?
  | none, .each nodes => nodes[position]?
  | none, .all node => some node
  | none, .absent => none

variable {node : Node}

/-- Nodes of positions are parts of the array. -/
theorem hasPart_of_itemNode? {origin : Origin} {items : Items Node} {leading : Option (List Node)}
    {limits : ArrayLimits} {position : Nat} (h : itemNode? items leading position = some node) :
    Node.HasPart (.array origin items leading limits) node := by
  unfold itemNode? at h
  split at h
  · rename_i nodes rest
    cases hnode : nodes[position]? with
    | none =>
      rw [hnode] at h
      cases h
      exact .item
    | some leader =>
      rw [hnode] at h
      cases h
      exact .leading (List.mem_of_getElem? hnode)
  · exact .leading (List.mem_of_getElem? h)
  · exact .listed (List.mem_of_getElem? h)
  · cases h
    exact .item
  · cases h

/-- Checking a value by a node comes to a part of the value and the node that the part is checked
by. What branches say about a value is not reported, so they are not visited. -/
inductive Check.Place.Visits (place : Check.Place) :
    Node → Value → List PathToken → Node → Value → Prop where
  | here {node : Node} {value : Value} : Visits place node value [] node value
  | ref {origin : Origin} {ref : String} {node inner : Node} {value found : Value}
      {path : List PathToken} (htarget : place.target? ref = some node)
      (h : Visits place node value path inner found) :
      Visits place (.ref origin ref) value path inner found
  | item {origin : Origin} {items : Items Node} {leading : Option (List Node)}
      {limits : ArrayLimits} {value item found : Value} {elements : List Value} {position : Nat}
      {node inner : Node} {path : List PathToken} (helements : value.elements? = some elements)
      (hitem : elements[position]? = some item)
      (hnode : itemNode? items leading position = some node)
      (h : Visits place node item path inner found) :
      Visits place (.array origin items leading limits) value (.index position :: path) inner found
  | property {origin : Origin} {properties : List (Property Node)} {required : List String}
      {additional : Additional Node} {limits : ObjectLimits} {property : Property Node}
      {members : List (String × Value)} {member found : Value} {inner : Node}
      {path : List PathToken} (hmem : property ∈ properties)
      (hget : Table.get? members property.name = some member)
      (h : Visits place property.node member path inner found) :
      Visits place (.object origin (some properties) required additional limits) (.dict members)
        (.key property.name :: path) inner found
  | additional {origin : Origin} {properties : Option (List (Property Node))}
      {required : List String} {limits : ObjectLimits} {node inner : Node} {name : String}
      {members : List (String × Value)} {member found : Value} {path : List PathToken}
      (hname : name ∉ (properties.getD []).map (·.name))
      (hget : Table.get? members name = some member)
      (h : Visits place node member path inner found) :
      Visits place (.object origin properties required (.schema node) limits) (.dict members)
        (.key name :: path) inner found

namespace Check

variable {node inner : Node} {value : Value}

/-- What is visited is found by following the path. -/
theorem Place.Visits.follow {place : Place} {found : Value} {path : List PathToken}
    (h : place.Visits node value path inner found) : value.follow? path = some found := by
  induction h with
  | here => rfl
  | ref _ _ ih => exact ih
  | item helements hitem _ _ ih =>
    simp only [Value.follow?, Value.child?, helements, Option.bind_some, hitem, ih]
  | property _ hget _ ih =>
    simp only [Value.follow?, Value.child?, Value.members?, Option.bind_some, hget, ih]
  | additional _ hget _ ih =>
    simp only [Value.follow?, Value.child?, Value.members?, Option.bind_some, hget, ih]

/-! ## What issues say -/

/-- The type whose constraints a node has. -/
def baseType? : Node → Option TypeTest
  | .primitive _ type => some type.base
  | .array .. => some .array
  | .object .. => some .object
  | _ => none

/-- What an issue of a code says about a value and the node it is checked by. An unrecognized key is
not said about the value that it is in. -/
def Code.IsAbout (node : Node) (value : Value) : Code → Prop
  | invalidType => True
  | invalidValue => True
  | missingKey => ∃ origin properties required additional limits members,
      node = .object origin properties required additional limits ∧ value = .dict members ∧
        ∃ key ∈ required, key ∉ Table.keys members
  | unrecognizedKey => False
  | code => ∃ type ∈ code.types, baseType? node = some type ∧ type.Holds value

variable {code : Code}

/-- A constraint is one of the type that the value has. -/
theorem Code.IsAbout.of_types (h : code.IsAbout node value) (htypes : code.types ≠ []) :
    ∃ type ∈ code.types, baseType? node = some type ∧ type.Holds value := by
  cases code with
  | tooSmall | tooBig | invalidString | notInteger | notUnique => exact h
  | invalidType | invalidValue | unrecognizedKey | missingKey => exact (htypes rfl).elim

theorem Code.name_injective {other : Code} (h : code.name = other.name) : code = other := by
  revert h
  cases code <;> cases other <;> decide

/-- The issues that checking a value by a node may report: those that say something about a part of
the value, and those about keys of a part. -/
inductive Place.Reports (place : Place) (node : Node) (value : Value) : Issue → Prop where
  | about {code : Code} {path : List PathToken} {inner : Node} {found : Value}
      {expected received : String} (hvisits : place.Visits node value path inner found)
      (habout : code.IsAbout inner found) :
      Reports place node value (.report code.name path expected received)
  | key {path : List PathToken} {name : String} {origin : Origin}
      {properties : List (Property Node)} {required : List String} {additional : Additional Node}
      {limits : ObjectLimits} {members : List (String × Value)} {expected received : String}
      (hvisits : place.Visits node value path
        (.object origin (some properties) required additional limits) (.dict members))
      (hmem : name ∈ Table.keys members) (hname : name ∉ properties.map (·.name)) :
      Reports place node value
        (.report Code.unrecognizedKey.name (path ++ [.key name]) expected received)

variable {place : Place}

/-- If visiting a part is visiting the whole further in, so is reporting. -/
theorem Place.Reports.under {part : Value} {prior : List PathToken} {issue : Issue}
    (h : place.Reports inner part issue)
    (hvisits : ∀ path last found, place.Visits inner part path last found →
      place.Visits node value (prior ++ path) last found) :
    place.Reports node value (issue.under prior) := by
  cases h with
  | about hinner habout => exact .about (hvisits _ _ _ hinner) habout
  | @key path name _ _ _ _ _ _ expected received hinner hmem hname =>
    show place.Reports node value (.report Code.unrecognizedKey.name
      (prior ++ (path ++ [.key name])) expected received)
    rw [← List.append_assoc]
    exact .key (hvisits _ _ _ hinner) hmem hname

/-- What the node that a reference is about reports, the reference does. -/
theorem Place.Reports.ref {origin : Origin} {ref : String} {node : Node} {value : Value}
    {issue : Issue} (htarget : place.target? ref = some node)
    (h : place.Reports node value issue) : place.Reports (.ref origin ref) value issue := by
  have hunder : issue.under [] = issue := rfl
  rw [← hunder]
  exact h.under fun path last found hvisits => .ref htarget hvisits

/-! ## All issues of findings -/

/-- A property of all issues that findings report. -/
def Findings.Each (p : Issue → Prop) (findings : Findings) : Prop :=
  ∀ issues ∈ findings.reports, ∀ issue ∈ issues, p issue

namespace Findings.Each

variable {p q : Issue → Prop} {first second : Findings} {issue : Issue}

theorem clear : Findings.clear.Each p := nofun

theorem broken (fault : Fault) : (Findings.broken fault).Each p := nofun

theorem report (h : p issue) : (Findings.report issue).Each p := by
  intro issues hissues other hother
  cases List.mem_singleton.1 hissues
  cases List.mem_singleton.1 hother
  exact h

theorem when {condition : Bool} (h : condition = true → p issue) :
    (Findings.when condition issue).Each p := by
  cases condition with
  | true => exact report (h rfl)
  | false => exact clear

theorem andThen (h : first.Each p) (h' : second.Each p) : (first.andThen second).Each p := by
  unfold Findings.andThen
  split
  · exact h
  · intro issues hissues
    rcases List.mem_append.1 hissues with hissues | hissues
    · exact h issues hissues
    · exact h' issues hissues

theorem all {parts : List Findings} (h : ∀ part ∈ parts, part.Each p) :
    (Findings.all parts).Each p := by
  induction parts with
  | nil => exact clear
  | cons part parts ih =>
    exact (h part (by simp)).andThen (ih fun other hother => h other (by simp [hother]))

theorem under {path : List PathToken} (h : first.Each fun issue => p (issue.under path)) :
    (first.under path).Each p := by
  intro moved hmoved issue hissue
  obtain ⟨issues, hissues, rfl⟩ := List.mem_map.1 hmoved
  obtain ⟨inner, hinner, rfl⟩ := List.mem_map.1 hissue
  exact h issues hissues inner hinner

theorem mono (h : first.Each p) (himp : ∀ issue, p issue → q issue) : first.Each q :=
  fun issues hissues issue hissue => himp issue (h issues hissues issue hissue)

theorem ofPlain (h : first.Plain p) : first.Each p := by
  intro issues hissues issue hissue
  obtain ⟨single, rfl, hp⟩ := h.single issues hissues
  cases List.mem_singleton.1 hissue
  exact hp

theorem ofCall {result : Except Fault Outcome}
    (h : ∀ issues, result = .ok (.failure issues) → ∀ issue ∈ issues, p issue) :
    (Findings.ofCall result).Each p := by
  rcases result with fault | passed | issues
  · exact broken fault
  · exact clear
  · intro reported hreported
    cases List.mem_singleton.1 hreported
    exact h issues rfl

/-- What is true of all issues of findings is true of all issues that a validator returns. -/
theorem outcome (h : first.Each p) {stopping : Bool} {value : Value} {outcome : Outcome}
    (houtcome : first.outcome stopping value = .ok outcome) :
    ∀ issue ∈ outcome.issues, p issue := by
  unfold Findings.outcome at houtcome
  split at houtcome
  · rename_i issues others hreports
    cases houtcome
    exact h issues (by simp [hreports])
  · split at houtcome
    · cases houtcome
    · cases houtcome
      split
      · exact nofun
      · intro issue hissue
        obtain ⟨issues, hissues, hmem⟩ := List.mem_flatten.1 hissue
        exact h issues hissues issue hmem

end Findings.Each

open Findings

/-! ## Findings about the value as a whole -/

section Whole

variable {p : Issue → Prop} {node : Node}

theorem typeFindings_each {test : TypeTest} {typeName : String} {constraints : Value → Findings}
    {value : Value} (htype : Code.invalidType.Allowed p)
    (h : test.Holds value → (constraints value).Each p) :
    (typeFindings test typeName constraints value).Each p := by
  unfold typeFindings
  split
  · rename_i hholds
    exact h ((TypeTest.holds_iff value test).1 hholds)
  · exact .report (htype _ _)

theorem branchFindings_each {kind : Combinator} {verdicts : List (Except Fault Bool)}
    (h : Code.invalidType.Allowed p) : (branchFindings kind verdicts).Each p := by
  rcases branchFindings_cases h kind verdicts with ⟨fault, hbroken⟩ | hplain
  · rw [hbroken]
    exact .broken fault
  · exact .ofPlain hplain

/-- A constraint of the type that a node and a value have. -/
theorem Code.isAbout_of_type {code : Code} {value : Value} {type : TypeTest}
    (hbase : baseType? node = some type) (hholds : type.Holds value) (hmem : type ∈ code.types) :
    code.IsAbout node value := by
  cases code with
  | tooSmall | tooBig | invalidString | notInteger | notUnique =>
    exact ⟨type, hmem, hbase, hholds⟩
  | invalidType | invalidValue | unrecognizedKey | missingKey => cases hmem

/-- Constraints of the type that a node and a value have are reported where they are. -/
theorem Place.reports_of_type {value : Value} {type : TypeTest} (hbase : baseType? node = some type)
    (hholds : type.Holds value) (code : Code) (hmem : type ∈ code.types) :
    code.Allowed (place.Reports node value) :=
  fun _ _ => .about .here (Code.isAbout_of_type hbase hholds hmem)

end Whole

/-! ## Findings about parts -/

section Parts

variable {p : Issue → Prop} {refs : String → Value → Findings} {value : Value}

theorem itemsFindings_each {start : Option Nat} {each : Value → Findings}
    (h : ∀ (position : Nat) item, start.getD 0 ≤ position →
      (elementsOf value)[position]? = some item →
      (each item).Each fun issue => p (issue.under [.index position])) :
    (itemsFindings start each value).Each p := by
  refine .all fun part hpart => ?_
  obtain ⟨entry, hentry, rfl⟩ := List.mem_map.1 hpart
  obtain ⟨offset, hoffset⟩ := List.getElem?_of_mem hentry
  unfold enumerated at hoffset
  rw [List.getElem?_drop, List.getElem?_zipIdx, Option.map_eq_some_iff] at hoffset
  obtain ⟨item, hitem, rfl⟩ := hoffset
  rw [Nat.zero_add]
  exact .under (h _ item (Nat.le_add_right _ _) hitem)

theorem eachFindings_each {nodes : List Node} {position : Nat}
    (h : ∀ (offset : Nat) node item, nodes[offset]? = some node →
      (elementsOf value)[position + offset]? = some item →
      (findings refs node item).Each fun issue =>
        p (issue.under [.index ((position + offset : Nat) : Int)])) :
    (eachFindings refs nodes position value).Each p := by
  induction nodes generalizing position with
  | nil =>
    rw [eachFindings]
    exact .clear
  | cons node nodes ih =>
    rw [eachFindings]
    refine .andThen ?_ (ih fun offset other item hother hitem => ?_)
    · unfold positionFindings
      split
      · rename_i item hitem
        exact .under (h 0 node item rfl hitem)
      · exact .clear
    · have hnext := h (offset + 1) other item hother
      rw [← Nat.add_assoc, Nat.add_right_comm] at hnext
      exact hnext hitem

/-- Every item of an array is checked by the node of its position. -/
theorem layoutFindings_each {items : Items Node} {leading : Option (List Node)}
    (hlength : ∀ count isClosed, (tupleLengthFindings count isClosed value).Each p)
    (h : ∀ (position : Nat) node item, itemNode? items leading position = some node →
      (elementsOf value)[position]? = some item →
      (findings refs node item).Each fun issue => p (issue.under [.index position])) :
    (layoutFindings refs items leading value).Each p := by
  have heach : ∀ nodes : List Node, (∀ (position : Nat) node, nodes[position]? = some node →
      itemNode? items leading position = some node) → (eachFindings refs nodes 0 value).Each p := by
    intro nodes hnodes
    refine eachFindings_each fun offset node item hnode hitem => ?_
    rw [Nat.zero_add] at hitem ⊢
    exact h offset node item (hnodes offset node hnode) hitem
  unfold layoutFindings
  split
  · rename_i nodes rest
    refine .andThen (.andThen (hlength nodes.length false) (heach nodes ?_)) ?_
    · intro position node hnode
      simp only [itemNode?, hnode, Option.getD_some]
    · refine itemsFindings_each fun position item hle hitem => h position rest item ?_ hitem
      rw [itemNode?, List.getElem?_eq_none hle, Option.getD_none]
  · rename_i nodes hitems
    refine .andThen (hlength nodes.length true) (heach nodes fun position node hnode => ?_)
    cases items with
    | all rest => exact (hitems rest rfl).elim
    | each | absent => exact hnode
  · rename_i nodes
    exact .andThen (hlength nodes.length true) (heach nodes fun _ _ hnode => hnode)
  · rename_i node
    exact itemsFindings_each fun position item _ hitem => h position node item rfl hitem
  · exact .clear

theorem declaredFindings_each {properties : List (Property Node)}
    (h : ∀ property ∈ properties, ∀ member,
      Table.get? (membersIn value) property.name = some member →
      (findings refs property.node member).Each fun issue =>
        p (issue.under [.key property.name])) :
    (declaredFindings refs properties value).Each p := by
  induction properties with
  | nil =>
    rw [declaredFindings]
    exact .clear
  | cons property properties ih =>
    rw [declaredFindings]
    refine .andThen ?_ (ih fun other hother => h other (by simp [hother]))
    unfold memberFindings
    split
    · rename_i member hmember
      exact .under (h property (by simp) member hmember)
    · exact .clear

theorem othersFindings_each {known : List String} {each : String → Value → Findings}
    (h : ∀ name member, Table.get? (membersIn value) name = some member → name ∉ known →
      (each name member).Each fun issue => p (issue.under [.key name])) :
    (othersFindings known each value).Each p := by
  refine .all fun part hpart => ?_
  obtain ⟨name, -, rfl⟩ := List.mem_map.1 hpart
  split
  · exact .clear
  · rename_i hunknown
    split
    · rename_i member hmember
      exact .under (h name member hmember (by simpa using hunknown))
    · exact .clear

end Parts

/-! ## Nodes -/

section Nodes

variable {refs : String → Value → Findings}

/-- All issues that a node finds in a value are such as checking it may report. -/
def Node.IsPlaced (place : Place) (refs : String → Value → Findings) (node : Node) : Prop :=
  ∀ value, (findings refs node value).Each (place.Reports node value)

variable {origin : Origin}

theorem array_placed {items : Items Node} {leading : Option (List Node)} {limits : ArrayLimits}
    (h : ∀ node, Node.HasPart (.array origin items leading limits) node →
      Node.IsPlaced place refs node) :
    Node.IsPlaced place refs (.array origin items leading limits) := by
  intro value
  have htype : Code.invalidType.Allowed
      (place.Reports (.array origin items leading limits) value) := fun _ _ => .about .here trivial
  rw [findings_array]
  refine typeFindings_each htype fun hholds => ?_
  have hreports := @Place.reports_of_type place (.array origin items leading limits) value .array
    rfl hholds
  have hsmall := hreports .tooSmall (by simp [Code.types])
  obtain ⟨elements, helements⟩ := hholds
  have hof : elementsOf value = elements := by simp [elementsOf, helements]
  have hlimits := arrayLimitFindings_plain hsmall (hreports .tooBig (by simp [Code.types]))
    (hreports .notUnique (by simp [Code.types])) limits value
  have hlength := fun count isClosed =>
    Each.ofPlain (tupleLengthFindings_plain htype hsmall count isClosed value)
  refine .andThen (layoutFindings_each hlength ?_) (.ofPlain hlimits)
  -- What the node of a position finds in its item is found in the array, one step further in.
  intro position node item hnode hitem
  rw [hof] at hitem
  exact (h node (hasPart_of_itemNode? hnode) item).mono fun issue hissue =>
    hissue.under fun path last found => .item helements hitem hnode

theorem object_placed {properties : Option (List (Property Node))} {required : List String}
    {additional : Additional Node} {limits : ObjectLimits}
    (h : ∀ node, Node.HasPart (.object origin properties required additional limits) node →
      Node.IsPlaced place refs node) :
    Node.IsPlaced place refs (.object origin properties required additional limits) := by
  intro value
  rw [findings_object]
  refine typeFindings_each (fun _ _ => .about .here trivial) fun hholds => ?_
  have hreports := @Place.reports_of_type place
    (.object origin properties required additional limits) value .object rfl hholds
  obtain ⟨members, rfl⟩ : ∃ members, value = .dict members := by
    obtain ⟨members, hmembers⟩ := hholds
    cases value <;> cases hmembers
    exact ⟨members, rfl⟩
  refine .andThen (.andThen (.andThen ?_ ?_) ?_) ?_
  · exact .ofPlain (objectLimitFindings_plain (hreports .tooSmall (by simp [Code.types]))
      (hreports .tooBig (by simp [Code.types])) limits _)
  · refine .all fun part hpart => ?_
    obtain ⟨key, hkey, rfl⟩ := List.mem_map.1 hpart
    refine .when fun hmissing => .about .here ?_
    refine ⟨origin, properties, required, additional, limits, members, rfl, rfl, key, hkey, ?_⟩
    rw [Table.mem_keys, ← Table.has_iff]
    simpa [membersIn, Value.members?] using hmissing
  · cases properties with
    | none => exact .clear
    | some properties =>
      refine declaredFindings_each fun property hmem member hget => ?_
      exact (h _ (.property hmem) member).mono fun issue hissue =>
        hissue.under fun path last found => .property hmem hget
  · cases additional with
    | schema node =>
      refine othersFindings_each fun name member hget hname => ?_
      exact (h _ .additional member).mono fun issue hissue =>
        hissue.under fun path last found => .additional hname hget
    | value raw =>
      by_cases hraw : raw = some (.bool false)
      · subst hraw
        cases properties with
        | none => exact .clear
        | some properties =>
          refine othersFindings_each fun name member hget hname => .report ?_
          exact .key .here (Table.mem_keys.2 ⟨member, hget⟩) hname
      · rw [additionalFindings_open refs hraw]
        exact .clear

/-- **Nodes only report what checking a value may report**, if references do. -/
theorem findings_placed (hrefs : ∀ origin target value,
      (refs target value).Each (place.Reports (.ref origin target) value)) (node : Node) :
    Node.IsPlaced place refs node := by
  induction node using Node.induction with
  | step node ih =>
    cases node with
    | unknown origin =>
      intro value
      rw [findings]
      exact .clear
    | const origin expected =>
      intro value
      rw [findings]
      exact .when fun _ => .about .here trivial
    | enum origin allowed =>
      intro value
      rw [findings]
      exact .when fun _ => .about .here trivial
    | combinator origin kind branches =>
      intro value
      rw [findings]
      split
      · exact .clear
      · exact branchFindings_each fun _ _ => .about .here trivial
    | ref origin target =>
      intro value
      rw [findings]
      exact hrefs origin target value
    | primitive origin type =>
      intro value
      rw [findings]
      exact .ofPlain (primitiveFindings_plain (fun _ _ => .about .here trivial) fun hholds =>
        Place.reports_of_type rfl hholds)
    | union origin types =>
      intro value
      rw [findings]
      exact .ofPlain (unionFindings_plain (fun _ _ => .about .here trivial) types value)
    | array origin items leading limits => exact array_placed ih
    | object origin properties required additional limits => exact object_placed ih

end Nodes

/-! ## Calls -/

/-- Calls of named pointers only report what checking their values may report. -/
def Call.IsPlaced (place : Place) (call : Call) : Prop :=
  ∀ pointer name node value issues, place.registry.validatorName? pointer = some name →
    Module.nodeOf place.document pointer = .ok node → call name value = .ok (.failure issues) →
    ∀ issue ∈ issues, place.Reports node value issue

variable {validators : List Validator}

theorem refFindings_placed {call : Call} (hanswers : place.Answers validators)
    (hcall : call.IsPlaced place) (fuel : Nat) (origin : Origin) (ref : String) (value : Value) :
    (refFindings place call fuel ref value).Each (place.Reports (.ref origin ref) value) := by
  induction fuel generalizing origin ref value with
  | zero => exact .broken _
  | succ fuel ih =>
    rw [refFindings]
    cases hname : place.registry.validatorName? ref with
    | some name =>
      obtain ⟨node, hnode, -⟩ := hanswers ref name hname
      refine .ofCall fun issues hissues issue hissue => ?_
      exact .ref (Place.target?_of_validator hname hnode)
        (hcall ref name node value issues hname hnode hissues issue hissue)
    | none =>
      cases hleads : leadsTo place.document ref with
      | none => exact .clear
      | some node =>
        have hnode : place.target? ref = some node := by
          simp only [Place.target?, hname]
          exact hleads
        exact (findings_placed ih node value).mono fun issue => .ref hnode

/-- **Validators only report what checking their values may report.** The induction is on how many
calls may be inside each other. -/
theorem runAs_placed (hanswers : place.Answers validators) (abortEarly : Bool) (fuel : Nat) :
    Call.IsPlaced place (runAs .plain validators abortEarly fuel) := by
  induction fuel with
  | zero =>
    intro pointer name node value issues _ _ hrun
    cases hrun
  | succ fuel ih =>
    intro pointer name node value issues hname hnode hrun
    obtain ⟨found, hfound, hfindings⟩ := hanswers pointer name hname
    rw [hnode] at hfound
    cases hfound
    exact (findings_placed (refFindings_placed hanswers ih _) node value).outcome
      (hfindings _ _ _ _ hrun)

end Check

/-! ## Modules -/

/-- An issue about a value is where it says, and says what is there. -/
structure Issue.Placed (place : Check.Place) (node : Node) (value : Value) (issue : Issue) :
    Prop where
  found : ∃ found, value.follow? issue.path = some found
  message_eq : issue.message = "Expected " ++ issue.expected ++ ", received " ++ issue.received
  /-- The object there lacks a key that its schema requires. -/
  missing : issue.code = "missing_key" →
    ∃ origin properties required additional limits members, ∃ key ∈ required,
      place.Visits node value issue.path (.object origin properties required additional limits)
        (.dict members) ∧ key ∉ Table.keys members
  /-- The last step is by a key that the schema of the object does not declare. -/
  unrecognized : issue.code = "unrecognized_key" →
    ∃ path name origin properties required additional limits members,
      issue.path = path ++ [.key name] ∧
      place.Visits node value path (.object origin (some properties) required additional limits)
        (.dict members) ∧ name ∈ Table.keys members ∧ name ∉ properties.map (·.name)
  /-- What is there is of the type whose constraint it does not satisfy. -/
  constrained : ∀ code : Check.Code, code.types ≠ [] → issue.code = code.name →
    ∃ inner found, place.Visits node value issue.path inner found ∧
      ∃ type ∈ code.types, Check.baseType? inner = some type ∧ type.Holds found

theorem Check.Place.Reports.placed {place : Check.Place} {value : Value} {issue : Issue}
    (h : place.Reports node value issue) : issue.Placed place node value := by
  cases h with
  | @about code path inner found expected received hvisits habout =>
    have hname : ∀ other : Check.Code, code.name = other.name → code = other :=
      fun _ => Check.Code.name_injective
    refine ⟨⟨found, hvisits.follow⟩, rfl, fun hcode => ?_, fun hcode => ?_,
      fun other hother hcode => ?_⟩
    · cases hname .missingKey hcode
      obtain ⟨origin, properties, required, additional, limits, members, rfl, rfl, key, hkey,
        hlacks⟩ := habout
      exact ⟨origin, properties, required, additional, limits, members, key, hkey, hvisits, hlacks⟩
    · cases hname .unrecognizedKey hcode
      exact habout.elim
    · cases hname other hcode
      exact ⟨inner, found, hvisits, habout.of_types hother⟩
  | @key path name origin properties required additional limits members expected received hvisits
      hmem hname =>
    obtain ⟨member, hget⟩ := Table.mem_keys.1 hmem
    refine ⟨⟨member, ?_⟩, rfl, fun hcode => ?_, fun _ => ?_, fun other hother hcode => ?_⟩
    · show value.follow? (path ++ [.key name]) = some member
      rw [Value.follow?_append, hvisits.follow]
      simp [Value.follow?, Value.child?, Value.members?, hget]
    · cases Check.Code.name_injective (show Check.Code.unrecognizedKey.name
        = Check.Code.missingKey.name from hcode)
    · exact ⟨path, name, origin, properties, required, additional, limits, members, rfl, hvisits,
        hmem, hname⟩
    · cases Check.Code.name_injective (show Check.Code.unrecognizedKey.name = other.name from hcode)
      exact (hother rfl).elim

namespace Module

variable {document : Json} {schemaPath : String} {targets : List Target}
  {module : Module} {run : Run} {entry : Entry} {abortEarly : Bool} {value : Value}
  {outcome : Check.Outcome}

/-- Two definitions, of integers and of objects. -/
def tallySchema : Json := .object [("$defs", .object [
  ("a", .object [("type", .string "integer")]),
  ("b", .object [("type", .string "object"), ("properties", .object [])])])]

/-- A list of pairs, from which a type of objects can be called. -/
def tallyPairs : Value := .list [.list [.string "k", .number (.int 1)]]

end Module

end SchemaGuard
