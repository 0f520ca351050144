import SchemaGuard.Proofs.Constraints
import SchemaGuard.Proofs.Reading

/-!
# What findings depend on

The findings of a node are put together from those of references, so whatever is true of references
and survives the putting together is true of the node. `Findings.Closed R` says that a relation
between findings survives it.

**Theorem (`findings_related`).** If a relation is closed, two ways of answering references give
related findings about a node, provided that their answers are related in two places: about the
value itself, for the references that the node leaves it to, and about the parts of the value, for
the references that the checks of the node ask for at all (`Node.Asks`).

Branches only count by their verdicts. For these it is enough that two verdicts are the same where
there are both (`Findings.Accord`).
-/

namespace SchemaGuard

/-! ## References that are asked for -/

/-- The checks of a node use those of another one, which it holds. An `allOf` is not checked, and
items that are listed one by one count only where no leading ones are given. -/
inductive Node.Uses : Node → Node → Prop where
  | branch {origin : Origin} {kind : Combinator} {branches : List Node} {branch : Node}
      (hkind : kind ≠ .allOf) (h : branch ∈ branches) :
      Uses (.combinator origin kind branches) branch
  | item {origin : Origin} {node : Node} {leading : Option (List Node)} {limits : ArrayLimits} :
      Uses (.array origin (.all node) leading limits) node
  | listed {origin : Origin} {nodes : List Node} {limits : ArrayLimits} {node : Node}
      (h : node ∈ nodes) : Uses (.array origin (.each nodes) none limits) node
  | leading {origin : Origin} {items : Items Node} {nodes : List Node} {limits : ArrayLimits}
      {node : Node} (h : node ∈ nodes) : Uses (.array origin items (some nodes) limits) node
  | property {origin : Origin} {properties : List (Property Node)} {required : List String}
      {additional : Additional Node} {limits : ObjectLimits} {property : Property Node}
      (h : property ∈ properties) :
      Uses (.object origin (some properties) required additional limits) property.node
  | additional {origin : Origin} {properties : Option (List (Property Node))}
      {required : List String} {node : Node} {limits : ObjectLimits} :
      Uses (.object origin properties required (.schema node) limits) node

variable {node : Node}

theorem Node.Uses.hasPart {part : Node} (h : node.Uses part) : node.HasPart part := by
  cases h with
  | branch _ hmem => exact .branch hmem
  | item => exact .item
  | listed hmem => exact .listed hmem
  | leading hmem => exact .leading hmem
  | property hmem => exact .property hmem
  | additional => exact .additional

/-- The checks of a node ask for a reference. -/
inductive Node.Asks : Node → String → Prop where
  | ref {origin : Origin} {target : String} : Asks (.ref origin target) target
  | part {node part : Node} {target : String} (huses : node.Uses part) (h : part.Asks target) :
      Asks node target

/-- The references that a node leaves the value to are asked for. -/
theorem Node.asks_of_deferred {target : String} (h : target ∈ node.deferred) :
    node.Asks target := by
  induction node using Node.induction with
  | step node ih =>
    cases node with
    | ref origin other =>
      cases List.mem_singleton.1 h
      exact .ref
    | combinator origin kind branches =>
      have hbranches : kind ≠ .allOf → target ∈ Node.deferredIn branches →
          (Node.combinator origin kind branches).Asks target := by
        intro hkind hmem
        obtain ⟨branch, hbranch, hdeferred⟩ := Node.mem_deferredIn.1 hmem
        exact .part (.branch hkind hbranch) (ih branch (.branch hbranch) hdeferred)
      cases kind with
      | allOf => cases h
      | oneOf => exact hbranches nofun h
      | anyOf => exact hbranches nofun h
    | unknown | const | enum | primitive | union | array | object => cases h

/-- References that are asked for are written in the document. -/
theorem Node.Asks.mem_refs {document : Json} {target : String} (h : node.Asks target)
    (hread : Schema.ReadFrom document node) :
    target ∈ Schema.refs document := by
  induction h with
  | ref => exact hread.mem_refs
  | part huses _ ih => exact ih (hread.part huses.hasPart)

/-! ## Parts are less deep -/

theorem Value.depth_le_depthItems {item : Value} {items : List Value} (h : item ∈ items) :
    item.depth ≤ Value.depthItems items := by
  induction items with
  | nil => cases h
  | cons first items ih =>
    rw [Value.depthItems]
    rcases List.mem_cons.1 h with rfl | hmem
    · exact Nat.le_max_left _ _
    · exact Nat.le_trans (ih hmem) (Nat.le_max_right _ _)

theorem Value.depth_le_depthMembers {name : String} {member : Value}
    {members : List (String × Value)} (h : (name, member) ∈ members) :
    member.depth ≤ Value.depthMembers members := by
  induction members with
  | nil => cases h
  | cons first members ih =>
    obtain ⟨other, value⟩ := first
    rw [Value.depthMembers]
    rcases List.mem_cons.1 h with heq | hmem
    · cases heq
      exact Nat.le_max_left _ _
    · exact Nat.le_trans (ih hmem) (Nat.le_max_right _ _)

namespace Check

theorem depth_element {value item : Value} (h : item ∈ elementsOf value) :
    item.depth < value.depth := by
  cases value with
  | list items => exact Nat.lt_succ_of_le (Value.depth_le_depthItems h)
  | tuple items => exact Nat.lt_succ_of_le (Value.depth_le_depthItems h)
  | null | bool | number | string | bytes | dict => cases h

theorem depth_member {value member : Value} {name : String}
    (h : Table.get? (membersIn value) name = some member) : member.depth < value.depth := by
  cases value with
  | dict members =>
    exact Nat.lt_succ_of_le (Value.depth_le_depthMembers (Table.mem_of_get? h))
  | null | bool | number | string | bytes | list | tuple => cases h

open Findings

/-! ## Verdicts that agree -/

/-- Two findings agree: where both come to a verdict, it is the same. -/
def Findings.Accord (first second : Findings) : Prop :=
  ∀ passes passes', first.verdict = .ok passes → second.verdict = .ok passes' → passes = passes'

variable {firsts seconds : List Findings}

theorem anyVerdict_agree (h : List.Forall₂ Accord firsts seconds) {passes passes' : Bool}
    (hfirsts : anyVerdict (firsts.map Findings.verdict) = .ok passes)
    (hseconds : anyVerdict (seconds.map Findings.verdict) = .ok passes') : passes = passes' := by
  induction h with
  | nil =>
    cases hfirsts
    cases hseconds
    rfl
  | cons hfirst _ ih =>
    obtain ⟨one, hone, hfirsts⟩ := bind_eq_ok.1 hfirsts
    obtain ⟨other, hother, hseconds⟩ := bind_eq_ok.1 hseconds
    cases hfirst one other hone hother
    cases one with
    | true =>
      cases hfirsts
      cases hseconds
      rfl
    | false => exact ih hfirsts hseconds

theorem allVerdicts_agree (h : List.Forall₂ Accord firsts seconds) {passed passed' : List Bool}
    (hfirsts : (firsts.map Findings.verdict).mapM id = .ok passed)
    (hseconds : (seconds.map Findings.verdict).mapM id = .ok passed') : passed = passed' := by
  induction h generalizing passed passed' with
  | nil =>
    cases hfirsts
    cases hseconds
    rfl
  | cons hfirst _ ih =>
    rw [List.map_cons, List.mapM_cons] at hfirsts hseconds
    obtain ⟨one, hone, hfirsts⟩ := bind_eq_ok.1 hfirsts
    obtain ⟨ones, hones, hfirsts⟩ := bind_eq_ok.1 hfirsts
    obtain ⟨other, hother, hseconds⟩ := bind_eq_ok.1 hseconds
    obtain ⟨others, hothers, hseconds⟩ := bind_eq_ok.1 hseconds
    cases hfirsts
    cases hseconds
    rw [hfirst one other hone hother, ih hones hothers]

/-- Branches with verdicts that agree: one side breaks off, or the findings are the same. -/
theorem branchFindings_agree (kind : Combinator) (h : List.Forall₂ Accord firsts seconds) :
    (∃ fault, branchFindings kind (firsts.map Findings.verdict) = .broken fault) ∨
      (∃ fault, branchFindings kind (seconds.map Findings.verdict) = .broken fault) ∨
      branchFindings kind (firsts.map Findings.verdict) =
          branchFindings kind (seconds.map Findings.verdict) ∧
        (branchFindings kind (seconds.map Findings.verdict)).Plain fun _ => True := by
  cases kind with
  | oneOf =>
    simp only [branchFindings]
    cases hfirsts : (firsts.map Findings.verdict).mapM id with
    | error fault => exact .inl ⟨fault, rfl⟩
    | ok passed =>
      cases hseconds : (seconds.map Findings.verdict).mapM id with
      | error fault => exact .inr (.inl ⟨fault, rfl⟩)
      | ok passed' =>
        cases allVerdicts_agree h hfirsts hseconds
        exact .inr (.inr ⟨rfl, .when trivial⟩)
  | anyOf | allOf =>
    simp only [branchFindings]
    cases hfirsts : anyVerdict (firsts.map Findings.verdict) with
    | error fault => exact .inl ⟨fault, rfl⟩
    | ok passes =>
      cases hseconds : anyVerdict (seconds.map Findings.verdict) with
      | error fault => exact .inr (.inl ⟨fault, rfl⟩)
      | ok passes' =>
        cases anyVerdict_agree h hfirsts hseconds
        exact .inr (.inr ⟨rfl, .when trivial⟩)

theorem verdictsOf_eq_map (refs : String → Value → Findings) (nodes : List Node) (value : Value) :
    verdictsOf refs nodes value =
      (nodes.map fun node => findings refs node value).map Findings.verdict := by
  induction nodes with
  | nil => rw [verdictsOf]; rfl
  | cons node nodes ih => rw [verdictsOf, ih]; rfl

/-! ## Relations between findings -/

/-- A relation between findings that survives the ways in which findings are put together. -/
structure Findings.Closed (R : Findings → Findings → Prop) : Prop where
  plain : ∀ {findings : Findings}, (findings.Plain fun _ => True) → R findings findings
  andThen : ∀ {first first' second second' : Findings}, R first first' → R second second' →
    R (first.andThen second) (first'.andThen second')
  under : ∀ {first first' : Findings} (path : List PathToken), R first first' →
    R (first.under path) (first'.under path)
  branches : ∀ (kind : Combinator) {firsts seconds : List Findings}, List.Forall₂ R firsts seconds →
    R (branchFindings kind (firsts.map Findings.verdict))
      (branchFindings kind (seconds.map Findings.verdict))

section Relation

variable {R : Findings → Findings → Prop} {refs refs' : String → Value → Findings}

variable {value : Value} {each each' : Value → Findings}

theorem Findings.Closed.all (hR : Closed R) {α : Type} {elements : List α}
    {each each' : α → Findings} (h : ∀ element ∈ elements, R (each element) (each' element)) :
    R (Findings.all (elements.map each)) (Findings.all (elements.map each')) := by
  induction elements with
  | nil => exact hR.plain .clear
  | cons element elements ih =>
    exact hR.andThen (h element (by simp)) (ih fun other hother => h other (by simp [hother]))

theorem Findings.Closed.type (hR : Closed R) {test : TypeTest} {typeName : String}
    {constraints constraints' : Value → Findings} (h : R (constraints value) (constraints' value)) :
    R (typeFindings test typeName constraints value)
      (typeFindings test typeName constraints' value) := by
  unfold typeFindings
  split
  · exact h
  · exact hR.plain (.report trivial)

theorem itemsFindings_related (hR : Closed R) {start : Option Nat}
    (h : ∀ item ∈ elementsOf value, R (each item) (each' item)) :
    R (itemsFindings start each value) (itemsFindings start each' value) := by
  refine hR.all fun entry hentry => hR.under _ (h entry.1 ?_)
  exact List.fst_mem_of_mem_zipIdx (List.mem_of_mem_drop hentry)

theorem positionFindings_related (hR : Closed R) {position : Nat}
    (h : ∀ item ∈ elementsOf value, R (each item) (each' item)) :
    R (positionFindings position each value) (positionFindings position each' value) := by
  unfold positionFindings
  split
  · rename_i item hitem
    exact hR.under _ (h item (List.mem_of_getElem? hitem))
  · exact hR.plain .clear

theorem memberFindings_related (hR : Closed R) {name : String}
    (h : ∀ member, Table.get? (membersIn value) name = some member →
      R (each member) (each' member)) :
    R (memberFindings name each value) (memberFindings name each' value) := by
  unfold memberFindings
  split
  · rename_i member hmember
    exact hR.under _ (h member hmember)
  · exact hR.plain .clear

theorem othersFindings_related (hR : Closed R) {known : List String}
    {each each' : String → Value → Findings}
    (h : ∀ name member, Table.get? (membersIn value) name = some member →
      R (each name member) (each' name member)) :
    R (othersFindings known each value) (othersFindings known each' value) := by
  refine hR.all fun name _ => ?_
  split
  · exact hR.plain .clear
  · split
    · rename_i member hmember
      exact hR.under _ (h name member hmember)
    · exact hR.plain .clear

theorem eachFindings_related (hR : Closed R) {nodes : List Node}
    (h : ∀ node ∈ nodes, ∀ item ∈ elementsOf value, R (findings refs node item)
      (findings refs' node item)) (position : Nat) :
    R (eachFindings refs nodes position value) (eachFindings refs' nodes position value) := by
  induction nodes generalizing position with
  | nil =>
    rw [eachFindings, eachFindings]
    exact hR.plain .clear
  | cons node nodes ih =>
    rw [eachFindings, eachFindings]
    exact hR.andThen (positionFindings_related hR (h node (by simp)))
      (ih (fun other hother => h other (by simp [hother])) (position + 1))

theorem declaredFindings_related (hR : Closed R) {properties : List (Property Node)}
    (h : ∀ property ∈ properties, ∀ name member, Table.get? (membersIn value) name = some member →
      R (findings refs property.node member) (findings refs' property.node member)) :
    R (declaredFindings refs properties value) (declaredFindings refs' properties value) := by
  induction properties with
  | nil =>
    rw [declaredFindings, declaredFindings]
    exact hR.plain .clear
  | cons property properties ih =>
    rw [declaredFindings, declaredFindings]
    exact hR.andThen (memberFindings_related hR (h property (by simp) _))
      (ih fun other hother => h other (by simp [hother]))

/-- Two ways of answering references give related findings about a node, if their answers are
related for what the node leaves the value to and for what it asks about parts of the value. -/
def Relates (R : Findings → Findings → Prop) (refs refs' : String → Value → Findings)
    (node : Node) : Prop :=
  ∀ value, (∀ target ∈ node.deferred, R (refs target value) (refs' target value)) →
    (∀ target part, node.Asks target → part.depth < value.depth →
      R (refs target part) (refs' target part)) →
    R (findings refs node value) (findings refs' node value)

variable {origin : Origin}

/-- Inside the value it no longer matters what a node leaves the value to. -/
theorem Relates.inside {node outer : Node} {part : Value} (h : Relates R refs refs' node)
    (huses : outer.Uses node) (hpart : ∀ target part, outer.Asks target → part.depth < value.depth →
      R (refs target part) (refs' target part)) (hlt : part.depth < value.depth) :
    R (findings refs node part) (findings refs' node part) :=
  h part (fun target hdeferred => hpart target part (.part huses (Node.asks_of_deferred hdeferred))
    hlt) fun target smaller hasks hsmaller =>
      hpart target smaller (.part huses hasks) (hsmaller.trans hlt)

theorem combinator_relates (hR : Closed R) {kind : Combinator} {branches : List Node}
    (h : ∀ branch, Node.HasPart (.combinator origin kind branches) branch →
      Relates R refs refs' branch) : Relates R refs refs' (.combinator origin kind branches) := by
  intro value hdefer hpart
  rw [findings, findings]
  split
  · exact hR.plain .clear
  · rename_i hchecked
    have hkind : kind ≠ .allOf := fun hall => hchecked (by simp [hall])
    have hdeferred : ∀ branch ∈ branches, ∀ target ∈ branch.deferred,
        target ∈ (Node.combinator origin kind branches).deferred := by
      intro branch hmem target htarget
      have hin := Node.mem_deferredIn.2 ⟨branch, hmem, htarget⟩
      cases kind with
      | allOf => exact (hkind rfl).elim
      | oneOf => exact hin
      | anyOf => exact hin
    rw [verdictsOf_eq_map, verdictsOf_eq_map]
    refine hR.branches kind ?_
    rw [List.forall₂_map_left_iff, List.forall₂_map_right_iff, List.forall₂_same]
    intro branch hmem
    refine h branch (.branch hmem) value (fun target htarget => hdefer target
      (hdeferred branch hmem target htarget)) fun target part hasks => ?_
    exact hpart target part (.part (.branch hkind hmem) hasks)

theorem array_relates (hR : Closed R) {items : Items Node} {leading : Option (List Node)}
    {limits : ArrayLimits} (h : ∀ node, Node.HasPart (.array origin items leading limits) node →
      Relates R refs refs' node) : Relates R refs refs' (.array origin items leading limits) := by
  intro value _ hpart
  have hinside : ∀ node, (Node.array origin items leading limits).Uses node →
      ∀ item ∈ elementsOf value, R (findings refs node item) (findings refs' node item) :=
    fun node huses item hitem => (h node huses.hasPart).inside huses hpart (depth_element hitem)
  rw [findings_array, findings_array]
  have hlimits : (arrayLimitFindings limits value).Plain fun _ => True :=
    arrayLimitFindings_plain (Code.allowed_true _) (Code.allowed_true _) (Code.allowed_true _) ..
  have hlength : ∀ count isClosed, R (tupleLengthFindings count isClosed value)
      (tupleLengthFindings count isClosed value) := fun count isClosed => hR.plain
    (tupleLengthFindings_plain (Code.allowed_true _) (Code.allowed_true _) count isClosed value)
  refine hR.type (hR.andThen ?_ (hR.plain hlimits))
  have hclosed : ∀ nodes : List Node, (∀ node ∈ nodes, ∀ item ∈ elementsOf value,
      R (findings refs node item) (findings refs' node item)) →
      R ((tupleLengthFindings nodes.length true value).andThen (eachFindings refs nodes 0 value))
        ((tupleLengthFindings nodes.length true value).andThen
          (eachFindings refs' nodes 0 value)) :=
    fun nodes h => hR.andThen (hlength nodes.length true) (eachFindings_related hR h 0)
  cases leading with
  | some nodes =>
    have hnodes := fun node hmem => hinside node (.leading hmem)
    cases items with
    | all rest =>
      exact hR.andThen (hR.andThen (hlength nodes.length false) (eachFindings_related hR hnodes 0))
        (itemsFindings_related hR (hinside rest .item))
    | each | absent => exact hclosed nodes hnodes
  | none =>
    cases items with
    | all node => exact itemsFindings_related hR (hinside node .item)
    | each nodes => exact hclosed nodes fun node hmem => hinside node (.listed hmem)
    | absent => exact hR.plain .clear

theorem object_relates (hR : Closed R) {properties : Option (List (Property Node))}
    {required : List String} {additional : Additional Node} {limits : ObjectLimits}
    (h : ∀ node, Node.HasPart (.object origin properties required additional limits) node →
      Relates R refs refs' node) :
    Relates R refs refs' (.object origin properties required additional limits) := by
  intro value _ hpart
  have hlimits : (objectLimitFindings limits value).Plain fun _ => True :=
    objectLimitFindings_plain (Code.allowed_true _) (Code.allowed_true _) limits value
  rw [findings_object, findings_object]
  refine hR.type (hR.andThen (hR.andThen (hR.andThen (hR.plain hlimits) ?_) ?_) ?_)
  · exact hR.all fun key _ => hR.plain (.when trivial)
  · cases properties with
    | none => exact hR.plain .clear
    | some properties =>
      exact declaredFindings_related hR fun property hmem name member hget =>
        (h _ (.property hmem)).inside (.property hmem) hpart (depth_member hget)
  · cases additional with
    | schema node =>
      exact othersFindings_related hR fun name member hget =>
        (h _ .additional).inside .additional hpart (depth_member hget)
    | value raw =>
      by_cases hraw : raw = some (.bool false)
      · subst hraw
        cases properties with
        | none => exact hR.plain .clear
        | some properties =>
          exact othersFindings_related hR fun name member _ => hR.plain (.report trivial)
      · rw [additionalFindings_open refs hraw, additionalFindings_open refs' hraw]
        exact hR.plain .clear

/-- **What the findings of a node depend on.** -/
theorem findings_related (hR : Closed R) (node : Node) : Relates R refs refs' node := by
  induction node using Node.induction with
  | step node ih =>
    cases node with
    | unknown origin =>
      intro value _ _
      rw [findings, findings]
      exact hR.plain .clear
    | const origin expected =>
      intro value _ _
      rw [findings, findings]
      exact hR.plain (.when trivial)
    | enum origin allowed =>
      intro value _ _
      rw [findings, findings]
      exact hR.plain (.when trivial)
    | primitive origin type =>
      intro value _ _
      rw [findings, findings]
      exact hR.plain (primitiveFindings_plain (Code.allowed_true _) fun _ code _ =>
        code.allowed_true)
    | union origin types =>
      intro value _ _
      rw [findings, findings]
      exact hR.plain (unionFindings_plain (Code.allowed_true _) types value)
    | ref origin target =>
      intro value hdefer _
      rw [findings, findings]
      exact hdefer target (List.mem_singleton_self target)
    | combinator origin kind branches => exact combinator_relates hR ih
    | array origin items leading limits => exact array_relates hR ih
    | object origin properties required additional limits => exact object_relates hR ih

end Relation

end Check

end SchemaGuard
