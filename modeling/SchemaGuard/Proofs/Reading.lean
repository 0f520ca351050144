import Mathlib.Data.Fintype.Card
import Mathlib.Data.Set.Finite.Basic
import Mathlib.Logic.Relation
import SchemaGuard.Module
import SchemaGuard.Proofs.Meaning
import SchemaGuard.Proofs.Parsing

/-!
# What references mean

A reference means what the node it is about means, which may hold the same reference again. A
meaning of all references that agrees with itself in this way *reads* them (`Place.Reads`).

**Theorem (`exists_reading`, `reading_unique`).** If no reference comes back to itself through
branches only, so that every circle of references goes into a part of the value, then there is
exactly one way of reading references. Satisfying a node depends on references in two ways: on those
that its branches leave the value itself to, and on what all references say about smaller values
(`satisfies_congr`). Both get used up.
-/

namespace SchemaGuard

/-- The node that a reference is about: the one at a pointer with a validator, or the one that the
reference is expanded to. -/
def Check.Place.target? (place : Check.Place) (ref : String) : Option Node :=
  match place.registry.validatorName? ref with
  | some _ => (Module.nodeOf place.document ref).toOption
  | none => leadsTo place.document ref

/-- A meaning of references that agrees with what they are about; those about nothing ask for
nothing. -/
def Check.Place.Reads (place : Check.Place) (meaning : String → Value → Prop) : Prop :=
  ∀ ref value, meaning ref value ↔ ∀ node, place.target? ref = some node →
    Satisfies meaning node value

mutual

/-- The references that a node leaves the value itself to: the one that it is, or those of its
branches. -/
def Node.deferred : Node → List String
  | .ref _ target => [target]
  | .combinator _ .oneOf branches => deferredIn branches
  | .combinator _ .anyOf branches => deferredIn branches
  | _ => []

def Node.deferredIn : List Node → List String
  | [] => []
  | node :: nodes => node.deferred ++ deferredIn nodes

end

theorem Node.mem_deferredIn {nodes : List Node} {target : String} :
    target ∈ deferredIn nodes ↔ ∃ node ∈ nodes, target ∈ node.deferred := by
  induction nodes with
  | nil => simp [deferredIn]
  | cons node nodes ih => simp [deferredIn, ih]

/-- A reference leaves the value itself to another one. -/
def Check.Place.Defers (place : Check.Place) (other ref : String) : Prop :=
  ∃ node, place.target? ref = some node ∧ other ∈ node.deferred

/-- No reference comes back to itself without going into the value. -/
def Check.Place.GoesInward (place : Check.Place) : Prop :=
  ∀ ref, ¬Relation.TransGen place.Defers ref ref

/-! ## What satisfying a node depends on -/

section Congruence

variable {refs refs' : String → Value → Prop}

/-- Two meanings of references agree about a node and a value. -/
def Agree (refs refs' : String → Value → Prop) (node : Node) (value : Value) : Prop :=
  Satisfies refs node value ↔ Satisfies refs' node value

variable {nodes : List Node} {value : Value} {members : List (String × Value)} {other : Value}
  {elements : List Value}

theorem satisfiesSome_congr
    (h : ∀ node ∈ nodes, (Satisfies refs node value ↔ Satisfies refs' node other)) :
    SatisfiesSome refs nodes value ↔ SatisfiesSome refs' nodes other := by
  induction nodes with
  | nil => exact Iff.rfl
  | cons node nodes ih =>
    exact or_congr (h node (by simp)) (ih fun other hother => h other (by simp [hother]))

theorem satisfiesOne_congr
    (h : ∀ node ∈ nodes, (Satisfies refs node value ↔ Satisfies refs' node other)) :
    SatisfiesOne refs nodes value ↔ SatisfiesOne refs' nodes other := by
  induction nodes with
  | nil => exact Iff.rfl
  | cons node nodes ih =>
    have hnodes : ∀ node ∈ nodes, (Satisfies refs node value ↔ Satisfies refs' node other) :=
      fun node hnode => h node (by simp [hnode])
    have hfirst := h node (by simp)
    exact or_congr (and_congr hfirst (not_congr (satisfiesSome_congr hnodes)))
      (and_congr (not_congr hfirst) (ih hnodes))

theorem satisfiesEach_congr {items : List Value}
    (h : ∀ node ∈ nodes, ∀ item ∈ items, Agree refs refs' node item) :
    SatisfiesEach refs nodes items ↔ SatisfiesEach refs' nodes items := by
  induction nodes generalizing items with
  | nil => exact Iff.rfl
  | cons node nodes ih =>
    cases items with
    | nil => exact Iff.rfl
    | cons item items =>
      refine and_congr (h node (by simp) item (by simp)) (ih fun other hother next hnext => ?_)
      exact h other (by simp [hother]) next (by simp [hnext])

theorem satisfiesDeclared_congr {properties : List (Property Node)}
    (h : ∀ property ∈ properties, ∀ name member, Table.get? members name = some member →
      Agree refs refs' property.node member) :
    SatisfiesDeclared refs properties members ↔ SatisfiesDeclared refs' properties members := by
  induction properties with
  | nil => exact Iff.rfl
  | cons property properties ih =>
    rw [SatisfiesDeclared, SatisfiesDeclared, ih fun other hother => h other (by simp [hother])]
    refine and_congr_left fun _ => forall_congr' fun member => forall_congr' fun hget => ?_
    exact h property (by simp) _ member hget

theorem satisfiesLayout_congr {origin : Origin} {items : Items Node} {leading : Option (List Node)}
    {limits : ArrayLimits} (h : ∀ node, Node.HasPart (.array origin items leading limits) node →
      ∀ item ∈ elements, Agree refs refs' node item) :
    SatisfiesLayout refs items leading elements ↔ SatisfiesLayout refs' items leading elements := by
  cases leading with
  | some nodes =>
    have hnodes := satisfiesEach_congr fun node hmem => h node (.leading hmem)
    cases items with
    | all rest =>
      refine and_congr_right fun _ => and_congr hnodes ?_
      exact forall₂_congr fun item hitem => h rest .item item (List.mem_of_mem_drop hitem)
    | each | absent => exact and_congr_right fun _ => hnodes
  | none =>
    cases items with
    | all node => exact forall₂_congr (h node .item)
    | each nodes =>
      exact and_congr_right fun _ => satisfiesEach_congr fun node hmem => h node (.listed hmem)
    | absent => exact Iff.rfl

theorem satisfiesAdditional_congr {properties : Option (List (Property Node))}
    {additional : Additional Node}
    (h : ∀ node, additional = .schema node → ∀ name member, Table.get? members name = some member →
      Agree refs refs' node member) :
    SatisfiesAdditional refs properties additional members ↔
      SatisfiesAdditional refs' properties additional members := by
  unfold SatisfiesAdditional
  split
  · rename_i node
    exact forall₃_congr fun name member hget => forall_congr' fun _ => h node rfl name member hget
  · rfl
  · rfl

theorem sizeOf_element {item : Value} (helements : value.elements? = some elements)
    (hitem : item ∈ elements) : sizeOf item < sizeOf value := by
  have hlt := List.sizeOf_lt_of_mem hitem
  cases value <;> cases helements <;> simp only [Value.list.sizeOf_spec,
    Value.tuple.sizeOf_spec] <;> omega

theorem sizeOf_member {member : Value} {name : String} (hmembers : value.members? = some members)
    (hget : Table.get? members name = some member) :
    sizeOf member < sizeOf value := by
  have hlt := List.sizeOf_lt_of_mem (Table.mem_of_get? hget)
  cases value <;> cases hmembers
  simp only [Value.dict.sizeOf_spec, Prod.mk.sizeOf_spec] at *
  omega

/-- Meanings agree about a node and a value if they do about the references that the node leaves the
value to and about smaller values. -/
def Settled (refs refs' : String → Value → Prop) (node : Node) : Prop :=
  ∀ value, (∀ target ∈ node.deferred, (refs target value ↔ refs' target value)) →
    (∀ target part, sizeOf part < sizeOf value → (refs target part ↔ refs' target part)) →
    Agree refs refs' node value

theorem Settled.inside {node : Node} {part : Value} (h : Settled refs refs' node)
    (hpart : ∀ target part, sizeOf part < sizeOf value → (refs target part ↔ refs' target part))
    (hlt : sizeOf part < sizeOf value) : Agree refs refs' node part :=
  h part (fun target _ => hpart target part hlt) fun target smaller hsmaller =>
    hpart target smaller (hsmaller.trans hlt)

/-- **What satisfying a node depends on.** -/
theorem satisfies_congr (node : Node) : Settled refs refs' node := by
  induction node using Node.induction with
  | step node ih =>
    cases node with
    | unknown | const | enum | primitive | union => exact fun _ _ _ => Iff.rfl
    | ref origin target => exact fun _ hdefer _ => hdefer target (List.mem_singleton_self target)
    | combinator origin kind branches =>
      intro value hdefer hpart
      have hbranches : (∀ target ∈ Node.deferredIn branches,
        (refs target value ↔ refs' target value)) →
          ∀ branch ∈ branches, Agree refs refs' branch value := fun hdefer branch hmem =>
        ih branch (.branch hmem) value
          (fun target h => hdefer target (Node.mem_deferredIn.2 ⟨branch, hmem, h⟩)) hpart
      cases kind with
      | allOf => exact Iff.rfl
      | oneOf => exact or_congr_right (satisfiesOne_congr (hbranches hdefer))
      | anyOf => exact or_congr_right (satisfiesSome_congr (hbranches hdefer))
    | array origin items leading limits =>
      intro value _ hpart
      rw [Agree, satisfies_array, satisfies_array]
      refine exists_congr fun elements => and_congr_right fun helements => and_congr_left fun _ => ?_
      exact satisfiesLayout_congr fun node hnode item hitem =>
        (ih node hnode).inside hpart (sizeOf_element helements hitem)
    | object origin properties required additional limits =>
      intro value _ hpart
      rw [Agree, satisfies_object, satisfies_object]
      refine exists_congr fun members => and_congr_right fun hmembers => and_congr_right fun _ =>
        and_congr_right fun _ => and_congr ?_ ?_
      · cases properties with
        | none => exact Iff.rfl
        | some properties =>
          exact satisfiesDeclared_congr fun property hmem name member hget =>
            (ih _ (.property hmem)).inside hpart (sizeOf_member hmembers hget)
      · refine satisfiesAdditional_congr fun node h name member hget => ?_
        subst h
        exact (ih node .additional).inside hpart (sizeOf_member hmembers hget)

end Congruence

/-! ## Finitely many steps back -/

/-- If only finitely many lead to a start and none of them leads to itself, then every way back from
the start comes to an end. -/
theorem acc_of_acyclic {α : Type} {r : α → α → Prop} {start : α}
    (hfinite : {a | Relation.ReflTransGen r a start}.Finite)
    (hacyclic : ∀ a, Relation.ReflTransGen r a start → ¬Relation.TransGen r a a) : Acc r start := by
  let Before := { a : α // Relation.ReflTransGen r a start }
  let leads : Before → Before → Prop := fun a b => Relation.TransGen r a.1 b.1
  have : Finite Before := hfinite.to_subtype
  have : IsTrans Before leads := ⟨fun _ _ _ h h' => h.trans h'⟩
  have : Std.Irrefl leads := ⟨fun a => hacyclic a.1 a.2⟩
  have hleads := (Finite.wellFounded_of_trans_of_irrefl leads).apply
  have hacc : ∀ a : Before, Acc r a.1 := by
    intro a
    induction hleads a with
    | intro a _ ih => exact ⟨_, fun b hb => ih ⟨b, .head hb a.2⟩ (.single hb)⟩
  exact hacc ⟨start, .refl⟩

/-! ## References are those of the document -/

variable {document : Json} {node : Node} {ref pointer : String}

/-- A reference leads to the node at its pointer, or to the one that has its name. -/
theorem leadsTo_cases (h : leadsTo document ref = some node) :
    Schema.nodeAt document ref = .ok node ∨ Emit.byName document ref = .ok (some node) := by
  unfold leadsTo at h
  split at h
  · split at h
    · rename_i hnode
      cases h
      exact .inl hnode
    · cases hnamed : Emit.byName document ref with
      | error error =>
        rw [hnamed] at h
        cases h
      | ok found =>
        rw [hnamed] at h
        cases h
        exact .inr rfl
    · cases h
  · cases h

theorem leadsTo_readFrom (h : leadsTo document ref = some node) :
    Schema.ReadFrom document node := by
  rcases leadsTo_cases h with hnode | hnamed
  · exact Schema.nodeAt_readFrom hnode
  · unfold Emit.byName at hnamed
    split at hnamed
    · exact Schema.definitionNode_readFrom hnamed
    · cases hnamed

theorem Module.nodeOf_eq_ok (h : Module.nodeOf document pointer = .ok node) :
    ∃ schema, Pointer.resolve document pointer = .ok schema ∧
      Schema.parse pointer schema = .ok node := by
  unfold Module.nodeOf at h
  split at h
  · cases h
  · rename_i schema hresolve
    split at h
    · cases h
    · rename_i hparse
      cases h
      exact ⟨schema, hresolve, hparse⟩

theorem Module.nodeOf_readFrom (h : Module.nodeOf document pointer = .ok node) :
    Schema.ReadFrom document node := by
  obtain ⟨schema, hresolve, hparse⟩ := Module.nodeOf_eq_ok h
  exact (Schema.readFrom_of_parse hparse).mono (Schema.refs_of_resolve hresolve)

namespace Check.Place

variable {place : Place} {ref : String} {node : Node}

theorem target?_readFrom (h : place.target? ref = some node) :
    Schema.ReadFrom place.document node := by
  unfold target? at h
  split at h
  · cases hnode : Module.nodeOf place.document ref with
    | error error =>
      rw [hnode] at h
      cases h
    | ok found =>
      rw [hnode] at h
      cases h
      exact Module.nodeOf_readFrom hnode
  · exact leadsTo_readFrom h

/-- The references that a node leaves the value to are written in its schema. -/
theorem deferred_subset_refs (hread : Schema.ReadFrom place.document node) :
    node.deferred ⊆ Schema.refs place.document := by
  induction node using Node.induction with
  | step node ih =>
    cases node with
    | ref origin target => exact List.cons_subset.2 ⟨hread.mem_refs, List.nil_subset _⟩
    | combinator origin kind branches =>
      have hbranches : Node.deferredIn branches ⊆ Schema.refs place.document := by
        intro target htarget
        obtain ⟨branch, hmem, hdeferred⟩ := Node.mem_deferredIn.1 htarget
        exact ih branch (.branch hmem) (hread.part (.branch hmem)) hdeferred
      cases kind with
      | allOf => exact List.nil_subset _
      | oneOf => exact hbranches
      | anyOf => exact hbranches
    | unknown | const | enum | primitive | union | array | object => exact List.nil_subset _

theorem Defers.mem_refs {other : String} (h : place.Defers other ref) :
    other ∈ Schema.refs place.document := by
  obtain ⟨node, htarget, hdeferred⟩ := h
  exact deferred_subset_refs (target?_readFrom htarget) hdeferred

/-- If no reference comes back to itself, leaving a value to another reference comes to an end:
there are only as many references as the document has. -/
theorem GoesInward.wellFounded (h : place.GoesInward) : WellFounded place.Defers := by
  refine ⟨fun ref => acc_of_acyclic ?_ fun other _ => h other⟩
  refine ((List.finite_toSet (Schema.refs place.document)).insert ref).subset fun other hpath => ?_
  rcases hpath.cases_head with rfl | ⟨_, hdefers, _⟩
  · exact .inl rfl
  · exact .inr hdefers.mem_refs

/-- References go inward if there is a rank that falls whenever a value is left to another
reference. -/
theorem goesInward_of_rank (rank : String → Nat)
    (h : ∀ ref ∈ Schema.refs place.document, ∀ other, place.Defers other ref →
      rank other < rank ref) :
    place.GoesInward := by
  have hfalls : ∀ {other ref}, Relation.TransGen place.Defers other ref →
      other ∈ Schema.refs place.document ∧
        (ref ∈ Schema.refs place.document → rank other < rank ref) := by
    intro other ref hpath
    induction hpath with
    | single hdefers => exact ⟨hdefers.mem_refs, fun hmem => h _ hmem _ hdefers⟩
    | tail _ hdefers ih =>
      exact ⟨ih.1, fun hmem => (ih.2 hdefers.mem_refs).trans (h _ hmem _ hdefers)⟩
  intro ref hcycle
  obtain ⟨hmem, hlt⟩ := hfalls hcycle
  exact Nat.lt_irrefl _ (hlt hmem)

/-! ## One way of reading -/

variable {meaning : String → Value → Prop}

theorem Reads.iff_of_target (h : place.Reads meaning) (htarget : place.target? ref = some node)
    (value : Value) :
    meaning ref value ↔ Satisfies meaning node value := by
  rw [h ref value, htarget]
  simp

/-- A question about a reference and a value comes before another one: the value is smaller, or the
reference is one that the value is left to. -/
def Before (place : Place) (question later : String × Value) : Prop :=
  sizeOf question.2 < sizeOf later.2 ∨ question.2 = later.2 ∧ place.Defers question.1 later.1

variable {other : String → Value → Prop}

theorem GoesInward.before_wellFounded (h : place.GoesInward) : WellFounded place.Before := by
  have hacc : ∀ size value, sizeOf value = size → ∀ ref, Acc place.Before (ref, value) := by
    intro size
    induction size using Nat.strongRecOn with
    | ind size ihsize =>
      intro value hsize ref
      induction h.wellFounded.apply ref with
      | intro ref _ ihref =>
        refine ⟨_, fun question hquestion => ?_⟩
        obtain ⟨other, part⟩ := question
        rcases hquestion with hlt | ⟨hsame, hdefers⟩
        · exact ihsize (sizeOf part) (hsize ▸ hlt) part rfl other
        · cases hsame
          exact ihref other hdefers
  exact ⟨fun question => hacc _ question.2 rfl question.1⟩

/-- What a reference means depends on earlier questions only. -/
theorem agree_of_before {value : Value} (htarget : place.target? ref = some node)
    (h : ∀ question : String × Value, place.Before question (ref, value) →
      (meaning question.1 question.2 ↔ other question.1 question.2)) :
    Agree meaning other node value :=
  satisfies_congr node value
    (fun target hdefers => h (target, value) (.inr ⟨rfl, node, htarget, hdefers⟩))
    fun target part hlt => h (target, part) (.inl hlt)

/-- **There is at most one way of reading references.** -/
theorem GoesInward.reading_unique (h : place.GoesInward) (hmeaning : place.Reads meaning)
    (hother : place.Reads other) : meaning = other := by
  have hsame : ∀ question : String × Value, meaning question.1 question.2 ↔
    other question.1 question.2 := by
    intro question
    induction question using h.before_wellFounded.induction with
    | _ question ih =>
      rw [hmeaning question.1 question.2, hother question.1 question.2]
      exact forall₂_congr fun node htarget => agree_of_before htarget ih
  funext ref value
  exact propext (hsame (ref, value))

/-- **There is a way of reading references**: each question is answered from those before it. -/
theorem GoesInward.exists_reading (h : place.GoesInward) : ∃ meaning, place.Reads meaning := by
  let answer : String × Value → Prop := h.before_wellFounded.fix fun question earlier =>
    ∀ node, place.target? question.1 = some node →
      Satisfies (fun ref value => ∃ hbefore : place.Before (ref, value) question, earlier _ hbefore)
        node question.2
  refine ⟨fun ref value => answer (ref, value), fun ref value => ?_⟩
  have hanswer : answer (ref, value) = _ := h.before_wellFounded.fix_eq _ (ref, value)
  refine (iff_of_eq hanswer).trans ?_
  refine forall₂_congr fun node htarget => agree_of_before htarget fun question hbefore => ?_
  exact ⟨fun ⟨_, hearlier⟩ => hearlier, fun hearlier => ⟨hbefore, hearlier⟩⟩

end Check.Place

end SchemaGuard
