import Mathlib.Data.Set.Card
import SchemaGuard.Proofs.Calls
import SchemaGuard.Proofs.Dependence
import SchemaGuard.Proofs.Fails

/-!
# Validators never fail

**Theorem (`runValidator_returns`).** In a generated module a validator returns on every value, with
no fault of any kind, if no validator leaves its value to itself through others.

Findings have only two ways of breaking off: a reference that cannot be expanded any further, and a
call that does. The first is ruled out by compiling: the checks of a node were compiled, so all the
references they ask for could be expanded (`refFindings_ends`). For the second, calls have to be
bounded. A call looks at a part of the value, which is less deep, or at the value itself, and then
the pointer called has a lower rank: fewer pointers can be reached from it by such calls
(`rank_lt`). There are no more ranks than validators, so the depth of the value times the number of
validators bounds the calls inside each other (`runAs_returns`).
-/

namespace SchemaGuard

namespace Check

/-! ## What was compiled -/

section Compiled

variable {onRef : OnRef} {scope : Scope} {s s' : Progress} {checks : List Stmt}

/-- The checks of a node were compiled, somewhere. -/
def OnRef.Compiles (onRef : OnRef) (node : Node) : Prop :=
  ∃ scope s checks s', Gives (ofNode onRef node scope) s checks s'

variable {node : Node} {nodes : List Node}

theorem ofBranches_compiled {defined : List (Local × List Stmt)}
    (h : Gives (ofBranches onRef nodes scope) s defined s') :
    ∀ node ∈ nodes, onRef.Compiles node := by
  induction nodes generalizing s s' defined with
  | nil => exact fun node hmem => (List.not_mem_nil hmem).elim
  | cons node nodes ih =>
    simp only [ofBranches, Gives.bind_iff] at h
    obtain ⟨_, _, _, body, _, hbody, others, _, hothers, _⟩ := h
    intro other hmem
    rcases List.mem_cons.1 hmem with rfl | hmem
    · exact ⟨_, _, _, _, hbody⟩
    · exact ih hothers other hmem

theorem ofPositions_compiled {position : Nat}
    (h : Gives (ofPositions onRef nodes position scope) s checks s') :
    ∀ node ∈ nodes, onRef.Compiles node := by
  induction nodes generalizing position s s' checks with
  | nil => exact fun node hmem => (List.not_mem_nil hmem).elim
  | cons node nodes ih =>
    simp only [ofPositions, Gives.bind_iff] at h
    obtain ⟨first, _, hfirst, others, _, hothers, _⟩ := h
    intro other hmem
    rcases List.mem_cons.1 hmem with rfl | hmem
    · exact ⟨_, _, _, _, hfirst⟩
    · exact ih hothers other hmem

theorem ofProperties_compiled {properties : List (Property Node)}
    (h : Gives (ofProperties onRef properties scope) s checks s') :
    ∀ property ∈ properties, onRef.Compiles property.node := by
  induction properties generalizing s s' checks with
  | nil => exact fun property hmem => (List.not_mem_nil hmem).elim
  | cons property properties ih =>
    simp only [ofProperties, Gives.bind_iff] at h
    obtain ⟨first, _, hfirst, others, _, hothers, _⟩ := h
    intro other hmem
    rcases List.mem_cons.1 hmem with rfl | hmem
    · exact ⟨_, _, _, _, hfirst⟩
    · exact ih hothers other hmem

theorem itemsLoop_compiled {start : Option Nat}
    (h : Gives (itemsLoop scope start (ofNode onRef node)) s checks s') :
    onRef.Compiles node := by
  simp only [itemsLoop, Gives.bind_iff] at h
  obtain ⟨_, _, _, _, _, _, body, _, hbody, _⟩ := h
  exact ⟨_, _, _, _, hbody⟩

theorem keysLoop_compiled {known : List String}
    (h : Gives (keysLoop scope known fun _ inner => ofNode onRef node inner) s checks s') :
    onRef.Compiles node := by
  simp only [keysLoop, Gives.bind_iff] at h
  obtain ⟨_, _, _, body, _, hbody, _⟩ := h
  exact ⟨_, _, _, _, hbody⟩

theorem ofItems_compiled {origin : Origin} {items : Items Node} {leading : Option (List Node)}
    {limits : ArrayLimits} {part : Node} (h : Gives (ofItems onRef items leading scope) s checks s')
    (huses : (Node.array origin items leading limits).Uses part) : onRef.Compiles part := by
  cases huses with
  | item =>
    cases leading with
    | none => exact itemsLoop_compiled h
    | some nodes =>
      simp only [ofItems, Gives.bind_iff] at h
      obtain ⟨_, _, _, _, _, hloop, _⟩ := h
      exact itemsLoop_compiled hloop
  | listed hmem =>
    simp only [ofItems, Gives.bind_iff] at h
    obtain ⟨_, _, hpositions, _⟩ := h
    exact ofPositions_compiled hpositions part hmem
  | leading hmem =>
    cases items with
    | all | each | absent =>
      simp only [ofItems, Gives.bind_iff] at h
      obtain ⟨_, _, hpositions, _⟩ := h
      exact ofPositions_compiled hpositions part hmem

/-- Compiling a node compiles the nodes whose checks it uses. -/
theorem OnRef.Compiles.part {part : Node} (h : onRef.Compiles node) (huses : node.Uses part) :
    onRef.Compiles part := by
  obtain ⟨scope, s, checks, s', h⟩ := h
  cases node with
  | combinator origin kind branches =>
    cases huses with
    | branch hkind hmem =>
      simp only [ofNode, if_neg hkind] at h
      split at h
      · rename_i hempty
        rw [List.isEmpty_iff.1 hempty] at hmem
        cases hmem
      · simp only [Gives.bind_iff] at h
        obtain ⟨defined, _, hdefined, _⟩ := h
        exact ofBranches_compiled hdefined part hmem
  | array origin items leading limits =>
    rw [ofNode_array] at h
    simp only [Gives.bind_iff] at h
    obtain ⟨parts, _, hparts, _⟩ := h
    exact ofItems_compiled hparts huses
  | object origin properties required additional limits =>
    rw [ofNode_object] at h
    simp only [Gives.bind_iff] at h
    obtain ⟨declared, _, hdeclared, others, _, hothers, _⟩ := h
    cases huses with
    | property hmem => exact ofProperties_compiled hdeclared _ hmem
    | additional => exact keysLoop_compiled hothers
  | unknown | const | enum | ref | primitive | union => cases huses

end Compiled

/-- A reference can be expanded, with `fuel` more inside each other. -/
def Place.Expands (place : Place) (fuel : Nat) (ref : String) : Prop :=
  ∃ opened path scope s checks s', Gives (ofRef place fuel opened ref path scope) s checks s'

variable {place : Place} {fuel : Nat} {node : Node} {target : String}

/-- What the checks of a compiled node ask for can be expanded. -/
theorem Place.expands_of_asks {opened : List String} (hasks : node.Asks target)
    (h : (ofRef place fuel opened).Compiles node) : place.Expands fuel target := by
  induction hasks with
  | @ref origin target =>
    obtain ⟨scope, s, checks, s', hgives⟩ := h
    exact ⟨opened, origin.path, scope, s, checks, s', hgives⟩
  | part huses _ ih => exact ih (h.part huses)

/-- A reference without a name that can be expanded leads nowhere, or to a node all of whose
references can be expanded. -/
theorem Place.Expands.of_leadsTo {ref : String} (h : place.Expands (fuel + 1) ref)
    (hname : place.registry.validatorName? ref = none)
    (hleads : leadsTo place.document ref = some node) (hasks : node.Asks target) :
    place.Expands fuel target := by
  obtain ⟨opened, path, scope, s, checks, s', h⟩ := h
  simp only [ofRef, hname, Gives.bind_iff] at h
  obtain ⟨_, t, _, h⟩ := h
  split at h
  · exact (Gives.throw_iff.1 h).elim
  · rename_i hresolve
    rw [leadsTo_of_resolve hresolve] at hleads
    cases hleads
  · rename_i found hresolve
    rw [leadsTo_of_resolve hresolve] at hleads
    cases hleads
    exact Place.expands_of_asks hasks ⟨scope, t, checks, s', h⟩

/-! ## What a value is left to -/

namespace Place

/-- A reference leaves a value to the validator of a pointer: that of its own pointer, or one that
the node it is expanded to leaves the value to. -/
inductive Reaches (place : Place) : String → String → Prop where
  | named {ref name : String} (hname : place.registry.validatorName? ref = some name) :
      Reaches place ref ref
  | expanded {ref other pointer : String} {node : Node}
      (hname : place.registry.validatorName? ref = none)
      (hleads : leadsTo place.document ref = some node) (hdeferred : other ∈ node.deferred)
      (h : Reaches place other pointer) : Reaches place ref pointer

/-- The validator of a pointer leaves its value to that of another one, through branches and
expanded references only. -/
def LeavesTo (place : Place) (pointer other : String) : Prop :=
  ∃ name node ref, place.registry.validatorName? pointer = some name ∧
    Module.nodeOf place.document pointer = .ok node ∧ ref ∈ node.deferred ∧
    place.Reaches ref other

/-- No validator leaves its value to itself, however many others are in between. -/
def EndsCalls (place : Place) : Prop := ∀ pointer, ¬Relation.TransGen place.LeavesTo pointer pointer

variable {place : Place} {pointer : String} {ref other : String}

theorem Reaches.isNamed (h : place.Reaches ref pointer) :
    ∃ name, place.registry.validatorName? pointer = some name := by
  induction h with
  | named hname => exact ⟨_, hname⟩
  | expanded _ _ _ _ ih => exact ih

theorem LeavesTo.isNamed (h : place.LeavesTo pointer other) :
    ∃ name, place.registry.validatorName? other = some name := by
  obtain ⟨_, _, _, _, _, _, hreaches⟩ := h
  exact hreaches.isNamed

theorem Reaches.defers (h : place.Reaches ref pointer) :
    Relation.ReflTransGen place.Defers pointer ref := by
  induction h with
  | named => exact .refl
  | @expanded ref other pointer node hname hleads hdeferred _ ih =>
    refine ih.tail ⟨node, ?_, hdeferred⟩
    simp only [target?, hname]
    exact hleads

theorem LeavesTo.defers (h : place.LeavesTo pointer other) :
    Relation.TransGen place.Defers other pointer := by
  obtain ⟨name, node, ref, hname, hnode, hdeferred, hreaches⟩ := h
  exact .tail' hreaches.defers ⟨node, target?_of_validator hname hnode, hdeferred⟩

/-- If no reference at all comes back to itself without going into the value, no validator does. -/
theorem GoesInward.endsCalls (h : place.GoesInward) : place.EndsCalls := by
  intro pointer hcycle
  have hback : ∀ {first last}, Relation.TransGen place.LeavesTo first last →
      Relation.TransGen place.Defers last first := by
    intro first last hpath
    induction hpath with
    | single hleaves => exact hleaves.defers
    | tail _ hleaves ih => exact hleaves.defers.trans ih
  exact h pointer (hback hcycle)

end Place

/-! ## Findings that come to their end -/

variable {parts : List Findings} {findings : Findings}

theorem verdict_of_ends (h : findings.fault = none) : ∃ passes, findings.verdict = .ok passes := by
  unfold Findings.verdict
  cases findings.reports with
  | nil => exact ⟨true, by simp [h]⟩
  | cons issues others => exact ⟨false, rfl⟩

theorem outcome_of_ends (h : findings.fault = none) (stopping : Bool) (value : Value) :
    ∃ outcome, findings.outcome stopping value = .ok outcome := by
  unfold Findings.outcome
  split
  · exact ⟨_, rfl⟩
  · simp only [h]
    exact ⟨_, rfl⟩

theorem anyVerdict_of_ends (h : ∀ part ∈ parts, part.fault = none) :
    ∃ passes, anyVerdict (parts.map Findings.verdict) = .ok passes := by
  induction parts with
  | nil => exact ⟨false, rfl⟩
  | cons first others ih =>
    obtain ⟨one, hone⟩ := verdict_of_ends (h first (by simp))
    obtain ⟨passes, hothers⟩ := ih fun part hpart => h part (by simp [hpart])
    cases one with
    | true => exact ⟨true, bind_eq_ok.2 ⟨true, hone, rfl⟩⟩
    | false => exact ⟨passes, bind_eq_ok.2 ⟨false, hone, hothers⟩⟩

theorem allVerdicts_of_ends (h : ∀ part ∈ parts, part.fault = none) :
    ∃ passed, (parts.map Findings.verdict).mapM id = .ok passed := by
  induction parts with
  | nil => exact ⟨[], rfl⟩
  | cons first others ih =>
    obtain ⟨one, hone⟩ := verdict_of_ends (h first (by simp))
    obtain ⟨passed, hothers⟩ := ih fun part hpart => h part (by simp [hpart])
    refine ⟨one :: passed, ?_⟩
    rw [List.map_cons, List.mapM_cons]
    exact bind_eq_ok.2 ⟨one, hone, bind_eq_ok.2 ⟨passed, hothers, rfl⟩⟩

theorem branchFindings_ends (kind : Combinator) (h : ∀ part ∈ parts, part.fault = none) :
    (branchFindings kind (parts.map Findings.verdict)).fault = none := by
  cases kind with
  | oneOf =>
    obtain ⟨passed, hpassed⟩ := allVerdicts_of_ends h
    simp only [branchFindings, hpassed]
    exact (Findings.Plain.when (p := fun _ => True) trivial).ends
  | anyOf | allOf =>
    obtain ⟨passes, hpasses⟩ := anyVerdict_of_ends h
    simp only [branchFindings, hpasses]
    exact (Findings.Plain.when (p := fun _ => True) trivial).ends

/-- Coming to an end survives the ways in which findings are put together. The relation only looks
at one side. -/
theorem ends_closed : Findings.Closed fun findings _ => findings.fault = none where
  plain h := h.ends
  andThen h h' := by simp only [Findings.andThen, h, h']
  under _ h := h
  branches kind _ _ h := by
    refine branchFindings_ends kind ?_
    induction h with
    | nil => exact fun part hpart => (List.not_mem_nil hpart).elim
    | cons hfirst _ ih => exact List.forall_mem_cons.2 ⟨hfirst, ih⟩

section Returns

variable {place : Place} {call : Call}

/-- A call returns. -/
def Call.Returns (call : Call) (name : String) (value : Value) : Prop :=
  ∃ outcome, call name value = .ok outcome

variable {value : Value}

theorem ofCall_ends {name : String} (h : call.Returns name value) :
    (Findings.ofCall (call name value)).fault = none := by
  obtain ⟨outcome, houtcome⟩ := h
  rw [houtcome]
  cases outcome <;> rfl

/-- **The findings of references come to their end**, if the references can be expanded and calls
return: about the value itself those of pointers that it is left to, and all calls about what is
less deep. -/
theorem refFindings_ends {fuel : Nat} {ref : String} (hexpands : place.Expands fuel ref)
    (hself : ∀ pointer name, place.Reaches ref pointer →
      place.registry.validatorName? pointer = some name → call.Returns name value)
    (hpart : ∀ pointer name part, place.registry.validatorName? pointer = some name →
      part.depth < value.depth → call.Returns name part) :
    (refFindings place call fuel ref value).fault = none := by
  induction fuel generalizing ref value with
  | zero =>
    obtain ⟨_, _, _, _, _, _, h⟩ := hexpands
    simp [ofRef] at h
  | succ fuel ih =>
    rw [refFindings]
    cases hname : place.registry.validatorName? ref with
    | some name => exact ofCall_ends (hself ref name (.named hname) hname)
    | none =>
      cases hleads : leadsTo place.document ref with
      | none => rfl
      | some node =>
        have hasked : ∀ target, node.Asks target → place.Expands fuel target :=
          fun target => hexpands.of_leadsTo hname hleads
        have hrelates : Relates (fun findings _ => findings.fault = none)
            (refFindings place call fuel) (refFindings place call fuel) node :=
          findings_related ends_closed node
        refine hrelates value (fun target hdeferred => ?_) fun target part hasks hlt => ?_
        · exact ih (hasked target (Node.asks_of_deferred hdeferred)) (fun pointer name hreaches =>
            hself pointer name (.expanded hname hleads hdeferred hreaches)) hpart
        · exact ih (hasked target hasks) (fun pointer name _ hnamed =>
            hpart pointer name part hnamed hlt) fun pointer name smaller hnamed hsmaller =>
              hpart pointer name smaller hnamed (hsmaller.trans hlt)

end Returns

/-! ## Ranks -/

namespace Place

variable {place : Place}

/-- How many pointers a value can be left to from a pointer. -/
noncomputable def rank (place : Place) (pointer : String) : Nat :=
  Set.ncard {other | Relation.TransGen place.LeavesTo pointer other}

variable {pointer other : String}

theorem named_of_leavesTo (h : Relation.TransGen place.LeavesTo pointer other) :
    ∃ name, place.registry.validatorName? other = some name := by
  cases h with
  | single hlast => exact hlast.isNamed
  | tail _ hlast => exact hlast.isNamed

variable {pointers : List String}
  (hpointers : ∀ pointer name, place.registry.validatorName? pointer = some name →
    pointer ∈ pointers)

include hpointers

theorem reached_subset (pointer : String) :
    {other | Relation.TransGen place.LeavesTo pointer other} ⊆ {other | other ∈ pointers} := by
  intro other hother
  obtain ⟨name, hname⟩ := named_of_leavesTo hother
  exact hpointers other name hname

theorem rank_le (pointer : String) : place.rank pointer ≤ pointers.length := by
  classical
  calc place.rank pointer
      ≤ Set.ncard {other | other ∈ pointers} :=
        Set.ncard_le_ncard (reached_subset hpointers pointer) (List.finite_toSet pointers)
    _ = pointers.toFinset.card := by rw [← List.coe_toFinset, Set.ncard_coe_finset]
    _ ≤ pointers.length := List.toFinset_card_le pointers

/-- Leaving a value to another pointer lowers the rank. -/
theorem rank_lt (hends : place.EndsCalls) (h : place.LeavesTo pointer other) :
    place.rank other < place.rank pointer := by
  refine Set.ncard_lt_ncard ?_ ((List.finite_toSet pointers).subset
    (reached_subset hpointers pointer))
  refine (Set.ssubset_iff_of_subset fun last hlast => .head h hlast).2 ⟨other, .single h, ?_⟩
  exact hends other

end Place

/-! ## Calls inside each other -/

/-- **Enough calls may be inside each other**: the depth of the value counts most, then the rank of
the pointer. -/
theorem runAs_returns {validators : List Validator} {pointers : List String}
    (hemits : place.Emits validators) (hends : place.EndsCalls)
    (hpointers : ∀ pointer name, place.registry.validatorName? pointer = some name →
      pointer ∈ pointers) (abortEarly : Bool) {pointer name : String} {value : Value}
    (hname : place.registry.validatorName? pointer = some name)
    (hfuel : value.depth * (pointers.length + 1) + place.rank pointer < fuel) :
    Call.Returns (runAs .plain validators abortEarly fuel) name value := by
  induction fuel generalizing pointer name value with
  | zero => exact absurd hfuel (Nat.not_lt_zero _)
  | succ fuel ih =>
    obtain ⟨node, hnode, hrun⟩ := hemits.run_eq hname
    have hself : ∀ ref ∈ node.deferred, ∀ other own, place.Reaches ref other →
        place.registry.validatorName? other = some own →
        Call.Returns (runAs .plain validators abortEarly fuel) own value := by
      intro ref hdeferred other own hreaches hown
      have hlt := Place.rank_lt hpointers hends ⟨name, node, ref, hname, hnode, hdeferred, hreaches⟩
      exact ih hown (by omega)
    have hpart : ∀ other own part, place.registry.validatorName? other = some own →
        part.depth < value.depth →
        Call.Returns (runAs .plain validators abortEarly fuel) own part := by
      intro other own part hown hlt
      have hrank := Place.rank_le hpointers other
      have hdepth := Nat.mul_le_mul_right (pointers.length + 1) (Nat.succ_le_of_lt hlt)
      rw [Nat.succ_mul] at hdepth
      exact ih hown (by omega)
    have hasked : ∀ target, node.Asks target →
        place.Expands (fuelFor place.document) target := by
      obtain ⟨found, typeName, validator, s, s', hfound, -, hgives⟩ := hemits.own pointer name hname
      rw [hnode] at hfound
      cases hfound
      simp only [validatorOf, Gives.bind_iff] at hgives
      obtain ⟨_, _, _, body, _, hbody, _⟩ := hgives
      exact fun target hasks => Place.expands_of_asks hasks ⟨_, _, _, _, hbody⟩
    unfold Call.Returns
    rw [hrun]
    refine outcome_of_ends ?_ abortEarly value
    let refs := refFindings place (runAs .plain validators abortEarly fuel) (fuelFor place.document)
    have hrelates : Relates (fun findings _ => findings.fault = none) refs refs node :=
      findings_related ends_closed node
    refine hrelates value (fun target hdeferred => ?_) fun target part hasks hlt => ?_
    · exact refFindings_ends (hasked target (Node.asks_of_deferred hdeferred))
        (hself target hdeferred) hpart
    · exact refFindings_ends (hasked target hasks)
        (fun other own _ hown => hpart other own part hown hlt)
        fun other own smaller hown hsmaller => hpart other own smaller hown (hsmaller.trans hlt)

end Check

/-! ## Modules -/

namespace Module

variable {document : Json} {schemaPath : String} {targets : List Target}
  {module : Module} {run : Run}

/-- Making declarations goes well if none of them hides the base of the others. -/
theorem declareAll_eq_ok {declarations : List TypeDecl}
    (h : ∀ declaration ∈ declarations, Text.normalForm declaration.name ≠ baseName) :
    declareAll none declarations = .ok () := by
  induction declarations with
  | nil => rfl
  | cons declaration declarations ih =>
    obtain ⟨hkept, h⟩ := List.forall_mem_cons.1 h
    have hmade : declare none declaration = .ok () := by cases declaration <;> rfl
    rw [declareAll, hmade, beq_eq_false_iff_ne.2 hkept]
    exact ih h

/-- Nothing hides a validator or something that validators and classes are made with. -/
structure Unhidden (module : Module) : Prop where
  helpers : module.names = Check.Names.plain
  base : ∀ name ∈ declaredNames module.entries, Text.normalForm name ≠ baseName
  apart : Apart (module.validators.map (·.name))
  validators : ∀ validator ∈ module.validators, module.typeNamed? validator.name = none

theorem Unhidden.load_eq_ok (h : module.Unhidden) (hreadable : module.isReadable = true) :
    module.load = .ok () := by
  rw [load, if_pos hreadable]
  exact declareAll_eq_ok fun declaration hmem => h.base _ (List.mem_map_of_mem hmem)

/-- Names that are not changed by being bound hide nothing. -/
theorem NamesKept.unhidden (hkept : module.NamesKept)
    (hgenerated : ofDocument document schemaPath targets = (.ok module, run))
    (hbuiltin : ∀ name ∈ declaredNames module.entries, name ∉ Check.builtinNames) :
    module.Unhidden where
  helpers := names_eq_plain hgenerated hbuiltin hkept.namesApart
  base name hname := by
    have hnormal : Text.normalForm baseName = baseName := by decide +kernel
    rw [← hnormal]
    exact normalForm_ne_used hgenerated hbuiltin hkept hname (by decide) (by decide)
  apart := hkept.namesApart.validators
  validators validator hmem := by
    obtain ⟨entry, hentry, rfl⟩ := List.mem_map.1 hmem
    have hbinding : (entry.validator.name, Binding.validator entry.validator) ∈ module.bindings :=
      List.mem_flatMap.2 ⟨entry, hentry, List.mem_append_right _ List.mem_cons_self⟩
    rw [typeNamed?, bound?_eq hgenerated hkept.bound hbinding]

/-- Two definitions, of numbers and of objects. -/
def scalarSchema : Json := .object [("$defs", .object [("a", .object [("type", .string "number")]),
  ("b", .object [("type", .string "object"), ("properties", .object [])])])]

/-- Names for them, the second of which has the normal form of a name that validators use. -/
def guiseTargets : List Target :=
  [⟨"#/$defs/a", some "A"⟩, ⟨"#/$defs/b", some "\uFF49s_number"⟩]

end Module

end SchemaGuard
