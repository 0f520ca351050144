import SchemaGuard.Proofs.TypeSoundness

/-!
# Validators that call each other

What a validator returns on a value is told by its findings, in which every reference to a pointer
with a name is a call of another validator. `Place.Compiled` says that validators were compiled in
a place, and `Place.Emits` that each named pointer has one of its own among them, under its name.

In a generated module both hold: the first always, the second if different names of validators stay
different when they are bound.
-/

namespace SchemaGuard

namespace Check

/-- Validators that were compiled in a place. -/
def Place.Compiled (place : Place) (validators : List Validator) : Prop :=
  ∀ validator ∈ validators, ∃ node own typeName s s',
    Gives (validatorOf place node own typeName) s validator s'

/-- Validators that were compiled in a place, where every named pointer leads into the document and
has a validator of its own. -/
structure Place.Emits (place : Place) (validators : List Validator) : Prop where
  compiled : place.Compiled validators
  own : ∀ pointer name, place.registry.validatorName? pointer = some name →
    ∃ node typeName validator s s', Module.nodeOf place.document pointer = .ok node ∧
      validatorNamed? validators name = some validator ∧
      Gives (validatorOf place node name typeName) s validator s'

/-- What a call returns by the name of a pointer is told by the findings of the pointer's node. -/
def Place.Answers (place : Place) (validators : List Validator) : Prop :=
  ∀ pointer name, place.registry.validatorName? pointer = some name →
    ∃ node, Module.nodeOf place.document pointer = .ok node ∧
      ∀ abortEarly fuel value outcome,
        runAs .plain validators abortEarly (fuel + 1) name value = .ok outcome →
          (findings (refFindings place (runAs .plain validators abortEarly fuel)
            (fuelFor place.document)) node value).outcome abortEarly value = .ok outcome

variable {place : Place} {validators : List Validator} {name pointer : String}
  {validator : Validator}

/-- If there is a validator whose name has the normal form looked for, one is found. -/
theorem exists_validatorNamed? (h : validator ∈ validators.filter
      fun validator => Text.normalForm validator.name == Text.normalForm name) :
    ∃ found, validatorNamed? validators name = some found := by
  rw [validatorNamed?, List.getLast?_eq_some_getLast (List.ne_nil_of_mem h)]
  exact ⟨_, rfl⟩

/-- What a call returns is told by the findings of some node. -/
theorem Place.Compiled.run_eq (h : place.Compiled validators)
    (hfound : validatorNamed? validators name = some validator) :
    ∃ node, ∀ abortEarly fuel value, runAs .plain validators abortEarly (fuel + 1) name value =
      (findings (refFindings place (runAs .plain validators abortEarly fuel)
        (fuelFor place.document)) node value).outcome abortEarly value := by
  obtain ⟨node, own, typeName, s, s', hgives⟩ := h validator (mem_of_validatorNamed? hfound).1
  refine ⟨node, fun abortEarly fuel value => ?_⟩
  rw [runAs, hfound]
  exact validatorOf_run _ _ hgives value

/-- Calling the validator of a named pointer gives what the findings of its node say. -/
theorem Place.Emits.run_eq (h : place.Emits validators)
    (hname : place.registry.validatorName? pointer = some name) :
    ∃ node, Module.nodeOf place.document pointer = .ok node ∧
      ∀ abortEarly fuel value, runAs .plain validators abortEarly (fuel + 1) name value =
        (findings (refFindings place (runAs .plain validators abortEarly fuel)
          (fuelFor place.document)) node value).outcome abortEarly value := by
  obtain ⟨node, typeName, validator, s, s', hnode, hfound, hgives⟩ := h.own pointer name hname
  refine ⟨node, hnode, fun abortEarly fuel value => ?_⟩
  rw [runAs, hfound]
  exact validatorOf_run _ _ hgives value

/-- The validator of a pointer, if its node is found and can be compiled. -/
def Place.emitted? (place : Place) (pointer name : String) : Option Validator :=
  match Module.nodeOf place.document pointer with
  | .ok node =>
    match (validatorOf place node name name).run.run ⟨0, false, []⟩ with
    | (.ok validator, _) => some validator
    | (.error _, _) => none
  | .error _ => none

/-- The validators of all named pointers. -/
def Place.emitted (place : Place) : List Validator :=
  place.registry.validators.filterMap fun entry => place.emitted? entry.1 entry.2

theorem Place.gives_of_emitted? (h : place.emitted? pointer name = some validator) :
    ∃ node s s', Module.nodeOf place.document pointer = .ok node ∧
      Gives (validatorOf place node name name) s validator s' := by
  unfold emitted? at h
  split at h
  · rename_i node hnode
    split at h
    · rename_i hgives
      cases h
      exact ⟨node, _, _, hnode, hgives⟩
    · cases h
  · cases h

/-- Emitting the validators of all named pointers gives each its own, if all can be compiled and
different names stay different. -/
theorem Place.emits_of_emitted
    (hall : ∀ entry ∈ place.registry.validators, (place.emitted? entry.1 entry.2).isSome)
    (hdistinct : (place.registry.validators.map fun entry => Text.normalForm entry.2).Nodup) :
    place.Emits place.emitted where
  compiled validator hmem := by
    obtain ⟨entry, -, hentry⟩ := List.mem_filterMap.1 hmem
    obtain ⟨node, s, s', -, hgives⟩ := gives_of_emitted? hentry
    exact ⟨node, _, _, s, s', hgives⟩
  own pointer name hname := by
    have hentry : (pointer, name) ∈ place.registry.validators := Table.mem_of_get? hname
    obtain ⟨own, hown⟩ := Option.isSome_iff_exists.1 (hall _ hentry)
    obtain ⟨node, s, s', hnode, hgives⟩ := gives_of_emitted? hown
    have hmem : own ∈ place.emitted.filter
        (fun validator => Text.normalForm validator.name == Text.normalForm name) :=
      List.mem_filter.2 ⟨List.mem_filterMap.2 ⟨_, hentry, hown⟩, by simp [validatorOf_name hgives]⟩
    obtain ⟨found, hfound⟩ := exists_validatorNamed? hmem
    -- What is found was emitted for an entry with a name of the same normal form: this one.
    obtain ⟨hemitted, hnormal⟩ := mem_of_validatorNamed? hfound
    obtain ⟨other, hother, hemit⟩ := List.mem_filterMap.1 hemitted
    obtain ⟨_, _, _, -, hgives'⟩ := gives_of_emitted? hemit
    rw [validatorOf_name hgives'] at hnormal
    cases List.inj_on_of_nodup_map hdistinct hother hentry hnormal
    rw [hown] at hemit
    cases hemit
    exact ⟨node, name, own, s, s', hnode, hfound, hgives⟩

theorem Place.Compiled.proper (h : place.Compiled validators) (abortEarly : Bool) (fuel : Nat) :
    Call.Proper (runAs .plain validators abortEarly fuel) := runAs_proper place h fuel

end Check

namespace Module

variable {document : Json} {schemaPath : String} {targets : List Target}
  {module : Module} {run : Run}

theorem compiled (hgenerated : ofDocument document schemaPath targets = (.ok module, run)) :
    Check.Place.Compiled ⟨document, run.registry⟩ module.functions := by
  intro validator hmem
  obtain ⟨entry, hentry, rfl⟩ := List.mem_map.1 (functions_subset hmem)
  obtain ⟨node, hmade⟩ := (madeBy hgenerated).2 entry hentry
  exact ⟨node, _, _, hmade.validator_gives⟩

/-- Calls of validators return what the nodes of their pointers say. -/
theorem answers (hgenerated : ofDocument document schemaPath targets = (.ok module, run))
    (hapart : Apart (module.validators.map (·.name))) :
    Check.Place.Answers ⟨document, run.registry⟩ module.functions := by
  intro pointer name hname
  obtain ⟨entry, hentry, rfl⟩ := entry_of_validatorName? hgenerated hname
  obtain ⟨node, hmade⟩ := (madeBy hgenerated).2 entry hentry
  refine ⟨node, hmade.node_eq, fun abortEarly fuel value outcome hrun => ?_⟩
  rw [Check.runAs] at hrun
  split at hrun
  · rename_i validator hfound
    obtain ⟨found, _, _, _, hnode, hgives⟩ :=
      gives_of_validatorNamed? hgenerated hapart hname hfound
    rw [hmade.node_eq] at hnode
    cases hnode
    rw [← hrun]
    exact (Check.validatorOf_run _ _ hgives value).symm
  · cases hrun

/-- If no type hides a validator, every named pointer has its own. -/
theorem emits (hgenerated : ofDocument document schemaPath targets = (.ok module, run))
    (hapart : Apart (module.validators.map (·.name)))
    (hfunctions : ∀ validator ∈ module.validators, module.typeNamed? validator.name = none) :
    Check.Place.Emits ⟨document, run.registry⟩ module.functions where
  compiled := compiled hgenerated
  own pointer name hname := by
    obtain ⟨entry, hentry, rfl⟩ := entry_of_validatorName? hgenerated hname
    obtain ⟨_, hmade⟩ := (madeBy hgenerated).2 entry hentry
    have hsame : entry.validator.name = name :=
      Option.some.inj (hmade.validatorName_eq.symm.trans hname)
    have hfunction : entry.validator ∈ module.functions :=
      functions_eq hfunctions ▸ List.mem_map_of_mem hentry
    have hmem : entry.validator ∈ module.functions.filter
        (fun validator => Text.normalForm validator.name == Text.normalForm name) :=
      List.mem_filter.2 ⟨hfunction, by simp [hsame]⟩
    obtain ⟨validator, hfound⟩ := Check.exists_validatorNamed? hmem
    obtain ⟨node, typeName, s, s', hnode, hgives⟩ :=
      gives_of_validatorNamed? hgenerated hapart hname hfound
    exact ⟨node, typeName, validator, s, s', hnode, hfound, hgives⟩

end Module

end SchemaGuard
