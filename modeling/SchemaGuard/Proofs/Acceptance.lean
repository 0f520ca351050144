import SchemaGuard.Proofs.Decision
import SchemaGuard.Proofs.Generated
import SchemaGuard.Proofs.NodeSimulation
import SchemaGuard.Proofs.Reading

/-!
# Validators accept what their schemas mean

**Theorem (`runValidator_correct`).** In a generated module, a validator that returns gives the value
back if the value satisfies the node of its pointer, and fails with some issue if it does not,
whether or not it stops at the first issue.

Names are bound by their normal forms, so the theorem asks that names which are different stay
different (`NamesApart`): the registry compares names as they are written. It also asks that no type
is called like a function that is there without being imported, which the registry does not reserve.
-/

namespace SchemaGuard

/-! ## Names that are bound -/

/-- Names that are different stay different when they are bound. -/
def Apart (names : List String) : Prop :=
  ∀ name ∈ names, ∀ other ∈ names, Text.normalForm name = Text.normalForm other → name = other

instance (names : List String) : Decidable (Apart names) :=
  inferInstanceAs (Decidable (∀ name ∈ names, ∀ other ∈ names, _))

namespace Check

/-- All that validators use by name. -/
def Helper.all : List Helper := [
  .instanceTest, .length, .enumeration, .text, .truth, .list, .tuple, .dict, .numberTest,
  .integerTest, .equality, .membership, .distinctCount, .typeName, .description, .issue, .cast,
  .failure, .success, .refusal, .patterns]

theorem Helper.mem_all (helper : Helper) : helper ∈ Helper.all := by cases helper <;> decide

/-- The names that modules use without importing them. -/
def builtinNames : List String :=
  ["isinstance", "len", "str", "bool", "float", "list", "tuple", "dict", "enumerate"]

theorem Helper.reserved_or_builtin (helper : Helper) :
    Registry.isReserved helper.name = true ∨ helper.name ∈ builtinNames := by
  cases helper <;> decide

theorem Helper.normalForm_name (helper : Helper) : Text.normalForm helper.name = helper.name := by
  cases helper <;> decide +kernel

end Check

namespace Module

/-- Different names of a module stay different when they are bound: those of its validators among
each other, and those of its types also from what validators use. -/
structure NamesApart (module : Module) : Prop where
  validators : Apart (module.validators.map (·.name))
  types : Apart (declaredNames module.entries ++ Check.Helper.all.map (·.name))

instance (module : Module) : Decidable module.NamesApart :=
  decidable_of_iff (Apart (module.validators.map (·.name)) ∧
    Apart (declaredNames module.entries ++ Check.Helper.all.map (·.name)))
    ⟨fun h => ⟨h.1, h.2⟩, fun h => ⟨h.validators, h.types⟩⟩

variable {document : Json} {schemaPath : String} {targets : List Target}
  {module : Module} {run : Run}

/-- A module whose types are not bound as anything that validators use. -/
theorem names_eq_plain_of_ne (h : ∀ name ∈ declaredNames module.entries, ∀ helper : Check.Helper,
      Text.normalForm name ≠ helper.name) : module.names = Check.Names.plain := by
  funext helper
  have hnone : (module.entries.flatMap (·.declarations)).filter
      (fun declaration => Text.normalForm declaration.name == helper.name) = [] := by
    refine List.filter_eq_nil_iff.2 fun declaration hmem hsame => ?_
    exact h declaration.name (List.mem_map_of_mem hmem) helper (eq_of_beq hsame)
  simp only [names, hnone]
  rfl

/-- No declared name is that of a helper, unless it is that of a builtin. -/
theorem declared_ne_helper (hgenerated : ofDocument document schemaPath targets = (.ok module, run))
    {name : String} (hdeclared : name ∈ declaredNames module.entries)
    (hbuiltin : name ∉ Check.builtinNames) (helper : Check.Helper) : name ≠ helper.name := by
  rintro rfl
  rcases helper.reserved_or_builtin with hreserved | hused
  · rw [(declared_nodup hgenerated).2 _ hdeclared] at hreserved
    cases hreserved
  · exact hbuiltin hused

/-- No type of a module hides anything that validators use. -/
theorem names_eq_plain (hgenerated : ofDocument document schemaPath targets = (.ok module, run))
    (hbuiltin : ∀ name ∈ declaredNames module.entries, name ∉ Check.builtinNames)
    (hapart : module.NamesApart) : module.names = Check.Names.plain := by
  refine names_eq_plain_of_ne fun name hdeclared helper hsame => ?_
  refine declared_ne_helper hgenerated hdeclared (hbuiltin name hdeclared) helper ?_
  refine hapart.types _ (List.mem_append_left _ hdeclared) _
    (List.mem_append_right _ (List.mem_map_of_mem helper.mem_all)) ?_
  rw [helper.normalForm_name]
  exact hsame

end Module

/-! ## Calls -/

namespace Check

variable {place : Place} {meaning : String → Value → Prop}

theorem Place.target?_of_validator {pointer name : String} {node : Node}
    (hname : place.registry.validatorName? pointer = some name)
    (hnode : Module.nodeOf place.document pointer = .ok node) :
    place.target? pointer = some node := by
  simp only [Place.target?, hname, hnode]
  rfl

/-- Calls of validators are right about what their pointers mean. -/
def Call.Right (place : Place) (meaning : String → Value → Prop) (call : Call) : Prop :=
  ∀ pointer name value outcome, place.registry.validatorName? pointer = some name →
    call name value = .ok outcome → outcome.Tells value (meaning pointer value)

theorem ofCall_decide {value : Value} {p : Prop} {result : Except Fault Outcome}
    (h : ∀ outcome, result = .ok outcome → outcome.Tells value p) :
    (Findings.ofCall result).Decide p := by
  cases result with
  | error fault => exact .broken fault p
  | ok outcome =>
    rcases h outcome rfl with ⟨hp, rfl⟩ | ⟨hp, issue, issues, rfl⟩
    · exact .clear hp
    · exact ⟨by simp [Findings.ofCall, hp], nofun⟩

/-- The findings of references decide what references mean, if calls are right. -/
theorem refFindings_decide {call : Call} (hreads : place.Reads meaning)
    (hcall : call.Right place meaning) (fuel : Nat) (ref : String) (value : Value) :
    (refFindings place call fuel ref value).Decide (meaning ref value) := by
  induction fuel generalizing ref value with
  | zero => exact .broken _ _
  | succ fuel ih =>
    rw [refFindings]
    cases hname : place.registry.validatorName? ref with
    | some name => exact ofCall_decide fun outcome => hcall ref name value outcome hname
    | none =>
      have htarget : place.target? ref = leadsTo place.document ref := by
        simp only [Place.target?, hname]
      cases hleads : leadsTo place.document ref with
      | none => exact .clear ((hreads ref value).2 (by simp [htarget, hleads]))
      | some node =>
        exact (findings_decide ih node value).congr
          (hreads.iff_of_target (htarget.trans hleads) value).symm

/-- **Validators are right, whatever calls each other.** The induction is on how many calls may be
inside each other. -/
theorem runAs_right {validators : List Validator} {abortEarly : Bool} (hreads : place.Reads meaning)
    (hfound : ∀ pointer name validator, place.registry.validatorName? pointer = some name →
      validatorNamed? validators name = some validator → ∃ node typeName s s',
        Module.nodeOf place.document pointer = .ok node ∧
        Gives (validatorOf place node name typeName) s validator s')
    (fuel : Nat) : Call.Right place meaning (runAs .plain validators abortEarly fuel) := by
  induction fuel with
  | zero =>
    intro pointer name value outcome _ hrun
    cases hrun
  | succ fuel ih =>
    intro pointer name value outcome hname hrun
    rw [runAs] at hrun
    split at hrun
    · rename_i validator hvalidator
      obtain ⟨node, typeName, s, s', hnode, hgives⟩ :=
        hfound pointer name validator hname hvalidator
      rw [validatorOf_run _ _ hgives] at hrun
      have hmeans := hreads.iff_of_target (Place.target?_of_validator hname hnode) value
      exact ((findings_decide (refFindings_decide hreads ih _) node value).congr hmeans.symm).tells
        hrun
    · cases hrun

end Check

namespace Module

variable {document : Json} {schemaPath : String} {targets : List Target} {module : Module}
  {run : Run} {pointer name : String} {validator : Check.Validator}

theorem mem_of_entryAt {entry : Entry} (h : module.entryAt pointer = .ok entry) :
    entry ∈ module.entries ∧ entry.pointer = pointer := by
  unfold entryAt at h
  split at h
  · rename_i hfound
    cases h
    have hpointer := List.find?_some hfound
    exact ⟨List.mem_of_find?_eq_some hfound, eq_of_beq hpointer⟩
  · cases h

/-- Whether a document is turned into a module with an entry of a pointer of which a test holds. -/
def generatesAt (document : Json) (schemaPath : String) (targets : List Target) (pointer : String)
    (test : Module → Run → Entry → Bool) : Bool :=
  generates document schemaPath targets fun module run =>
    (module.entryAt pointer).toOption.any (test module run)

theorem exists_of_generatesAt {test : Module → Run → Entry → Bool}
    (h : generatesAt document schemaPath targets pointer test = true) :
    ∃ module run, ofDocument document schemaPath targets = (.ok module, run) ∧
      ∃ entry ∈ module.entries, entry.pointer = pointer ∧ test module run entry = true := by
  obtain ⟨module, run, hgenerated, htest⟩ := exists_of_generates h
  obtain ⟨entry, hfound, htest⟩ := exists_ok_of_any htest
  obtain ⟨hentry, hpointer⟩ := mem_of_entryAt hfound
  exact ⟨module, run, hgenerated, entry, hentry, hpointer, htest⟩

/-- The validator that is found by the name of a pointer's validator is that of the pointer, if
different names of validators stay different. -/
theorem gives_of_validatorNamed?
    (hgenerated : ofDocument document schemaPath targets = (.ok module, run))
    (hapart : Apart (module.validators.map (·.name)))
    (hname : run.registry.validatorName? pointer = some name)
    (hfound : Check.validatorNamed? module.functions name = some validator) :
    ∃ node typeName s s', nodeOf document pointer = .ok node ∧
      Gives (Check.validatorOf ⟨document, run.registry⟩ node name typeName) s validator s' := by
  obtain ⟨hsound, hmade⟩ := madeBy hgenerated
  obtain ⟨own, howned, hpointer⟩ := entry_of_validatorName? hgenerated hname
  obtain ⟨_, hown⟩ := hmade own howned
  have hownName : own.validator.name = name := by
    have := hown.validatorName_eq
    rw [hpointer, hname] at this
    exact (Option.some.inj this).symm
  obtain ⟨hlisted, hnormal⟩ := Check.mem_of_validatorNamed? hfound
  have hmem := functions_subset hlisted
  obtain ⟨entry, hentry, rfl⟩ := List.mem_map.1 hmem
  -- The name found has the normal form of the name looked for, and both are names of validators.
  have hsame : entry.validator.name = name := by
    refine hapart _ (List.mem_map_of_mem hmem) name ?_ hnormal
    rw [← hownName]
    exact List.mem_map_of_mem (List.mem_map_of_mem howned)
  obtain ⟨node, hentryMade⟩ := hmade entry hentry
  have hsamePointer : entry.pointer = pointer :=
    hsound.validator_unique (hsame ▸ hentryMade.validatorName_eq) hname
  obtain ⟨s, s', hgives⟩ := hentryMade.validator_gives
  rw [hsame] at hgives
  exact ⟨node, entry.typeName, s, s', hsamePointer ▸ hentryMade.node_eq, hgives⟩

/-- Whether a value passes the validator of a name, where that returns. -/
def passes? (module : Module) (name : String) (abortEarly : Bool) (value : Value) : Option Bool :=
  match module.runValidator name abortEarly value with
  | .ok outcome => some !outcome.isFailure
  | .error _ => none

variable {abortEarly : Bool} {value : Value}

theorem passes?_eq_some {passes : Bool} (h : module.passes? name abortEarly value = some passes) :
    ∃ outcome, module.runValidator name abortEarly value = .ok outcome ∧
      ∀ p, outcome.Tells value p → (p ↔ passes = true) := by
  unfold passes? at h
  split at h
  · rename_i outcome hrun
    cases h
    refine ⟨outcome, hrun, fun p htells => ?_⟩
    rcases htells with ⟨hp, rfl⟩ | ⟨hp, issue, issues, rfl⟩
    · simp [hp, Check.Outcome.isFailure]
    · simp [hp, Check.Outcome.isFailure]
  · cases h

theorem exists_success (h : module.passes? name abortEarly value = some true) :
    ∃ passed, module.runValidator name abortEarly value = .ok (.success passed) := by
  unfold passes? at h
  split at h
  · rename_i outcome hrun
    cases outcome with
    | success passed => exact ⟨passed, hrun⟩
    | failure issues => cases h
  · cases h

/-- A list of trees, each a leaf or a branch. Trees refer to each other, and what a tree is is left
to what leaves and branches are. -/
def forestSchema : Json := .object [
  ("type", .string "array"),
  ("items", .object [("$ref", .string "#/$defs/tree")]),
  ("$defs", .object [
    ("tree", .object [("oneOf", .array [.object [("$ref", .string "#/$defs/leaf")],
      .object [("$ref", .string "#/$defs/branch")]])]),
    ("leaf", .object [("type", .string "integer"), ("minimum", .ofInt 0)]),
    ("branch", .object [
      ("type", .string "object"),
      ("properties", .object [("left", .object [("$ref", .string "#/$defs/tree")]),
        ("right", .object [("$ref", .string "#/$defs/tree")])]),
      ("required", .array [.string "left"]),
      ("additionalProperties", .bool false)])])]

/-- A list of two trees, with a given leaf at the end of the second. -/
def forest (leaf : Value) : Value := .list [.number (.int 7),
  .dict [("left", .number (.int 0)), ("right", .dict [("left", leaf)])]]

/-- Trees are left to leaves and branches. -/
def forestRank (ref : String) : Nat := if ref == "#/$defs/tree" then 1 else 0

/-- Two definitions, of texts and of integers. -/
def homonymSchema : Json := .object [("$defs", .object [("a", .object [("type", .string "string")]),
  ("b", .object [("type", .string "integer")])])]

/-- Names for them that are different but have the same normal form. -/
def homonymTargets : List Target := [⟨"#/$defs/a", some "Afi"⟩, ⟨"#/$defs/b", some "A\uFB01"⟩]

end Module

end SchemaGuard
