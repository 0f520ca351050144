import SchemaGuard.Proofs.DerivedNames
import SchemaGuard.Proofs.Naming

/-!
# The names that pointers are given

`Registry.Resolved` says what is registered for the pointers of a run: each has the type name that
the targets and its own segments give it, the validator that goes with it, and, if it was asked for,
a parse function. **Theorem (`resolve_resolved`).** Naming a run that succeeds registers exactly
these names.
-/

namespace SchemaGuard

variable {targets : List Target} {pointer name : String}

/-- A given name is that of a target, and not empty. -/
theorem Registry.explicitName?_eq_some (h : explicitName? targets pointer = some name) :
    name ≠ "" ∧ ∃ target ∈ targets, target.path = pointer ∧ target.name = some name := by
  obtain ⟨target, hmem, htarget⟩ := List.exists_of_findSome?_eq_some h
  split at htarget
  · rename_i given hgiven
    split at htarget
    · rename_i hfits
      cases htarget
      simp only [Bool.and_eq_true, beq_iff_eq, Bool.not_eq_true'] at hfits
      refine ⟨?_, target, List.mem_reverse.1 hmem, hfits.1, hgiven⟩
      rintro rfl
      simp at hfits
    · cases htarget
  · cases htarget

/-- The text that the type name of a pointer is derived from. -/
def Name.source (schemaPath pointer : String) : Except PointerError String :=
  if pointer == Pointer.root then .ok (Path.ofString schemaPath).stem
  else Pointer.lastSegment pointer

/-- A type name is given by a target or derived from a text. -/
theorem Registry.nameFor_cases {schemaPath : String}
    (h : nameFor targets schemaPath pointer = .ok name) :
    explicitName? targets pointer = some name ∨ explicitName? targets pointer = none ∧
      ∃ text, Name.source schemaPath pointer = .ok text ∧ name = Name.ofText text := by
  unfold nameFor at h
  split at h
  · rename_i hgiven
    rw [← Except.ok.inj h]
    exact .inl hgiven
  · rename_i hnone
    refine .inr ⟨hnone, ?_⟩
    split at h
    · rename_i hroot
      exact ⟨_, if_pos hroot, (Except.ok.inj h).symm⟩
    · rename_i hroot
      obtain ⟨segment, hsegment, rfl⟩ := map_eq_ok.1 h
      exact ⟨segment, (if_neg hroot).trans hsegment, rfl⟩

theorem Registry.nameFor_ne_empty {schemaPath : String}
    (h : nameFor targets schemaPath pointer = .ok name) : name ≠ "" := by
  rcases nameFor_cases h with hgiven | ⟨-, text, -, rfl⟩
  · exact (explicitName?_eq_some hgiven).1
  · exact Name.ofText_ne_empty text

namespace Registry

variable {registry : Registry} {pointers : List String} {targets : List Target}
  {schemaPath : String}

/-! ## Naming a run -/

/-- What is registered for the pointers of a run. -/
structure Resolved (pointers : List String) (targets : List Target) (schemaPath : String)
    (registry : Registry) : Prop where
  typeName_iff : ∀ pointer type, registry.typeName? pointer = some type ↔
    pointer ∈ pointers ∧ nameFor targets schemaPath pointer = .ok type
  validatorName_eq : ∀ pointer,
    registry.validatorName? pointer = (registry.typeName? pointer).map Name.validator
  isExported_iff : ∀ pointer,
    registry.isExported pointer = true ↔ pointer ∈ targets.map (·.path)
  parser_owned : ∀ pointer type, registry.typeName? pointer = some type →
    registry.isExported pointer = true → registry.used.get? (Name.parser type) = some pointer
  visible : ∀ name, registry.used.has name = true → name.toList.head? ≠ some '_'

/-- What holds while types are named. -/
structure Typed (pointers : List String) (targets : List Target) (schemaPath : String)
    (registry : Registry) : Prop where
  types : ∀ entry ∈ registry.types, entry.1 ∈ pointers ∧
    nameFor targets schemaPath entry.1 = .ok entry.2
  no_validators : registry.validators = []
  exported_eq : registry.exported = (targets.map (·.path)).eraseDups
  visible : ∀ name, registry.used.has name = true → name.toList.head? ≠ some '_'

variable {named : Registry}

theorem visible_put {used : Table String} {name owner : String}
    (hvisible : ∀ name, used.has name = true → name.toList.head? ≠ some '_')
    (hname : name.toList.head? ≠ some '_') :
    ∀ other, (used.put name owner).has other = true → other.toList.head? ≠ some '_' := by
  intro other hother
  rcases (Table.has_put ..).1 hother with rfl | hother
  · exact hname
  · exact hvisible other hother

theorem Typed.addType {pointer : String} (h : Typed pointers targets schemaPath registry)
    (hmem : pointer ∈ pointers) (hadd : addType targets schemaPath registry pointer = .ok named) :
    Typed pointers targets schemaPath named := by
  obtain ⟨name, hname, hclaimable, rfl⟩ := addType_eq_ok hadd
  refine ⟨fun entry hentry => ?_, h.no_validators, h.exported_eq,
    visible_put h.visible hclaimable.visible⟩
  rcases Table.mem_put hentry with rfl | hold
  · exact ⟨hmem, hname⟩
  · exact h.types entry hold

/-- What holds while functions are named, for the types of a registry. -/
structure Functional (typed registry : Registry) : Prop where
  types_eq : registry.types = typed.types
  exported_eq : registry.exported = typed.exported
  validators : ∀ pointer name, registry.validatorName? pointer = some name →
    ∃ type, (pointer, type) ∈ typed.types ∧ name = Name.validator type
  visible : ∀ name, registry.used.has name = true → name.toList.head? ≠ some '_'

variable {entry : String × String}

theorem Functional.addFunctions {typed : Registry} (h : Functional typed registry)
    (hmem : entry ∈ typed.types) (hadd : addFunctions registry entry = .ok named) :
    Functional typed named := by
  obtain ⟨hclaimable, hnamed⟩ := addFunctions_eq_ok hadd
  have hwith : Functional typed (registry.withValidator entry) := by
    refine ⟨h.types_eq, h.exported_eq, fun pointer name hname => ?_,
      visible_put h.visible hclaimable.visible⟩
    simp only [withValidator, validatorName?, Table.get?_put] at hname
    split at hname
    · rename_i heq
      cases hname
      exact ⟨entry.2, heq ▸ hmem, rfl⟩
    · exact h.validators pointer name hname
  rcases hnamed with ⟨-, rfl⟩ | ⟨-, hparser, rfl⟩
  · exact hwith
  · exact ⟨hwith.types_eq, hwith.exported_eq, hwith.validators,
      visible_put hwith.visible hparser.visible⟩

/-- A pointer that is asked for gets a parse function. -/
theorem addFunctions_owns (hadd : addFunctions registry entry = .ok named)
    (hexported : named.isExported entry.1 = true) :
    named.used.get? (Name.parser entry.2) = some entry.1 := by
  obtain ⟨-, ⟨hhidden, rfl⟩ | ⟨-, -, rfl⟩⟩ := addFunctions_eq_ok hadd
  · rw [isExported, withValidator] at hexported
    rw [isExported, hexported] at hhidden
    cases hhidden
  · exact (Table.get?_put ..).trans (if_pos rfl)

theorem addFunctions_keeps (hadd : addFunctions registry entry = .ok named) :
    named.exported = registry.exported ∧ ∀ name pointer,
      registry.used.get? name = some pointer → named.used.get? name = some pointer := by
  obtain ⟨hclaimable, ⟨-, rfl⟩ | ⟨-, hparser, rfl⟩⟩ := addFunctions_eq_ok hadd
  · exact ⟨rfl, fun name _ hused => used_put_kept hclaimable.not_taken name hused⟩
  · exact ⟨rfl, fun name _ hused =>
      used_put_kept hparser.not_taken name (used_put_kept hclaimable.not_taken name hused)⟩

/-- After types are named, every pointer has the one that the targets and its segments give it. -/
theorem Typed.typeName_iff (h : Typed pointers targets schemaPath registry)
    (hall : ∀ pointer ∈ pointers, pointer ∈ registry.types.keys) (pointer type : String) :
    registry.typeName? pointer = some type ↔
      pointer ∈ pointers ∧ nameFor targets schemaPath pointer = .ok type := by
  constructor
  · exact fun htype => h.types (pointer, type) (Table.mem_of_get? htype)
  · rintro ⟨hmem, hname⟩
    obtain ⟨other, hother⟩ := Table.mem_keys.1 (hall pointer hmem)
    have hnames := (h.types (pointer, other) (Table.mem_of_get? hother)).2
    rw [typeName?, hother]
    exact congrArg some (Except.ok.inj (hnames.symm.trans hname))

/-- After functions are named, every pointer has the validator of its type. -/
theorem Functional.validatorName_eq {typed : Registry} (h : Functional typed registry)
    (htyped : Typed pointers targets schemaPath typed)
    (hsame : ∀ pointer, pointer ∈ registry.validators.keys ↔ pointer ∈ registry.types.keys)
    (pointer : String) :
    registry.validatorName? pointer = (registry.typeName? pointer).map Name.validator := by
  cases htype : registry.typeName? pointer with
  | none =>
    rw [Option.map_none, Option.eq_none_iff_forall_ne_some]
    intro name hname
    obtain ⟨type, htype'⟩ := Table.mem_keys.1 ((hsame pointer).1 (Table.mem_keys.2 ⟨name, hname⟩))
    rw [typeName?, htype'] at htype
    cases htype
  | some type =>
    obtain ⟨name, hname⟩ := Table.mem_keys.1 ((hsame pointer).2 (Table.mem_keys.2 ⟨type, htype⟩))
    obtain ⟨other, hother, rfl⟩ := h.validators pointer name hname
    have hentry : (pointer, type) ∈ typed.types := by
      rw [← h.types_eq]
      exact Table.mem_of_get? htype
    -- Both types are the one that the pointer is given.
    have hsame : other = type := Except.ok.inj
      ((htyped.types _ hother).2.symm.trans (htyped.types _ hentry).2)
    rw [validatorName?, hname, hsame]
    rfl

/-- **Naming a run registers the names of its pointers**, and nothing else. -/
theorem resolve_resolved (h : resolve pointers targets schemaPath = .ok registry) :
    Resolved pointers targets schemaPath registry := by
  obtain ⟨-, hsame⟩ := resolve_keys h
  obtain ⟨typed, htyped, h⟩ := bind_eq_ok.1 h
  have htypes : Typed pointers targets schemaPath typed :=
    foldlM_preserves (fun _ _ hmem _ hnamed hadd => hnamed.addType hmem hadd)
      ⟨by simp [empty], rfl, rfl, by simp [empty, Table.has]⟩ htyped
  have hall : ∀ pointer ∈ pointers, pointer ∈ typed.types.keys := by
    refine foldlM_brings (Q := fun pointer named => pointer ∈ named.types.keys)
      (fun _ pointer _ hadd => ?_) (fun _ pointer _ hadd other hother => ?_) htyped
    · obtain ⟨name, -, -, rfl⟩ := addType_eq_ok hadd
      exact Table.mem_keys_put.2 (.inl rfl)
    · obtain ⟨name, -, -, rfl⟩ := addType_eq_ok hadd
      exact Table.mem_keys_put.2 (.inr hother)
  have hfunctions : Functional typed registry := by
    refine foldlM_preserves (fun _ _ hmem _ hnamed hadd => hnamed.addFunctions hmem hadd)
      ⟨rfl, rfl, fun pointer name hname => ?_, htypes.visible⟩ h
    simp [validatorName?, htypes.no_validators, Table.get?] at hname
  have hparsers : ∀ entry ∈ typed.types, registry.isExported entry.1 = true →
      registry.used.get? (Name.parser entry.2) = some entry.1 := by
    refine foldlM_brings
      (Q := fun entry named => named.isExported entry.1 = true →
        named.used.get? (Name.parser entry.2) = some entry.1)
      (fun _ _ _ hadd => addFunctions_owns hadd) (fun _ _ _ hadd other hother hexported => ?_) h
    obtain ⟨hexports, hkept⟩ := addFunctions_keeps hadd
    refine hkept _ _ (hother ?_)
    rw [isExported, ← hexports]
    exact hexported
  have htypeName : registry.typeName? = typed.typeName? := by
    funext pointer
    rw [typeName?, typeName?, hfunctions.types_eq]
  refine ⟨fun pointer type => ?_, hfunctions.validatorName_eq htypes hsame, fun pointer => ?_,
    fun pointer type htype => ?_, hfunctions.visible⟩
  · rw [htypeName]
    exact htypes.typeName_iff hall pointer type
  · rw [isExported, hfunctions.exported_eq, htypes.exported_eq, List.contains_iff_mem,
      List.mem_eraseDups]
  · rw [htypeName] at htype
    exact hparsers (pointer, type) (Table.mem_of_get? htype)

/-- No pointer of a run is left without a type and a validator. -/
theorem names_of_resolve (h : resolve pointers targets schemaPath = .ok registry) {pointer : String}
    (hmem : pointer ∈ pointers) :
    ∃ type, registry.typeName? pointer = some type ∧
      registry.validatorName? pointer = some (Name.validator type) := by
  have hresolved := resolve_resolved h
  obtain ⟨typed, htyped, -⟩ := bind_eq_ok.1 h
  have hnamed : ∀ pointer ∈ pointers, ∃ type, nameFor targets schemaPath pointer = .ok type := by
    refine foldlM_brings (Q := fun pointer _ => ∃ type, nameFor targets schemaPath pointer = .ok type)
      (fun _ pointer _ hadd => ?_) (fun _ _ _ _ _ hother => hother) htyped
    obtain ⟨type, htype, -, -⟩ := addType_eq_ok hadd
    exact ⟨type, htype⟩
  obtain ⟨type, htype⟩ := hnamed pointer hmem
  have hname := (hresolved.typeName_iff pointer type).2 ⟨hmem, htype⟩
  refine ⟨type, hname, ?_⟩
  rw [hresolved.validatorName_eq, hname]
  rfl

end Registry

end SchemaGuard
