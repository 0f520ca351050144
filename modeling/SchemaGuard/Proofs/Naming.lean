import Mathlib.Data.List.Nodup
import SchemaGuard.Name.Registry
import SchemaGuard.Proofs.Gives
import SchemaGuard.Proofs.Tables

/-!
# What the registry keeps

Every name of a run has one owner. `Registry.Sound` says so for the types and validators of a
registry: their names are in use, by the pointer they belong to, and no reserved name is in use.

**Theorem (`resolve_sound`).** A registry that names all pointers of a run is sound. Claiming fresh
names afterwards keeps it sound and only adds to the names in use (`Registry.Grown`), because a
fresh name is always found: there are more candidates than names that are in use or reserved.
-/

namespace SchemaGuard

/-! ## Names in use -/

namespace Registry

variable {registry : Registry}

/-- Every type and every validator has a name that is in use by its pointer, and no name in use is
reserved. -/
structure Sound (registry : Registry) : Prop where
  type_owned : ∀ pointer name, registry.typeName? pointer = some name →
    registry.used.get? name = some pointer
  validator_owned : ∀ pointer name, registry.validatorName? pointer = some name →
    registry.used.get? name = some pointer
  not_reserved : ∀ name, registry.used.has name → isReserved name = false

/-- A later registry of the same run: more names may be in use, nothing else has changed. -/
structure Grown (registry later : Registry) : Prop where
  types_eq : later.types = registry.types
  names_eq : later.names = registry.names
  validators_eq : later.validators = registry.validators
  exported_eq : later.exported = registry.exported
  used_kept : ∀ name owner, registry.used.get? name = some owner → later.used.get? name = some owner

variable {name : String}

theorem Grown.refl (registry : Registry) : Grown registry registry :=
  ⟨rfl, rfl, rfl, rfl, fun _ _ h => h⟩

theorem Grown.trans {first second third : Registry} (h : Grown first second)
    (h' : Grown second third) : Grown first third where
  types_eq := h'.types_eq.trans h.types_eq
  names_eq := h'.names_eq.trans h.names_eq
  validators_eq := h'.validators_eq.trans h.validators_eq
  exported_eq := h'.exported_eq.trans h.exported_eq
  used_kept name owner hused := h'.used_kept name owner (h.used_kept name owner hused)

/-- Two pointers do not share the name of a validator. -/
theorem Sound.validator_unique (h : Sound registry) {first second : String}
    (hfirst : registry.validatorName? first = some name)
    (hsecond : registry.validatorName? second = some name) : first = second := by
  have howner := h.validator_owned first name hfirst
  rw [h.validator_owned second name hsecond] at howner
  exact (Option.some.inj howner).symm

/-! ## Claiming a name -/

/-- A name may be claimed for an owner: it is neither reserved nor hidden, and nobody else has it.
-/
structure Claimable (registry : Registry) (name owner : String) : Prop where
  not_reserved : isReserved name = false
  visible : name.toList.head? ≠ some '_'
  not_taken : ∀ other, registry.used.get? name = some other → other = owner

variable {owner pointer : String}

theorem claim_eq_ok {claimed : Registry} (h : registry.claim name owner = .ok claimed) :
    Claimable registry name owner ∧
      claimed = { registry with used := registry.used.put name owner } := by
  unfold claim at h
  split at h
  · cases h
  · rename_i hfree
    simp only [Bool.or_eq_true, not_or, Bool.not_eq_true, beq_iff_eq] at hfree
    split at h
    · rename_i hnone
      cases h
      exact ⟨⟨hfree.1, hfree.2, fun other hother => by rw [hnone] at hother; cases hother⟩, rfl⟩
    · rename_i existing hsome
      split at h
      · rename_i heq
        cases h
        refine ⟨⟨hfree.1, hfree.2, fun other hother => ?_⟩, rfl⟩
        rw [hsome] at hother
        cases hother
        exact eq_of_beq heq
      · cases h

/-- A name that is put in use for an owner who may hold it already leaves all owners as they are. -/
theorem used_put_kept {used : Table String}
    (h : ∀ other, used.get? name = some other → other = owner) (other : String)
    (hused : used.get? other = some pointer) : (used.put name owner).get? other = some pointer := by
  rw [Table.get?_put]
  split
  · rename_i heq
    rw [heq] at hused
    rw [h pointer hused]
  · exact hused

theorem Sound.use (h : Sound registry) (hreserved : isReserved name = false)
    (howner : ∀ other, registry.used.get? name = some other → other = owner) :
    Sound { registry with used := registry.used.put name owner } where
  type_owned pointer typeName htype := used_put_kept howner typeName (h.type_owned _ _ htype)
  validator_owned pointer validator hvalidator :=
    used_put_kept howner validator (h.validator_owned _ _ hvalidator)
  not_reserved other hother := by
    rcases (Table.has_put ..).1 hother with rfl | hother
    · exact hreserved
    · exact h.not_reserved other hother

/-! ## Fresh names -/

theorem repr_injective {n m : Nat} (h : toString n = toString m) : n = m := by
  have hdigits : Nat.toDigits 10 n = Nat.toDigits 10 m := by
    rw [← Nat.toList_repr, ← Nat.toList_repr, ← Nat.toString_eq_repr, ← Nat.toString_eq_repr, h]
  rw [← @Nat.ofDigitChars_ten_toDigits n, hdigits, Nat.ofDigitChars_ten_toDigits]

theorem base_ne_candidate (base : String) (n : Nat) : base ≠ candidate base (n + 1) := by
  intro h
  have hlength := congrArg String.length h
  have hpos := @Nat.length_repr_pos (n + 2)
  simp only [candidate, String.length_append, Nat.toString_eq_repr] at hlength
  omega

theorem candidate_injective (base : String) : Function.Injective (candidate base) := by
  intro n m h
  cases n with
  | zero =>
    cases m with
    | zero => rfl
    | succ m => exact absurd h (base_ne_candidate base m)
  | succ n =>
    cases m with
    | zero => exact absurd h.symm (base_ne_candidate base n)
    | succ m =>
      have := repr_injective ((String.append_right_inj base).1 h)
      omega

/-- **A fresh name is free**: the candidates are more than the names in use and the reserved ones.
-/
theorem isFree_freeName (registry : Registry) (base : String) :
    registry.isFree (registry.freeName base) = true := by
  simp only [freeName]
  generalize hcandidates : (List.range (registry.used.length + reservedNames.length + 1)).map
    (candidate base) = candidates
  cases hfound : candidates.find? registry.isFree with
  | some name => exact List.find?_some hfound
  | none =>
    have hnodup : candidates.Nodup := by
      rw [← hcandidates]
      exact List.nodup_range.map (candidate_injective base)
    have hsubset : candidates ⊆ registry.used.keys ++ reservedNames := by
      intro name hname
      have hnot := List.find?_eq_none.1 hfound name hname
      simp only [isFree, isReserved, Table.has, Bool.and_eq_true, Bool.not_eq_true',
        not_and_or, Bool.not_eq_false, List.any_eq_true, List.contains_iff_mem] at hnot
      rcases hnot with ⟨entry, hentry, heq⟩ | hreserved
      · exact List.mem_append_left _ (List.mem_map.2 ⟨entry, hentry, eq_of_beq heq⟩)
      · exact List.mem_append_right _ hreserved
    have hlength := hnodup.length_le_of_subset hsubset
    rw [← hcandidates] at hlength
    simp only [List.length_map, List.length_range, List.length_append, Table.keys] at hlength
    omega

/-- A fresh name is neither in use nor reserved. -/
theorem freeName_fresh (registry : Registry) (base : String) :
    registry.used.get? (registry.freeName base) = none ∧
      isReserved (registry.freeName base) = false := by
  have hfree := isFree_freeName registry base
  simp only [isFree, Bool.and_eq_true, Bool.not_eq_true'] at hfree
  refine ⟨?_, hfree.2⟩
  rw [Option.eq_none_iff_forall_ne_some]
  intro owner howner
  rw [Table.has_iff.2 ⟨owner, howner⟩] at hfree
  cases hfree.1

theorem claimUnique_grown (registry : Registry) (base owner : String) :
    Grown registry (registry.claimUnique base owner).2 := by
  refine ⟨rfl, rfl, rfl, rfl, fun name holder hused => ?_⟩
  refine used_put_kept (fun other hother => ?_) name hused
  rw [(freeName_fresh registry base).1] at hother
  cases hother

theorem claimUnique_sound (h : Sound registry) (base owner : String) :
    Sound (registry.claimUnique base owner).2 := by
  obtain ⟨hunused, hreserved⟩ := freeName_fresh registry base
  refine h.use hreserved (fun other hother => ?_)
  rw [hunused] at hother
  cases hother

/-! ## Naming a run -/

variable {targets : List Target} {schemaPath : String} {named : Registry}

theorem empty_sound (exported : List String) : Sound { empty with exported } where
  type_owned _ _ h := by cases h
  validator_owned _ _ h := by cases h
  not_reserved _ h := by cases h

/-- What naming the type of a pointer does, taken apart. -/
theorem addType_eq_ok (h : addType targets schemaPath registry pointer = .ok named) :
    ∃ name, nameFor targets schemaPath pointer = .ok name ∧ Claimable registry name pointer ∧
      named = { registry with
        used := registry.used.put name pointer
        names := registry.names.put name pointer
        types := registry.types.put pointer name } := by
  unfold addType at h
  split at h
  · cases h
  · rename_i name hname
    split at h
    · cases h
    · split at h
      · cases h
      · rename_i claimed hclaim
        obtain ⟨hclaimable, rfl⟩ := claim_eq_ok hclaim
        cases h
        exact ⟨name, hname, hclaimable, rfl⟩

/-- The registry in which a pointer has the validator of its type. -/
def withValidator (registry : Registry) (entry : String × String) : Registry :=
  { registry with
    used := registry.used.put (Name.validator entry.2) entry.1
    validators := registry.validators.put entry.1 (Name.validator entry.2) }

variable {entry : String × String}

/-- What naming the functions of a pointer does, taken apart. -/
theorem addFunctions_eq_ok (h : addFunctions registry entry = .ok named) :
    Claimable registry (Name.validator entry.2) entry.1 ∧
      (registry.isExported entry.1 = false ∧ named = registry.withValidator entry ∨
        registry.isExported entry.1 = true ∧
          Claimable (registry.withValidator entry) (Name.parser entry.2) entry.1 ∧
          named = { registry.withValidator entry with
            used := (registry.withValidator entry).used.put (Name.parser entry.2) entry.1 }) := by
  unfold addFunctions at h
  dsimp only at h
  split at h
  · cases h
  · rename_i claimed hclaim
    obtain ⟨hclaimable, rfl⟩ := claim_eq_ok hclaim
    refine ⟨hclaimable, ?_⟩
    split at h
    · rename_i hexported
      split at h
      · cases h
      · rename_i parser hparser
        obtain ⟨hclaimable', rfl⟩ := claim_eq_ok hparser
        cases h
        exact .inr ⟨hexported, hclaimable', rfl⟩
    · rename_i hexported
      cases h
      exact .inl ⟨Bool.not_eq_true _ ▸ hexported, rfl⟩

theorem addType_sound (hsound : Sound registry)
    (h : addType targets schemaPath registry pointer = .ok named) :
    Sound named := by
  obtain ⟨name, -, hclaimable, rfl⟩ := addType_eq_ok h
  have hclaimed := hsound.use hclaimable.not_reserved hclaimable.not_taken
  refine ⟨fun other typeName htype => ?_, hclaimed.validator_owned, hclaimed.not_reserved⟩
  simp only [typeName?, Table.get?_put] at htype
  split at htype
  · rename_i heq
    cases htype
    rw [heq]
    exact (Table.get?_put ..).trans (if_pos rfl)
  · exact hclaimed.type_owned other typeName htype

theorem withValidator_sound (hsound : Sound registry)
    (h : Claimable registry (Name.validator entry.2) entry.1) :
    Sound (registry.withValidator entry) := by
  have hclaimed := hsound.use h.not_reserved h.not_taken
  refine ⟨hclaimed.type_owned, fun other name hname => ?_, hclaimed.not_reserved⟩
  simp only [withValidator, validatorName?, Table.get?_put] at hname
  split at hname
  · rename_i heq
    cases hname
    rw [heq]
    exact (Table.get?_put ..).trans (if_pos rfl)
  · exact hclaimed.validator_owned other name hname

theorem addFunctions_sound (hsound : Sound registry) (h : addFunctions registry entry = .ok named) :
    Sound named := by
  obtain ⟨hclaimable, ⟨-, rfl⟩ | ⟨-, hparser, rfl⟩⟩ := addFunctions_eq_ok h
  · exact withValidator_sound hsound hclaimable
  · exact (withValidator_sound hsound hclaimable).use hparser.not_reserved hparser.not_taken

/-- **The registry of a run is sound.** -/
theorem resolve_sound {pointers : List String}
    (h : resolve pointers targets schemaPath = .ok registry) : Sound registry := by
  obtain ⟨typed, htyped, h⟩ := bind_eq_ok.1 h
  have hsound : Sound typed :=
    foldlM_preserves (fun _ _ _ _ => addType_sound) (empty_sound _) htyped
  exact foldlM_preserves (fun _ _ _ _ => addFunctions_sound) hsound h

theorem addType_keys (h : addType targets schemaPath registry pointer = .ok named) :
    named.validators = registry.validators ∧
      ∀ other ∈ named.types.keys, other = pointer ∨ other ∈ registry.types.keys := by
  obtain ⟨name, -, -, rfl⟩ := addType_eq_ok h
  exact ⟨rfl, fun other hother => Table.mem_keys_put.1 hother⟩

theorem addFunctions_keys (h : addFunctions registry entry = .ok named) :
    named.types = registry.types ∧
      ∀ other, other ∈ named.validators.keys ↔ other = entry.1 ∨
        other ∈ registry.validators.keys := by
  obtain ⟨-, ⟨-, rfl⟩ | ⟨-, -, rfl⟩⟩ := addFunctions_eq_ok h
  · exact ⟨rfl, fun other => Table.mem_keys_put⟩
  · exact ⟨rfl, fun other => Table.mem_keys_put⟩

/-- Only the pointers of a run have types, and those with types are those with validators. -/
theorem resolve_keys {pointers : List String}
    (h : resolve pointers targets schemaPath = .ok registry) :
    (∀ pointer ∈ registry.types.keys, pointer ∈ pointers) ∧
      ∀ pointer, pointer ∈ registry.validators.keys ↔ pointer ∈ registry.types.keys := by
  obtain ⟨typed, htyped, h⟩ := bind_eq_ok.1 h
  have htypes : typed.validators = [] ∧ ∀ pointer ∈ typed.types.keys, pointer ∈ pointers := by
    refine foldlM_preserves
      (P := fun named => named.validators = [] ∧ ∀ pointer ∈ named.types.keys, pointer ∈ pointers)
      (fun named pointer hmem later hkeys hadd => ?_) ⟨rfl, by simp [empty, Table.keys]⟩ htyped
    obtain ⟨hsame, hnew⟩ := addType_keys hadd
    refine ⟨hsame.trans hkeys.1, fun other hother => ?_⟩
    rcases hnew other hother with rfl | hold
    · exact hmem
    · exact hkeys.2 other hold
  have honly : registry.types = typed.types ∧
      ∀ pointer ∈ registry.validators.keys, pointer ∈ typed.types.keys := by
    refine foldlM_preserves
      (P := fun named => named.types = typed.types ∧
        ∀ pointer ∈ named.validators.keys, pointer ∈ typed.types.keys)
      (fun named entry hmem later hkeys hadd => ?_) ⟨rfl, by simp [htypes.1, Table.keys]⟩ h
    obtain ⟨hsame, hnew⟩ := addFunctions_keys hadd
    refine ⟨hsame.trans hkeys.1, fun other hother => ?_⟩
    rcases (hnew other).1 hother with rfl | hold
    · exact List.mem_map_of_mem hmem
    · exact hkeys.2 other hold
  have hall : ∀ entry ∈ typed.types, entry.1 ∈ registry.validators.keys :=
    foldlM_brings (Q := fun entry named => entry.1 ∈ named.validators.keys)
      (fun _ entry _ hadd => ((addFunctions_keys hadd).2 entry.1).2 (.inl rfl))
      (fun _ _ _ hadd other hother => ((addFunctions_keys hadd).2 other.1).2 (.inr hother)) h
  rw [honly.1]
  refine ⟨htypes.2, fun pointer => ⟨honly.2 pointer, fun hmem => ?_⟩⟩
  obtain ⟨entry, hentry, rfl⟩ := List.mem_map.1 hmem
  exact hall entry hentry

end Registry

end SchemaGuard
