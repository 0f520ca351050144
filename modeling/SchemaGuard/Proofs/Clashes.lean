import Mathlib.Data.List.Perm.Basic
import SchemaGuard.Proofs.Fails
import SchemaGuard.Proofs.NamesGiven
import SchemaGuard.Proofs.Requests

/-!
# Naming succeeds exactly when nothing clashes

The types, validators and parse functions of a run share one space of names. They are claimed one
after another, types first, and a claim is let through if the name is the claimant's already. This
file says what comes of it without the order of the claims.

**Theorem (`resolve_exact`).** Different pointers can be named if and only if each of them has a
type name, none of these is reserved or hidden, and all names of types and functions differ. The
registry then holds exactly these names, under their owners; so neither success nor the names
depend on the order of the pointers. If each pointer has a type name, failing is always a clash.

If nothing clashes, every claim finds its name unused and adds one entry. So the registry is known
after every step (`named`), and naming is an induction over the pointers. If naming succeeds, no two
claims were of one name: two pointers would both own it, and the names of one pointer differ.
-/

namespace SchemaGuard

namespace Registry

variable {registry : Registry} {targets : List Target} {schemaPath pointer : String}
  {pointers : List String}

/-! ## The type names of pointers -/

/-- A target gives a name to a pointer. -/
def GivesName (pointer : String) (target : Target) : Prop :=
  target.path = pointer ∧ ∃ name, target.name = some name ∧ name ≠ ""

/-- The type name of a pointer: the one that the last target with a name for it gives, or else the
one made from the schema's file name, for the root, or from the last segment. -/
inductive NameOf (targets : List Target) (schemaPath pointer : String) : String → Prop where
  | given {before after : List Target} {name : String}
      (heq : targets = before ++ ⟨pointer, some name⟩ :: after) (hname : name ≠ "")
      (hlast : ∀ target ∈ after, ¬GivesName pointer target) : NameOf targets schemaPath pointer name
  | root (hnone : ∀ target ∈ targets, ¬GivesName pointer target) (hroot : pointer = Pointer.root) :
      NameOf targets schemaPath pointer (Name.ofSchemaPath schemaPath)
  | derived {name : String} (hnone : ∀ target ∈ targets, ¬GivesName pointer target)
      (hinner : pointer ≠ Pointer.root) (hname : Name.ofPointer pointer = .ok name) :
      NameOf targets schemaPath pointer name

variable {name : String}

theorem explicitName?_single {target : Target} :
    explicitName? [target] pointer = some name ↔ target = ⟨pointer, some name⟩ ∧ name ≠ "" := by
  obtain ⟨path, given⟩ := target
  cases given with
  | none => simp [explicitName?]
  | some given =>
    by_cases hpath : path = pointer
    · by_cases hempty : given = ""
      · simp [explicitName?, hempty]
      · have hfound : explicitName? [⟨path, some given⟩] pointer = some given := by
          simp [explicitName?, hpath, hempty]
        rw [hfound, Option.some.injEq, Target.mk.injEq, Option.some.injEq]
        constructor
        · rintro rfl
          exact ⟨⟨hpath, rfl⟩, hempty⟩
        · exact fun h => h.1.2
    · simp [explicitName?, hpath]

theorem explicitName?_single_none {target : Target} :
    explicitName? [target] pointer = none ↔ ¬GivesName pointer target := by
  rw [Option.eq_none_iff_forall_ne_some]
  constructor
  · rintro h ⟨hpath, name, hname, hne⟩
    refine h name (explicitName?_single.2 ⟨?_, hne⟩)
    cases target
    simp_all
  · intro h name hname
    obtain ⟨rfl, hne⟩ := explicitName?_single.1 hname
    exact h ⟨rfl, name, rfl, hne⟩

theorem explicitName?_eq (targets : List Target) (pointer : String) :
    explicitName? targets pointer =
      targets.reverse.findSome? fun target => explicitName? [target] pointer := by
  unfold explicitName?
  simp

theorem explicitName?_eq_none_iff :
    explicitName? targets pointer = none ↔ ∀ target ∈ targets, ¬GivesName pointer target := by
  rw [explicitName?_eq, List.findSome?_eq_none_iff]
  simp only [List.mem_reverse, explicitName?_single_none]

theorem explicitName?_eq_some_iff :
    explicitName? targets pointer = some name ↔ ∃ before after,
      targets = before ++ ⟨pointer, some name⟩ :: after ∧ name ≠ "" ∧
        ∀ target ∈ after, ¬GivesName pointer target := by
  rw [explicitName?_eq, List.findSome?_eq_some_iff]
  simp only [explicitName?_single, explicitName?_single_none]
  constructor
  · rintro ⟨after, target, before, heq, ⟨rfl, hne⟩, hlast⟩
    refine ⟨before.reverse, after.reverse, ?_, hne, fun target hmem => ?_⟩
    · rw [← List.reverse_reverse targets, heq]
      simp
    · exact hlast target (List.mem_reverse.1 hmem)
  · rintro ⟨before, after, rfl, hne, hlast⟩
    refine ⟨after.reverse, _, before.reverse, by simp, ⟨rfl, hne⟩, fun target hmem => ?_⟩
    exact hlast target (List.mem_reverse.1 hmem)

/-- The name that a pointer is given is its type name. -/
theorem nameFor_eq_ok_iff :
    nameFor targets schemaPath pointer = .ok name ↔ NameOf targets schemaPath pointer name := by
  constructor
  · intro h
    cases hgiven : explicitName? targets pointer with
    | some given =>
      obtain ⟨before, after, heq, hne, hlast⟩ := explicitName?_eq_some_iff.1 hgiven
      simp only [nameFor, hgiven] at h
      cases h
      exact .given heq hne hlast
    | none =>
      have hnone := explicitName?_eq_none_iff.1 hgiven
      simp only [nameFor, hgiven] at h
      by_cases hroot : pointer = Pointer.root
      · rw [if_pos (beq_iff_eq.2 hroot)] at h
        rw [← Except.ok.inj h]
        exact .root hnone hroot
      · rw [if_neg (mt beq_iff_eq.1 hroot)] at h
        exact .derived hnone hroot h
  · intro h
    cases h with
    | given heq hne hlast =>
      simp only [nameFor, explicitName?_eq_some_iff.2 ⟨_, _, heq, hne, hlast⟩]
    | root hnone hroot =>
      simp only [nameFor, explicitName?_eq_none_iff.2 hnone]
      rw [if_pos (beq_iff_eq.2 hroot)]
    | derived hnone hinner hname =>
      simp only [nameFor, explicitName?_eq_none_iff.2 hnone]
      rw [if_neg (mt beq_iff_eq.1 hinner), hname]

/-! ## Function names are never reserved -/

theorem not_isReserved_of_take {s : String} {n : Nat} (hstart : name.toList.take n = s.toList)
    (hnone : ∀ reserved ∈ reservedNames, reserved.toList.take n ≠ s.toList) :
    isReserved name = false := by
  rw [isReserved, Bool.eq_false_iff]
  intro hmem
  exact hnone name (List.contains_iff_mem.1 hmem) hstart

theorem validator_not_isReserved (type : String) : isReserved (Name.validator type) = false :=
  not_isReserved_of_take (n := 8) (s := "validate") (by simp [Name.validator]) (by decide)

theorem parser_not_isReserved (type : String) : isReserved (Name.parser type) = false :=
  not_isReserved_of_take (n := 5) (s := "parse") (by simp [Name.parser]) (by decide)

/-! ## Naming without clashes -/

/-- The names of the functions of a pointer. -/
def functionNames (name : String → String) (exported : List String) (pointer : String) :
    Table String :=
  (Name.validator (name pointer), pointer) ::
    if exported.contains pointer then [(Name.parser (name pointer), pointer)] else []

/-- The registry after the types of some pointers and the functions of others are named, without
any clashes. -/
def named (name : String → String) (exported types functions : List String) : Registry where
  types := types.map fun pointer => (pointer, name pointer)
  names := types.map fun pointer => (name pointer, pointer)
  validators := functions.map fun pointer => (pointer, Name.validator (name pointer))
  exported
  used := types.map (fun pointer => (name pointer, pointer)) ++
    functions.flatMap (functionNames name exported)

section Steps

variable {name : String → String} {exported done rest : List String}

/-- A name that nobody has is added at the end of those in use. -/
theorem claim_unused {text owner : String} (hreserved : isReserved text = false)
    (hvisible : text.toList.head? ≠ some '_') (hunused : text ∉ registry.used.keys) :
    registry.claim text owner = .ok { registry with used := registry.used ++ [(text, owner)] } := by
  have hnone : registry.used.get? text = none := Table.get?_eq_none_iff.2 hunused
  have hclaimable : Claimable registry text owner :=
    ⟨hreserved, hvisible, fun other hother => by rw [hnone] at hother; cases hother⟩
  obtain ⟨claimed, hclaimed⟩ := claim_eq_ok_iff.2 hclaimable
  rw [hclaimed, (claim_eq_ok hclaimed).2, Table.put_of_get?_eq_none hnone]

theorem addType_unused (hname : nameFor targets schemaPath pointer = .ok (name pointer))
    (hreserved : isReserved (name pointer) = false)
    (hvisible : (name pointer).toList.head? ≠ some '_') (hnew : pointer ∉ done)
    (hunused : name pointer ∉ done.map name) :
    addType targets schemaPath (named name exported done []) pointer =
      .ok (named name exported (done ++ [pointer]) []) := by
  have hnames : name pointer ∉ (named name exported done []).names.keys := by
    simpa [named, Table.keys] using hunused
  have hused : name pointer ∉ (named name exported done []).used.keys := by
    simpa [named, Table.keys] using hunused
  have htypes : pointer ∉ (named name exported done []).types.keys := by
    simpa [named, Table.keys] using hnew
  have hnone := Table.get?_eq_none_iff.2 hnames
  have htype := Table.get?_eq_none_iff.2 htypes
  unfold addType
  rw [hname]
  dsimp only
  rw [hnone, Option.filter_none, claim_unused hreserved hvisible hused]
  dsimp only
  rw [Table.put_of_get?_eq_none hnone, Table.put_of_get?_eq_none htype]
  simp [named]

/-- All types are named. -/
theorem foldlM_addType (hname : ∀ pointer ∈ done ++ rest,
      nameFor targets schemaPath pointer = .ok (name pointer))
    (hfree : ∀ pointer ∈ done ++ rest, isReserved (name pointer) = false ∧
      (name pointer).toList.head? ≠ some '_')
    (hdistinct : (done ++ rest).Nodup) (hnames : ((done ++ rest).map name).Nodup) :
    rest.foldlM (addType targets schemaPath) (named name exported done []) =
      .ok (named name exported (done ++ rest) []) := by
  induction rest generalizing done with
  | nil =>
    rw [List.append_nil]
    rfl
  | cons pointer rest ih =>
    have happend : done ++ pointer :: rest = (done ++ [pointer]) ++ rest := by simp
    have hmem : pointer ∈ done ++ pointer :: rest := by simp
    have hnew : pointer ∉ done := fun hold =>
      List.disjoint_of_nodup_append hdistinct hold List.mem_cons_self
    have hunused : name pointer ∉ done.map name := by
      rw [List.map_append] at hnames
      exact fun hold => List.disjoint_of_nodup_append hnames hold (by simp)
    rw [List.foldlM_cons, addType_unused (hname pointer hmem) (hfree pointer hmem).1
      (hfree pointer hmem).2 hnew hunused]
    rw [happend] at hname hfree hdistinct hnames ⊢
    exact ih hname hfree hdistinct hnames

theorem addFunctions_unused (hnew : pointer ∉ done)
    (hunused : ((named name exported pointers done).used.keys ++
      (functionNames name exported pointer).keys).Nodup) :
    addFunctions (named name exported pointers done) (pointer, name pointer) =
      .ok (named name exported pointers (done ++ [pointer])) := by
  have hvalidator : Name.validator (name pointer) ∉
      (named name exported pointers done).used.keys := fun hold =>
    List.disjoint_of_nodup_append hunused hold (by simp [functionNames, Table.keys])
  have hvalidators : pointer ∉ (named name exported pointers done).validators.keys := by
    simpa [named, Table.keys] using hnew
  unfold addFunctions
  dsimp only
  rw [claim_unused (validator_not_isReserved _) (by simp [Name.validator_head]) hvalidator]
  dsimp only
  rw [Table.put_of_get?_eq_none (Table.get?_eq_none_iff.2 hvalidators)]
  by_cases hexported : exported.contains pointer = true
  · have hparser : Name.parser (name pointer) ∉ Table.keys
        ((named name exported pointers done).used ++ [(Name.validator (name pointer), pointer)]) := by
      rw [Table.keys, List.map_append, List.mem_append]
      rintro (hold | hold)
      · refine List.disjoint_of_nodup_append hunused hold ?_
        rw [functionNames, if_pos hexported]
        simp [Table.keys]
      · exact Name.parser_ne_validator _ _ (List.mem_singleton.1 hold)
    refine (if_pos hexported).trans ?_
    rw [claim_unused (parser_not_isReserved _) (by simp [Name.parser_head]) hparser]
    have hfunctions : functionNames name exported pointer =
        [(Name.validator (name pointer), pointer), (Name.parser (name pointer), pointer)] := by
      rw [functionNames, if_pos hexported]
    simp [named, hfunctions]
  · refine (if_neg hexported).trans ?_
    have hfunctions : functionNames name exported pointer =
        [(Name.validator (name pointer), pointer)] := by
      rw [functionNames, if_neg hexported]
    simp [named, hfunctions]

/-- All functions are named. -/
theorem foldlM_addFunctions (hpointers : pointers = done ++ rest) (hdistinct : pointers.Nodup)
    (hunused : (named name exported pointers pointers).used.keys.Nodup) :
    (rest.map fun pointer => (pointer, name pointer)).foldlM addFunctions
        (named name exported pointers done) =
      .ok (named name exported pointers pointers) := by
  induction rest generalizing done with
  | nil =>
    rw [List.append_nil] at hpointers
    rw [← hpointers]
    rfl
  | cons pointer rest ih =>
    have hnew : pointer ∉ done := by
      rw [hpointers] at hdistinct
      exact fun hold => List.disjoint_of_nodup_append hdistinct hold List.mem_cons_self
    have hkeys : (named name exported pointers pointers).used.keys =
        (named name exported pointers done).used.keys ++
          (functionNames name exported pointer).keys ++
          (rest.flatMap (functionNames name exported)).map (·.1) := by
      have hall : pointers.flatMap (functionNames name exported) =
          (done ++ pointer :: rest).flatMap (functionNames name exported) :=
        congrArg (List.flatMap (functionNames name exported)) hpointers
      simp [named, Table.keys, hall]
    have hstep : ((named name exported pointers done).used.keys ++
        (functionNames name exported pointer).keys).Nodup := by
      rw [hkeys] at hunused
      exact (List.nodup_append.1 hunused).1
    rw [List.map_cons, List.foldlM_cons, addFunctions_unused hnew hstep]
    exact ih (by simp [hpointers])

end Steps

/-! ## All names of a run -/

/-- All names that are claimed for some pointers: those of the types, of the validators, and of the
parse functions of the targets among them. -/
def claimedNames (targets : List Target) (name : String → String) (pointers : List String) :
    List String :=
  pointers.map name ++ pointers.map (fun pointer => Name.validator (name pointer)) ++
    (pointers.filter fun pointer => (targets.map (·.path)).contains pointer).map fun pointer =>
      Name.parser (name pointer)

/-- Nothing stands against naming some pointers so. -/
structure Unclashing (targets : List Target) (schemaPath : String) (pointers : List String)
    (name : String → String) : Prop where
  nameOf : ∀ pointer ∈ pointers, NameOf targets schemaPath pointer (name pointer)
  free : ∀ pointer ∈ pointers, isReserved (name pointer) = false ∧
    (name pointer).toList.head? ≠ some '_'
  nodup : (claimedNames targets name pointers).Nodup

section Run

variable {name : String → String}

theorem Unclashing.nodup_names (h : Unclashing targets schemaPath pointers name) :
    (pointers.map name).Nodup := by
  have hnodup := h.nodup
  rw [claimedNames, List.append_assoc] at hnodup
  exact (List.nodup_append.1 hnodup).1

/-- The pointers that were asked for. -/
def exportedBy (targets : List Target) : List String := (targets.map (·.path)).eraseDups

theorem contains_exportedBy (pointer : String) :
    (exportedBy targets).contains pointer = (targets.map (·.path)).contains pointer := by
  rw [Bool.eq_iff_iff, List.contains_iff_mem, List.contains_iff_mem, exportedBy,
    List.mem_eraseDups]

theorem used_named_perm (pointers : List String) :
    (named name (exportedBy targets) pointers pointers).used.keys.Perm
      (claimedNames targets name pointers) := by
  have hparsers : (pointers.flatMap fun pointer =>
      if (exportedBy targets).contains pointer then [Name.parser (name pointer)] else []) =
      (pointers.filter fun pointer => (targets.map (·.path)).contains pointer).map fun pointer =>
        Name.parser (name pointer) := by
    induction pointers with
    | nil => rfl
    | cons pointer pointers ih =>
      rw [List.flatMap_cons, ih, contains_exportedBy, List.filter_cons]
      split <;> rfl
  have hkeys : (named name (exportedBy targets) pointers pointers).used.keys =
      pointers.map name ++ pointers.flatMap fun pointer =>
        Name.validator (name pointer) ::
          if (exportedBy targets).contains pointer then [Name.parser (name pointer)] else [] := by
    simp only [named, Table.keys, List.map_append, List.map_map, List.map_flatMap]
    congr 2
    funext pointer
    rw [functionNames, List.map_cons]
    split <;> rfl
  rw [hkeys, claimedNames, List.append_assoc, ← hparsers]
  exact (List.map_append_flatMap_perm _ _ _).symm.append_left _

/-- **Without clashes naming succeeds**, and the registry holds what was claimed. -/
theorem resolve_of_unclashing (hdistinct : pointers.Nodup)
    (h : Unclashing targets schemaPath pointers name) :
    resolve pointers targets schemaPath =
      .ok (named name (exportedBy targets) pointers pointers) := by
  have htypes : pointers.foldlM (addType targets schemaPath)
      (named name (exportedBy targets) [] []) =
        .ok (named name (exportedBy targets) pointers []) :=
    foldlM_addType (fun pointer hmem => nameFor_eq_ok_iff.2 (h.nameOf pointer hmem)) h.free
      hdistinct h.nodup_names
  have hunused := (used_named_perm pointers).nodup_iff.2 h.nodup
  refine bind_eq_ok.2 ⟨_, htypes, ?_⟩
  exact foldlM_addFunctions (List.nil_append pointers).symm hdistinct hunused

/-! ## Naming that succeeds -/

variable {others : List String}

/-- Names that are owned by what they are of are different for different pointers. -/
theorem nodup_of_owned {used : Table String} {f : String → String} (hdistinct : pointers.Nodup)
    (howned : ∀ pointer ∈ pointers, used.get? (f pointer) = some pointer) :
    (pointers.map f).Nodup := by
  refine List.Nodup.map_on (fun pointer hmem other hother heq => ?_) hdistinct
  have hsame := howned pointer hmem
  rw [heq, howned other hother] at hsame
  exact (Option.some.inj hsame).symm

theorem disjoint_of_owned {used : Table String} {f g : String → String}
    (howned : ∀ pointer ∈ pointers, used.get? (f pointer) = some pointer)
    (howned' : ∀ pointer ∈ others, used.get? (g pointer) = some pointer)
    (hne : ∀ pointer, f pointer ≠ g pointer) : (pointers.map f).Disjoint (others.map g) := by
  intro text htext htext'
  obtain ⟨pointer, hmem, rfl⟩ := List.mem_map.1 htext
  obtain ⟨other, hother, heq⟩ := List.mem_map.1 htext'
  have hsame := howned' other hother
  rw [heq, howned pointer hmem] at hsame
  rw [← Option.some.inj hsame] at heq
  exact hne pointer heq.symm

/-- **Naming that succeeds meets no clash.** -/
theorem unclashing_of_resolve (hdistinct : pointers.Nodup)
    (hname : ∀ pointer ∈ pointers, nameFor targets schemaPath pointer = .ok (name pointer))
    (h : resolve pointers targets schemaPath = .ok registry) :
    Unclashing targets schemaPath pointers name := by
  have hsound := resolve_sound h
  have hresolved := resolve_resolved h
  have htype : ∀ pointer ∈ pointers, registry.typeName? pointer = some (name pointer) :=
    fun pointer hmem => (hresolved.typeName_iff pointer _).2 ⟨hmem, hname pointer hmem⟩
  have htypes : ∀ pointer ∈ pointers, registry.used.get? (name pointer) = some pointer :=
    fun pointer hmem => hsound.type_owned pointer _ (htype pointer hmem)
  have hvalidators : ∀ pointer ∈ pointers,
      registry.used.get? (Name.validator (name pointer)) = some pointer := by
    intro pointer hmem
    refine hsound.validator_owned pointer _ ?_
    rw [hresolved.validatorName_eq, htype pointer hmem]
    rfl
  have hparsers : ∀ pointer ∈ pointers.filter fun pointer => (targets.map (·.path)).contains pointer,
      registry.used.get? (Name.parser (name pointer)) = some pointer := by
    intro pointer hmem
    obtain ⟨hmem, htarget⟩ := List.mem_filter.1 hmem
    exact hresolved.parser_owned pointer _ (htype pointer hmem)
      ((hresolved.isExported_iff pointer).2 (List.contains_iff_mem.1 htarget))
  refine ⟨fun pointer hmem => nameFor_eq_ok_iff.1 (hname pointer hmem), fun pointer hmem => ?_, ?_⟩
  · have hused := Table.has_iff.2 ⟨pointer, htypes pointer hmem⟩
    exact ⟨hsound.not_reserved _ hused, hresolved.visible _ hused⟩
  · rw [claimedNames, List.nodup_append', List.nodup_append', List.disjoint_append_left]
    refine ⟨⟨nodup_of_owned hdistinct htypes, nodup_of_owned hdistinct hvalidators,
      disjoint_of_owned htypes hvalidators fun pointer => (Name.validator_ne _).symm⟩,
      nodup_of_owned (hdistinct.filter _) hparsers,
      disjoint_of_owned htypes hparsers fun pointer => (Name.parser_ne _).symm,
      disjoint_of_owned hvalidators hparsers fun pointer =>
        (Name.parser_ne_validator _ _).symm⟩

/-- The names that are given to pointers, as a function. -/
theorem exists_names (h : ∀ pointer ∈ pointers, ∃ name, nameFor targets schemaPath pointer = .ok name) :
    ∃ name : String → String, ∀ pointer ∈ pointers,
      nameFor targets schemaPath pointer = .ok (name pointer) := by
  refine ⟨fun pointer => (nameFor targets schemaPath pointer).toOption.getD "", ?_⟩
  intro pointer hmem
  obtain ⟨name, hname⟩ := h pointer hmem
  simp [hname, Except.toOption]

/-- A registry that was made for different pointers is known in full. -/
theorem resolve_eq_named (hdistinct : pointers.Nodup)
    (h : resolve pointers targets schemaPath = .ok registry) :
    ∃ name, Unclashing targets schemaPath pointers name ∧
      registry = named name (exportedBy targets) pointers pointers := by
  have hnames : ∀ pointer ∈ pointers, ∃ name, nameFor targets schemaPath pointer = .ok name := by
    intro pointer hmem
    obtain ⟨type, htype, -⟩ := names_of_resolve h hmem
    exact ⟨type, (((resolve_resolved h).typeName_iff pointer type).1 htype).2⟩
  obtain ⟨name, hname⟩ := exists_names hnames
  have hunclashing := unclashing_of_resolve hdistinct hname h
  rw [resolve_of_unclashing hdistinct hunclashing] at h
  exact ⟨name, hunclashing, (Except.ok.inj h).symm⟩

/-! ## What the registry holds -/

/-- A registry that names exactly some pointers. -/
structure Assigns (registry : Registry) (targets : List Target) (schemaPath : String)
    (pointers : List String) : Prop where
  types : ∀ pointer type, registry.types.get? pointer = some type ↔
    pointer ∈ pointers ∧ NameOf targets schemaPath pointer type
  names : ∀ type pointer, registry.names.get? type = some pointer ↔
    registry.types.get? pointer = some type
  validators : ∀ pointer, registry.validators.get? pointer =
    (registry.types.get? pointer).map Name.validator
  exported : ∀ pointer, pointer ∈ registry.exported ↔ ∃ target ∈ targets, target.path = pointer
  used : ∀ text pointer, registry.used.get? text = some pointer ↔
    ∃ type, registry.types.get? pointer = some type ∧ (text = type ∨ text = Name.validator type ∨
      text = Name.parser type ∧ ∃ target ∈ targets, target.path = pointer)
  keys : registry.types.keys.Nodup ∧ registry.names.keys.Nodup ∧ registry.validators.keys.Nodup ∧
    registry.used.keys.Nodup

/-- Two registries hold the same, but for the order of their entries. -/
structure Rearranges (registry other : Registry) : Prop where
  types : registry.types.Perm other.types
  names : registry.names.Perm other.names
  validators : registry.validators.Perm other.validators
  used : registry.used.Perm other.used
  exported : registry.exported = other.exported

theorem mem_functionNames {exported : List String} {text owner : String} :
    (text, owner) ∈ functionNames name exported pointer ↔ owner = pointer ∧
      (text = Name.validator (name pointer) ∨
        text = Name.parser (name pointer) ∧ pointer ∈ exported) := by
  unfold functionNames
  by_cases hexported : exported.contains pointer = true
  · rw [if_pos hexported]
    have hmem := List.contains_iff_mem.1 hexported
    simp only [List.mem_cons, Prod.mk.injEq, List.not_mem_nil, or_false, hmem, and_true]
    constructor
    · rintro (⟨htext, howner⟩ | ⟨htext, howner⟩)
      · exact ⟨howner, .inl htext⟩
      · exact ⟨howner, .inr htext⟩
    · rintro ⟨howner, htext | htext⟩
      · exact .inl ⟨htext, howner⟩
      · exact .inr ⟨htext, howner⟩
  · rw [if_neg hexported]
    have hnone : pointer ∉ exported := fun hmem => hexported (List.contains_iff_mem.2 hmem)
    simp only [List.mem_singleton, Prod.mk.injEq, hnone, and_false, or_false]
    exact and_comm

/-- Without clashes the keys of all tables differ. -/
theorem keys_named (hdistinct : pointers.Nodup)
    (h : Unclashing targets schemaPath pointers name) :
    let registry := named name (exportedBy targets) pointers pointers
    registry.types.keys.Nodup ∧ registry.names.keys.Nodup ∧ registry.validators.keys.Nodup ∧
      registry.used.keys.Nodup := by
  have hused := (used_named_perm pointers).nodup_iff.2 h.nodup
  refine ⟨?_, ?_, ?_, hused⟩
  · simpa [named, Table.keys, Function.comp_def] using hdistinct
  · simpa [named, Table.keys, Function.comp_def] using h.nodup_names
  · simpa [named, Table.keys, Function.comp_def] using hdistinct

theorem named_assigns (hdistinct : pointers.Nodup)
    (h : Unclashing targets schemaPath pointers name) :
    Assigns (named name (exportedBy targets) pointers pointers) targets schemaPath pointers := by
  have hkeys := keys_named hdistinct h
  have htypes : ∀ pointer type,
      (named name (exportedBy targets) pointers pointers).types.get? pointer = some type ↔
        pointer ∈ pointers ∧ name pointer = type := by
    intro pointer type
    rw [Table.get?_eq_some_iff hkeys.1]
    simp only [named, List.mem_map, Prod.mk.injEq]
    constructor
    · rintro ⟨_, hmem, rfl, htype⟩
      exact ⟨hmem, htype⟩
    · rintro ⟨hmem, htype⟩
      exact ⟨pointer, hmem, rfl, htype⟩
  have htarget : ∀ pointer, pointer ∈ exportedBy targets ↔
      ∃ target ∈ targets, target.path = pointer := by
    intro pointer
    rw [exportedBy, List.mem_eraseDups, List.mem_map]
  refine ⟨fun pointer type => ?_, fun type pointer => ?_, fun pointer => ?_, htarget,
    fun text pointer => ?_, hkeys⟩
  · rw [htypes]
    refine and_congr_right fun hmem => ⟨?_, fun hname => ?_⟩
    · rintro rfl
      exact h.nameOf pointer hmem
    · have hsame := nameFor_eq_ok_iff.2 (h.nameOf pointer hmem)
      rw [nameFor_eq_ok_iff.2 hname] at hsame
      exact (Except.ok.inj hsame).symm
  · rw [htypes, Table.get?_eq_some_iff hkeys.2.1]
    simp only [named, List.mem_map, Prod.mk.injEq]
    constructor
    · rintro ⟨_, hmem, htype, rfl⟩
      exact ⟨hmem, htype⟩
    · rintro ⟨hmem, htype⟩
      exact ⟨pointer, hmem, htype, rfl⟩
  · refine Option.ext fun validator => ?_
    rw [Table.get?_eq_some_iff hkeys.2.2.1, Option.map_eq_some_iff]
    simp only [htypes]
    simp only [named, List.mem_map, Prod.mk.injEq]
    constructor
    · rintro ⟨_, hmem, rfl, hvalidator⟩
      exact ⟨_, ⟨hmem, rfl⟩, hvalidator⟩
    · rintro ⟨_, ⟨hmem, rfl⟩, hvalidator⟩
      exact ⟨pointer, hmem, rfl, hvalidator⟩
  · rw [Table.get?_eq_some_iff hkeys.2.2.2]
    simp only [htypes, ← htarget]
    simp only [named, List.mem_append, List.mem_map, List.mem_flatMap, Prod.mk.injEq,
      mem_functionNames]
    constructor
    · rintro (⟨owner, hmem, htext, rfl⟩ | ⟨owner, hmem, rfl, htext⟩)
      · exact ⟨_, ⟨hmem, rfl⟩, .inl htext.symm⟩
      · exact ⟨_, ⟨hmem, rfl⟩, .inr htext⟩
    · rintro ⟨type, ⟨hmem, rfl⟩, htext | htext⟩
      · exact .inl ⟨pointer, hmem, htext.symm, rfl⟩
      · exact .inr ⟨pointer, hmem, rfl, htext⟩

/-- The registry does not depend on the order of the pointers. -/
theorem named_rearranges {exported : List String} (h : others.Perm pointers) :
    Rearranges (named name exported others others) (named name exported pointers pointers) where
  types := h.map _
  names := h.map _
  validators := h.map _
  used := (h.map _).append (h.flatMap_right _)
  exported := rfl

theorem claimedNames_perm (h : others.Perm pointers) :
    (claimedNames targets name others).Perm (claimedNames targets name pointers) :=
  ((h.map _).append (h.map _)).append ((h.filter _).map _)

theorem Unclashing.perm (h : Unclashing targets schemaPath pointers name)
    (hperm : others.Perm pointers) : Unclashing targets schemaPath others name :=
  ⟨fun pointer hmem => h.nameOf pointer (hperm.mem_iff.1 hmem),
    fun pointer hmem => h.free pointer (hperm.mem_iff.1 hmem),
    (claimedNames_perm hperm).nodup_iff.2 h.nodup⟩

end Run

/-! ## Failing -/

variable {error : Error}

theorem addType_eq_error (hname : ∃ name, nameFor targets schemaPath pointer = .ok name)
    (h : addType targets schemaPath registry pointer = .error error) :
    ∃ clash, error = .name clash := by
  obtain ⟨name, hname⟩ := hname
  rw [addType, hname] at h
  dsimp only at h
  split at h
  · cases h
    exact ⟨_, rfl⟩
  · split at h
    · cases h
      exact ⟨_, rfl⟩
    · cases h

theorem addFunctions_eq_error {entry : String × String}
    (h : addFunctions registry entry = .error error) : ∃ clash, error = .name clash := by
  unfold addFunctions at h
  dsimp only at h
  split at h
  · cases h
    exact ⟨_, rfl⟩
  · split at h
    · split at h
      · cases h
        exact ⟨_, rfl⟩
      · cases h
    · cases h

/-- If each pointer has a type name, naming fails by a clash only. -/
theorem resolve_eq_error
    (hname : ∀ pointer ∈ pointers, ∃ name, nameFor targets schemaPath pointer = .ok name)
    (h : resolve pointers targets schemaPath = .error error) : ∃ clash, error = .name clash := by
  rcases bind_eq_error.1 h with htypes | ⟨typed, -, hfunctions⟩
  · obtain ⟨pointer, hmem, registry, hstep⟩ := foldlM_eq_error htypes
    exact addType_eq_error (hname pointer hmem) hstep
  · obtain ⟨entry, -, registry, hstep⟩ := foldlM_eq_error hfunctions
    exact addFunctions_eq_error hstep

/-- Naming different pointers succeeds exactly if nothing clashes. -/
theorem exists_resolve_iff (hdistinct : pointers.Nodup) :
    (∃ registry, resolve pointers targets schemaPath = .ok registry) ↔
      ∃ name, Unclashing targets schemaPath pointers name := by
  constructor
  · rintro ⟨registry, hregistry⟩
    obtain ⟨name, hname, -⟩ := resolve_eq_named hdistinct hregistry
    exact ⟨name, hname⟩
  · rintro ⟨name, hname⟩
    exact ⟨_, resolve_of_unclashing hdistinct hname⟩

/-- **Naming succeeds exactly when nothing clashes**: each pointer has a type name, none of these is
reserved or hidden, and the names of all types, validators and parse functions differ. If each
pointer has a type name, failing is a clash. The registry holds exactly the names that were claimed,
whatever the order of the pointers is. -/
theorem resolve_exact (targets : List Target) (schemaPath : String) {pointers : List String}
    (hdistinct : pointers.Nodup) :
    ((∃ registry, resolve pointers targets schemaPath = .ok registry) ↔
      ∃ name, Unclashing targets schemaPath pointers name) ∧
    ((∀ pointer ∈ pointers, ∃ name, NameOf targets schemaPath pointer name) →
      ∀ error, resolve pointers targets schemaPath = .error error →
        ∃ clash, error = .name clash) ∧
    (∀ registry, resolve pointers targets schemaPath = .ok registry →
      Assigns registry targets schemaPath pointers) ∧
    ∀ others : List String, others.Perm pointers →
      ((∃ registry, resolve others targets schemaPath = .ok registry) ↔
        ∃ registry, resolve pointers targets schemaPath = .ok registry) ∧
      ∀ registry other, resolve pointers targets schemaPath = .ok registry →
        resolve others targets schemaPath = .ok other → Rearranges other registry := by
  refine ⟨exists_resolve_iff hdistinct, fun hname error herror => ?_, fun registry h => ?_,
    fun others hperm => ?_⟩
  · refine resolve_eq_error (fun pointer hmem => ?_) herror
    obtain ⟨name, hname⟩ := hname pointer hmem
    exact ⟨name, nameFor_eq_ok_iff.2 hname⟩
  · obtain ⟨name, hname, rfl⟩ := resolve_eq_named hdistinct h
    exact named_assigns hdistinct hname
  · have hothers := hperm.nodup_iff.2 hdistinct
    refine ⟨?_, fun registry other hregistry hother => ?_⟩
    · rw [exists_resolve_iff hothers, exists_resolve_iff hdistinct]
      exact exists_congr fun name => ⟨fun h => h.perm hperm.symm, fun h => h.perm hperm⟩
    · obtain ⟨name, hname, rfl⟩ := resolve_eq_named hdistinct hregistry
      rw [resolve_of_unclashing hothers (hname.perm hperm)] at hother
      rw [← Except.ok.inj hother]
      exact named_rearranges hperm

/-- Two pointers are named in either order; under names that differ in the case of the first letter
only, their validators clash. -/
theorem resolve_exact_user :
    ["#/a", "#/b"].Nodup ∧
    (∃ registry other, resolve ["#/a", "#/b"] [⟨"#/b", some "User"⟩] "s.json" = .ok registry ∧
      resolve ["#/b", "#/a"] [⟨"#/b", some "User"⟩] "s.json" = .ok other ∧
      Assigns registry [⟨"#/b", some "User"⟩] "s.json" ["#/a", "#/b"] ∧
      Rearranges other registry) ∧
    ∃ clash, resolve ["#/a", "#/b"] [⟨"#/a", some "user"⟩, ⟨"#/b", some "User"⟩] "s.json" =
      .error (.name clash) := by
  have hdistinct : ["#/a", "#/b"].Nodup := by decide
  refine ⟨hdistinct, ?_, ?_⟩
  · obtain ⟨-, -, hassigns, horder⟩ :=
      resolve_exact [⟨"#/b", some "User"⟩] "s.json" hdistinct
    obtain ⟨hreturns, hsame⟩ := horder ["#/b", "#/a"] (List.Perm.swap _ _ _)
    have hok : (resolve ["#/a", "#/b"] [⟨"#/b", some "User"⟩] "s.json").isOk = true := by
      decide +kernel
    cases hregistry : resolve ["#/a", "#/b"] [⟨"#/b", some "User"⟩] "s.json" with
    | error error =>
      rw [hregistry] at hok
      cases hok
    | ok registry =>
      obtain ⟨other, hother⟩ := hreturns.2 ⟨registry, hregistry⟩
      exact ⟨registry, other, rfl, hother, hassigns registry hregistry,
        hsame registry other hregistry hother⟩
  · obtain ⟨hiff, hfails, -⟩ :=
      resolve_exact [⟨"#/a", some "user"⟩, ⟨"#/b", some "User"⟩] "s.json" hdistinct
    have huser : NameOf [⟨"#/a", some "user"⟩, ⟨"#/b", some "User"⟩] "s.json" "#/a" "user" :=
      nameFor_eq_ok_iff.1 (by decide +kernel)
    have hUser : NameOf [⟨"#/a", some "user"⟩, ⟨"#/b", some "User"⟩] "s.json" "#/b" "User" :=
      nameFor_eq_ok_iff.1 (by decide +kernel)
    cases hresult : resolve ["#/a", "#/b"] [⟨"#/a", some "user"⟩, ⟨"#/b", some "User"⟩] "s.json" with
    | error error =>
      refine (hfails (fun pointer hmem => ?_) error hresult).imp fun clash hclash => ?_
      · simp only [List.mem_cons, List.not_mem_nil, or_false] at hmem
        rcases hmem with rfl | rfl
        · exact ⟨_, huser⟩
        · exact ⟨_, hUser⟩
      · rw [hclash]
    | ok registry =>
      -- both validators would be called `validateUser`
      obtain ⟨name, hname⟩ := hiff.1 ⟨registry, hresult⟩
      have ha := nameFor_eq_ok_iff.2 (hname.nameOf "#/a" (by simp))
      have hb := nameFor_eq_ok_iff.2 (hname.nameOf "#/b" (by simp))
      rw [nameFor_eq_ok_iff.2 huser] at ha
      rw [nameFor_eq_ok_iff.2 hUser] at hb
      have hnodup := hname.nodup
      simp only [claimedNames, List.map_cons, List.map_nil, ← Except.ok.inj ha,
        ← Except.ok.inj hb] at hnodup
      exact absurd (List.nodup_append.1 hnodup).1 (by decide +kernel)

end Registry

end SchemaGuard
