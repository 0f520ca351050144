import SchemaGuard.Module.Printer
import SchemaGuard.Proofs.Acceptance
import SchemaGuard.Proofs.NamesGiven
import SchemaGuard.Proofs.Uses

/-!
# The names that a module binds

A module binds the types that it declares and the functions that it defines. **Theorem
(`names_bound_once`).** No two of these names are the same, none is imported, local to a function or
hidden, and every type that is mentioned and every function that is called is among them. What is
exported are the names of the pointers that were asked for, in the order in which they were
collected, and patterns are imported if and only if some check matches one.

Names come into use at three times: those of types first, then those of functions, then those of
declarations that are hoisted while the entries are compiled. A name of one time differs from those
of an earlier one because it was not in use; of the names that are given to a pointer together, the
three differ by how they are made.
-/

namespace SchemaGuard

/-! ## Names of entries -/

namespace Entry

/-- The functions that are defined for an entry. -/
def functionNames (entry : Entry) : List String :=
  entry.validator.name ::
    if entry.isExported then [Name.parser entry.validator.typeName] else []

/-- The types that an entry mentions: in its declarations, and as what its functions return. -/
def mentionedTypes (entry : Entry) : List String :=
  entry.declarations.flatMap TypeDecl.mentioned ++ [entry.validator.typeName]

/-- The functions of an entry call a validator: in a check, or to parse. -/
def Calls (entry : Entry) (validator : String) : Prop :=
  .call validator ∈ Check.usesAll entry.validator.body ∨
    entry.isExported = true ∧ validator = entry.validator.name

namespace MadeBy

variable {document : Json} {registry : Registry} {entry : Entry} {node : Node}
  (h : entry.MadeBy document registry node)

include h

theorem validator_typeName : entry.validator.typeName = entry.typeName := by
  obtain ⟨s, s', hgives⟩ := h.validator_gives
  exact Check.validatorOf_typeName hgives

/-- What an entry declares has names that start with that of its type, which is declared last. -/
theorem declared_continues :
    (∀ declaration ∈ entry.declarations, Name.Continues declaration.name entry.typeName) ∧
      entry.typeName ∈ entry.declarations.map (·.name) := by
  obtain ⟨s, declaration, s', hstart, -, hgives, hdeclarations⟩ := h.declarations_give
  have hname := TypeDecl.declare_name hgives
  obtain ⟨added, hadded, hclosed⟩ := (TypeDecl.declare_closes hgives).1.added
  rw [hstart, List.nil_append] at hadded
  rw [hdeclarations, hadded]
  refine ⟨fun other hmem => ?_, by simp [hname]⟩
  rcases List.mem_append.1 hmem with hmem | hmem
  · exact (hclosed other hmem).1
  · rw [List.mem_singleton.1 hmem, hname]
    exact .refl _

/-- What an entry mentions is basic, the type of a pointer, or declared by the entry itself. -/
theorem mentioned_known {type : String} (hmem : type ∈ entry.mentionedTypes) :
    type ∈ TypeDecl.basicNames ∨ (∃ pointer, registry.typeName? pointer = some type) ∨
      type ∈ entry.declarations.map (·.name) := by
  obtain ⟨s, declaration, s', hstart, hgrown, hgives, hdeclarations⟩ := h.declarations_give
  obtain ⟨hcloses, hknown⟩ := TypeDecl.declare_closes hgives
  obtain ⟨added, hadded, hclosed⟩ := hcloses.added
  rw [hstart, List.nil_append] at hadded
  have hall : ∀ type, s'.Knows type → type ∈ TypeDecl.basicNames ∨
      (∃ pointer, registry.typeName? pointer = some type) ∨
      type ∈ entry.declarations.map (·.name) := by
    rintro type (hbasic | ⟨pointer, hpointer⟩ | hhoisted)
    · exact .inl hbasic
    · refine .inr (.inl ⟨pointer, ?_⟩)
      rw [Registry.typeName?, hgrown.types_eq]
      exact hpointer
    · refine .inr (.inr ?_)
      rw [hdeclarations, List.map_append]
      exact List.mem_append_left _ hhoisted
  rcases List.mem_append.1 hmem with hmem | hmem
  · obtain ⟨other, hother, htype⟩ := List.mem_flatMap.1 hmem
    rw [hdeclarations, hadded] at hother
    rcases List.mem_append.1 hother with hother | hother
    · exact hall type ((hclosed other hother).2 type htype)
    · rw [List.mem_singleton.1 hother] at htype
      exact hall type (hknown type htype)
  · refine .inr (.inl ⟨entry.pointer, ?_⟩)
    rw [h.typeName_eq, List.mem_singleton.1 hmem, h.validator_typeName]

theorem called_registered {validator : String} (hcalls : entry.Calls validator) :
    ∃ pointer, registry.validatorName? pointer = some validator := by
  rcases hcalls with hcheck | ⟨-, rfl⟩
  · obtain ⟨s, s', hgives⟩ := h.validator_gives
    exact (Check.validatorOf_emitted hgives).called hcheck
  · exact ⟨entry.pointer, h.validatorName_eq⟩

end MadeBy

end Entry

namespace Module

/-! ## Patterns -/

theorem entry_patterns {document : Json} {pointer : String} {s s' : Run} {entry : Entry}
    (h : Gives (Module.entry document pointer) s entry s') :
    s'.needsPatterns = true ↔
      s.needsPatterns = true ∨ .pattern ∈ Check.usesAll entry.validator.body := by
  simp only [Module.entry, Gives.bind_iff, Gives.get_iff] at h
  obtain ⟨run, _, ⟨rfl, rfl⟩, h⟩ := h
  split at h
  · simp only [Gives.bind_iff, Gives.pure_iff, Gives.lift_iff, note, Gives.modify_iff] at h
    obtain ⟨node, run, ⟨-, rfl⟩, _, _, rfl, declarations, _, htypes, validator, _, hcompiled, rfl,
      rfl⟩ := h
    obtain ⟨t, -, rfl⟩ := compileTypes_gives htypes
    obtain ⟨u, u', hvalidator, hstart, rfl⟩ := compileValidator_gives hcompiled
    rw [(Check.validatorOf_emitted hvalidator).patterns, hstart]
  · exact (Gives.throw_iff.1 h).elim

theorem entries_patterns {document : Json} {pointers : List String} {s s' : Run}
    {entries : List Entry} (h : Gives (pointers.mapM (Module.entry document)) s entries s') :
    s'.needsPatterns = true ↔ s.needsPatterns = true ∨
      ∃ entry ∈ entries, .pattern ∈ Check.usesAll entry.validator.body := by
  induction pointers generalizing s entries with
  | nil =>
    obtain ⟨rfl, rfl⟩ := Gives.mapM_nil_iff.1 h
    simp
  | cons pointer pointers ih =>
    obtain ⟨entry, t, others, hentry, hothers, rfl⟩ := Gives.mapM_cons_iff.1 h
    rw [ih hothers, entry_patterns hentry]
    simp [or_assoc]

/-! ## Names of modules -/

/-- The names that a module binds: its types, then its functions. -/
def boundNames (module : Module) : List String :=
  declaredNames module.entries ++ module.entries.flatMap Entry.functionNames

/-- The names that a module imports. -/
def importedNames (module : Module) : List String :=
  "annotations" :: (if module.needsPatterns then ["re"] else []) ++ typingImports ++ runtimeImports

/-- The names that are exported for a pointer. -/
def exportsOf (registry : Registry) (pointer : String) : List String :=
  (registry.typeName? pointer).toList.flatMap
    fun type => [type, Name.validator type, Name.parser type]

variable {document : Json} {schemaPath : String} {targets : List Target}
  {module : Module} {run : Run}

/-- How the entries of a module were named and compiled: by the names of a registry, to which
compiling only added. -/
structure Registered (document : Json) (schemaPath : String) (targets : List Target)
    (module : Module) (run : Run) (registry : Registry) : Prop where
  resolved : Registry.Resolved (module.entries.map (·.pointer)) (requested targets) schemaPath
    registry
  sound : registry.Sound
  grown : registry.Grown run.registry
  sound_run : run.registry.Sound
  pointers_nodup : (module.entries.map (·.pointer)).Nodup
  madeBy : ∀ entry ∈ module.entries, ∃ node, entry.MadeBy document run.registry node
  declared_nodup : (declaredNames module.entries).Nodup
  declared_used : ∀ name ∈ declaredNames module.entries, run.registry.used.has name = true
  declared_new : ∀ name ∈ declaredNames module.entries,
    (∃ pointer, registry.typeName? pointer = some name) ∨ registry.used.get? name = none

/-- A generated module is registered, and its entries are those of the pointers collected. -/
theorem exists_registered (h : ofDocument document schemaPath targets = (.ok module, run)) :
    ∃ registry notices, Registered document schemaPath targets module run registry ∧
      Gives (Dependencies.collect document ((requested targets).map (·.path))) []
        (module.entries.map (·.pointer)) notices := by
  obtain ⟨pointers, notices, registry, hcollect, hregistry, hentries, -⟩ := ofDocument_parts h
  have hnodup := (Dependencies.walk_of_collect hcollect).nodup.1
  have hsound := Registry.resolve_sound hregistry
  obtain ⟨hgrown, hsound', rfl, hmade, hdistinct, hnames⟩ := entries_give hsound hnodup hentries
  refine ⟨registry, notices, ⟨Registry.resolve_resolved hregistry, hsound, hgrown, hsound', hnodup,
    hmade, hdistinct, fun name hname => (hnames name hname).1, fun name hname => ?_⟩, hcollect⟩
  rcases (hnames name hname).2 with ⟨pointer, -, htype⟩ | hnone
  · exact .inl ⟨pointer, htype⟩
  · exact .inr hnone

namespace Registered

variable {registry : Registry} {entry : Entry}

theorem mem_declaredNames {declaration : TypeDecl} (hentry : entry ∈ module.entries)
    (hmem : declaration ∈ entry.declarations) : declaration.name ∈ declaredNames module.entries :=
  List.mem_map_of_mem (List.mem_flatMap.2 ⟨entry, hentry, hmem⟩)

variable (h : Registered document schemaPath targets module run registry)
include h

variable {name pointer type : String}

theorem typeName?_eq
    (pointer : String) : run.registry.typeName? pointer = registry.typeName? pointer := by
  rw [Registry.typeName?, Registry.typeName?, h.grown.types_eq]

theorem entry_typeName (hentry : entry ∈ module.entries) :
    registry.typeName? entry.pointer = some entry.typeName := by
  obtain ⟨node, hmade⟩ := h.madeBy entry hentry
  rw [← h.typeName?_eq]
  exact hmade.typeName_eq

theorem validator_name
    (hentry : entry ∈ module.entries) : entry.validator.name = Name.validator entry.typeName := by
  obtain ⟨node, hmade⟩ := h.madeBy entry hentry
  have hname := hmade.validatorName_eq
  rw [Registry.validatorName?, h.grown.validators_eq, ← Registry.validatorName?,
    h.resolved.validatorName_eq, h.entry_typeName hentry] at hname
  exact (Option.some.inj hname).symm

theorem isExported_eq
    (hentry : entry ∈ module.entries) : entry.isExported = registry.isExported entry.pointer := by
  obtain ⟨node, hmade⟩ := h.madeBy entry hentry
  rw [hmade.isExported_eq, Registry.isExported, Registry.isExported, h.grown.exported_eq]

theorem functionNames_eq (hentry : entry ∈ module.entries) :
    entry.functionNames = Name.validator entry.typeName ::
      if registry.isExported entry.pointer then [Name.parser entry.typeName] else [] := by
  obtain ⟨node, hmade⟩ := h.madeBy entry hentry
  rw [Entry.functionNames, h.validator_name hentry, h.isExported_eq hentry,
    hmade.validator_typeName]

/-- The functions of an entry have names that belong to its pointer, and not to its type. -/
theorem function_owned (hentry : entry ∈ module.entries) (hname : name ∈ entry.functionNames) :
    registry.used.get? name = some entry.pointer ∧ name ≠ entry.typeName := by
  have htype := h.entry_typeName hentry
  rw [h.functionNames_eq hentry] at hname
  rcases List.mem_cons.1 hname with rfl | hparser
  · refine ⟨h.sound.validator_owned _ _ ?_, Name.validator_ne _⟩
    rw [h.resolved.validatorName_eq, htype]
    rfl
  · split at hparser
    · rename_i hexported
      rw [List.mem_singleton.1 hparser]
      exact ⟨h.resolved.parser_owned _ _ htype hexported, Name.parser_ne _⟩
    · cases hparser

theorem functions_nodup : (module.entries.flatMap Entry.functionNames).Nodup := by
  rw [List.nodup_flatMap]
  constructor
  · intro entry hentry
    rw [h.functionNames_eq hentry]
    split
    · simpa using (Name.parser_ne_validator entry.typeName entry.typeName).symm
    · exact List.nodup_singleton _
  · -- Functions of different pointers have different owners.
    refine (List.pairwise_map.1 h.pointers_nodup).imp_of_mem fun hfirst hsecond hne => ?_
    intro name hname hname'
    have howner := (h.function_owned hfirst hname).1
    rw [(h.function_owned hsecond hname').1] at howner
    exact hne (Option.some.inj howner).symm

/-- **No two names that a module binds are the same.** -/
theorem bound_nodup : module.boundNames.Nodup := by
  refine h.declared_nodup.append h.functions_nodup ?_
  intro name hdeclared hfunction
  obtain ⟨entry, hentry, hname⟩ := List.mem_flatMap.1 hfunction
  obtain ⟨howned, hne⟩ := h.function_owned hentry hname
  rcases h.declared_new name hdeclared with ⟨pointer, htype⟩ | hnone
  · -- The type and the function have one owner, whose three names differ.
    have howner := h.sound.type_owned pointer name htype
    rw [howned] at howner
    rw [← Option.some.inj howner, h.entry_typeName hentry] at htype
    exact hne (Option.some.inj htype).symm
  · rw [hnone] at howned
    cases howned

theorem bound_not_reserved (hname : name ∈ module.boundNames) :
    Registry.isReserved name = false := by
  rcases List.mem_append.1 hname with hdeclared | hfunction
  · exact h.sound_run.not_reserved name (h.declared_used name hdeclared)
  · obtain ⟨entry, hentry, hname⟩ := List.mem_flatMap.1 hfunction
    exact h.sound.not_reserved name
      (Table.has_iff.2 ⟨entry.pointer, (h.function_owned hentry hname).1⟩)

/-- The name of a pointer's type is visible, and so is every name that starts with it. -/
theorem type_visible (htype : registry.typeName? pointer = some type)
    (hextends : Name.Extends name type) : name.toList.head? ≠ some '_' := by
  have hnonempty := Registry.nameFor_ne_empty ((h.resolved.typeName_iff pointer type).1 htype).2
  rw [hextends.head_eq hnonempty]
  exact h.resolved.visible type
    (Table.has_iff.2 ⟨pointer, h.sound.type_owned pointer type htype⟩)

/-- A name that is bound continues that of a type, or is that of one of its functions. -/
theorem bound_cases (hname : name ∈ module.boundNames) :
    ∃ entry ∈ module.entries, Name.Continues name entry.typeName ∨
      name = Name.validator entry.typeName ∨ name = Name.parser entry.typeName := by
  rcases List.mem_append.1 hname with hdeclared | hfunction
  · obtain ⟨declaration, hmem, rfl⟩ := List.mem_map.1 hdeclared
    obtain ⟨entry, hentry, hdeclaration⟩ := List.mem_flatMap.1 hmem
    obtain ⟨node, hmade⟩ := h.madeBy entry hentry
    exact ⟨entry, hentry, .inl (hmade.declared_continues.1 _ hdeclaration)⟩
  · obtain ⟨entry, hentry, hname⟩ := List.mem_flatMap.1 hfunction
    rw [h.functionNames_eq hentry] at hname
    refine ⟨entry, hentry, .inr ((List.mem_cons.1 hname).imp_right fun hparser => ?_)⟩
    split at hparser
    · exact List.mem_singleton.1 hparser
    · cases hparser

theorem bound_visible (hname : name ∈ module.boundNames) :
    name.toList.head? ≠ some '_' := by
  obtain ⟨entry, hentry, hcontinues | rfl | rfl⟩ := h.bound_cases hname
  · exact h.type_visible (h.entry_typeName hentry) hcontinues.extends_base
  · rw [Name.validator_head]
    decide
  · rw [Name.parser_head]
    decide

/-! ## What is used is bound -/

theorem entry_of_pointer (htype : registry.typeName? pointer = some type) :
    ∃ entry ∈ module.entries, entry.pointer = pointer ∧ entry.typeName = type := by
  obtain ⟨entry, hentry, rfl⟩ := List.mem_map.1 ((h.resolved.typeName_iff pointer type).1 htype).1
  rw [h.entry_typeName hentry] at htype
  exact ⟨entry, hentry, rfl, Option.some.inj htype⟩

/-- The type of a pointer is declared, and its validator is defined. -/
theorem bound_of_type (htype : registry.typeName? pointer = some type) :
    type ∈ module.boundNames ∧ Name.validator type ∈ module.boundNames := by
  obtain ⟨entry, hentry, rfl, rfl⟩ := h.entry_of_pointer htype
  obtain ⟨node, hmade⟩ := h.madeBy entry hentry
  constructor
  · obtain ⟨declaration, hmem, hname⟩ := List.mem_map.1 hmade.declared_continues.2
    rw [← hname]
    exact List.mem_append_left _ (mem_declaredNames hentry hmem)
  · refine List.mem_append_right _ (List.mem_flatMap.2 ⟨entry, hentry, ?_⟩)
    rw [h.functionNames_eq hentry]
    exact List.mem_cons_self

theorem bound_of_mentioned (hentry : entry ∈ module.entries) (hmem : type ∈ entry.mentionedTypes) :
    type ∈ TypeDecl.basicNames ∨ type ∈ module.boundNames := by
  obtain ⟨node, hmade⟩ := h.madeBy entry hentry
  rcases hmade.mentioned_known hmem with hbasic | ⟨pointer, htype⟩ | hdeclared
  · exact .inl hbasic
  · rw [h.typeName?_eq] at htype
    exact .inr (h.bound_of_type htype).1
  · obtain ⟨declaration, hdeclaration, rfl⟩ := List.mem_map.1 hdeclared
    exact .inr (List.mem_append_left _ (mem_declaredNames hentry hdeclaration))

theorem bound_of_called
    (hentry : entry ∈ module.entries) {validator : String} (hcalls : entry.Calls validator) :
    validator ∈ module.boundNames := by
  obtain ⟨node, hmade⟩ := h.madeBy entry hentry
  obtain ⟨pointer, hname⟩ := hmade.called_registered hcalls
  rw [Registry.validatorName?, h.grown.validators_eq, ← Registry.validatorName?,
    h.resolved.validatorName_eq] at hname
  obtain ⟨type, htype, rfl⟩ := Option.map_eq_some_iff.1 hname
  exact (h.bound_of_type htype).2

/-! ## What is exported -/

theorem exportedNames_eq (hentry : entry ∈ module.entries) :
    entry.exportedNames = if (requested targets).any (·.path == entry.pointer) then
      exportsOf run.registry entry.pointer else [] := by
  have hexported : entry.isExported = (requested targets).any (·.path == entry.pointer) := by
    rw [h.isExported_eq hentry, Bool.eq_iff_iff, h.resolved.isExported_iff]
    simp
  rw [Entry.exportedNames, hexported, h.validator_name hentry, exportsOf, h.typeName?_eq,
    h.entry_typeName hentry]
  simp

/-- **The exported names are those of the pointers asked for**, in the order of the entries. -/
theorem exports : module.exportedNames =
      ((module.entries.map (·.pointer)).filter
        fun pointer => (requested targets).any (·.path == pointer)).flatMap
          (exportsOf run.registry) := by
  have hentries : ∀ entries : List Entry, entries ⊆ module.entries →
      entries.flatMap Entry.exportedNames = ((entries.map (·.pointer)).filter
        fun pointer => (requested targets).any (·.path == pointer)).flatMap
          (exportsOf run.registry) := by
    intro entries hsubset
    induction entries with
    | nil => rfl
    | cons entry entries ih =>
      obtain ⟨hentry, hothers⟩ := List.cons_subset.1 hsubset
      rw [List.flatMap_cons, h.exportedNames_eq hentry, ih hothers, List.map_cons, List.filter_cons]
      split
      · rw [List.flatMap_cons]
      · rfl
  exact hentries module.entries (List.Subset.refl _)

theorem bound_of_exported (hname : name ∈ module.exportedNames) : name ∈ module.boundNames := by
  obtain ⟨entry, hentry, hname⟩ := List.mem_flatMap.1 hname
  obtain ⟨htype, hvalidator⟩ := h.bound_of_type (h.entry_typeName hentry)
  rw [Entry.exportedNames] at hname
  split at hname
  · rename_i hexported
    rw [h.validator_name hentry] at hname
    simp only [List.mem_cons, List.not_mem_nil, or_false] at hname
    rcases hname with rfl | rfl | rfl
    · exact htype
    · exact hvalidator
    · refine List.mem_append_right _ (List.mem_flatMap.2 ⟨entry, hentry, ?_⟩)
      rw [h.isExported_eq hentry] at hexported
      rw [h.functionNames_eq hentry, if_pos hexported]
      simp
  · cases hname

end Registered

/-! ## What names are bound to -/

/-- The names of a module's bindings are those that it binds. -/
theorem bindings_perm (module : Module) :
    (module.bindings.map (·.1)).Perm module.boundNames := by
  have hnames : module.bindings.map (·.1) = module.entries.flatMap fun entry =>
      entry.declarations.map (·.name) ++ entry.functionNames := by
    rw [bindings, List.map_flatMap]
    congr 1
    funext entry
    rw [bindingsOf, Entry.functionNames, List.map_append, List.map_map, List.map_cons]
    cases entry.isExported <;> rfl
  rw [hnames, boundNames, declaredNames, List.map_flatMap]
  exact (List.flatMap_append_perm module.entries _ _).symm

/-- A name is bound to what it is bound to first, if names that are bound stay different. -/
theorem bound?_eq (h : ofDocument document schemaPath targets = (.ok module, run))
    (hapart : Apart module.boundNames) {binding : String × Binding}
    (hmem : binding ∈ module.bindings) : module.bound? binding.1 = some binding.2 := by
  obtain ⟨registry, -, hregistered, -⟩ := exists_registered h
  have hnames : (module.bindings.map (·.1)).Nodup :=
    (bindings_perm module).nodup_iff.2 hregistered.bound_nodup
  have hown : binding ∈ module.bindings.filter
      fun other => Text.normalForm other.1 == Text.normalForm binding.1 :=
    List.mem_filter.2 ⟨hmem, by simp⟩
  rw [bound?, List.getLast?_eq_some_getLast (List.ne_nil_of_mem hown), Option.map_some]
  -- All that has the normal form of the name has the name, and so is the binding itself.
  obtain ⟨hlast, hnormal⟩ := List.mem_filter.1 (List.getLast_mem (List.ne_nil_of_mem hown))
  have hbound : ∀ other ∈ module.bindings, other.1 ∈ module.boundNames :=
    fun other hother => (bindings_perm module).mem_iff.1 (List.mem_map_of_mem hother)
  have hsame := hapart _ (hbound _ hlast) _ (hbound _ hmem) (eq_of_beq hnormal)
  rw [List.inj_on_of_nodup_map hnames hlast hmem hsame]

theorem typeNamed?_eq (h : ofDocument document schemaPath targets = (.ok module, run))
    (hapart : Apart module.boundNames) {declaration : TypeDecl}
    (hmem : declaration ∈ module.entries.flatMap (·.declarations)) :
    module.typeNamed? declaration.name = some declaration := by
  obtain ⟨entry, hentry, hdeclaration⟩ := List.mem_flatMap.1 hmem
  have hbinding : (declaration.name, Binding.type declaration) ∈ module.bindings :=
    List.mem_flatMap.2
      ⟨entry, hentry, List.mem_append_left _ (List.mem_map.2 ⟨declaration, hdeclaration, rfl⟩)⟩
  rw [typeNamed?, bound?_eq h hapart hbinding]

/-- A type that a name stands for is declared under a name that is bound as it. -/
theorem declared_of_typeNamed? {name : String} {declaration : TypeDecl}
    (h : module.typeNamed? name = some declaration) :
    declaration ∈ module.entries.flatMap (·.declarations) ∧
      Text.normalForm declaration.name = Text.normalForm name := by
  unfold typeNamed? bound? at h
  split at h
  · rename_i found hbound
    cases h
    obtain ⟨binding, hlast, hsame⟩ := Option.map_eq_some_iff.1 hbound
    obtain ⟨hmem, hnormal⟩ := List.mem_filter.1 (List.mem_of_getLast? hlast)
    obtain ⟨entry, hentry, hmem⟩ := List.mem_flatMap.1 hmem
    obtain ⟨own, hown, rfl⟩ | hfunction := by simpa [bindingsOf] using hmem
    · cases hsame
      exact ⟨List.mem_flatMap.2 ⟨entry, hentry, hown⟩, eq_of_beq hnormal⟩
    · rcases hfunction with rfl | ⟨-, rfl⟩
      · cases hsame
      · cases hsame
  · cases h

/-- Every target is collected. -/
theorem collected_of_requested {notices : List Notice} {pointers : List String}
    (hcollect : Gives (Dependencies.collect document ((requested targets).map (·.path))) []
      pointers notices) {target : Target} (htarget : target ∈ requested targets) :
    target.path ∈ pointers := by
  have hpath : target.path ∈ (requested targets).map (·.path) := List.mem_map_of_mem htarget
  exact (Dependencies.walk_of_collect hcollect).mem_of_pending (.inl hpath) hpath
    (List.mem_append_left _ hpath)

theorem mem_reservedNames {module : Module} {name : String}
    (h : name ∈ module.importedNames ++ functionLocals) : name ∈ reservedNames := by
  simp only [importedNames, List.cons_append, List.mem_cons, List.mem_append,
    List.mem_ite_nil_right, List.not_mem_nil, or_false] at h
  simp only [reservedNames, List.mem_append, List.mem_cons, List.not_mem_nil, or_false]
  tauto

/-- **A module binds every name that it uses exactly once, and no other name of it is taken.** -/
theorem names_bound_once (h : ofDocument document schemaPath targets = (.ok module, run)) :
    module.boundNames.Nodup ∧
      (∀ name ∈ module.boundNames, name ∉ module.importedNames ++ functionLocals ∧
        name.toList.head? ≠ some '_') ∧
      (∀ entry ∈ module.entries, ∀ validator, entry.Calls validator →
        module.boundNames.count validator = 1) ∧
      (∀ entry ∈ module.entries, ∀ type ∈ entry.mentionedTypes,
        module.boundNames.count type = 1 ∨
          type ∈ TypeDecl.basicNames ∧ type ∉ module.boundNames) ∧
      (∀ pointer type, run.registry.typeName? pointer = some type →
        module.boundNames.count type = 1) ∧
      (∃ pointers notices,
        Gives (Dependencies.collect document ((requested targets).map (·.path))) [] pointers
          notices ∧
        (∀ target ∈ requested targets, target.path ∈ pointers) ∧
        (∀ pointer ∈ pointers, ∃ type, run.registry.typeName? pointer = some type) ∧
        module.exportedNames =
          (pointers.filter fun pointer => (requested targets).any (·.path == pointer)).flatMap
            (exportsOf run.registry)) ∧
      (∀ name ∈ module.exportedNames, module.boundNames.count name = 1) ∧
      (module.needsPatterns = true ↔
        ∃ entry ∈ module.entries, .pattern ∈ Check.usesAll entry.validator.body) := by
  obtain ⟨registry, notices, hregistered, hcollect⟩ := exists_registered h
  have hnodup := hregistered.bound_nodup
  have hcount : ∀ name ∈ module.boundNames, module.boundNames.count name = 1 :=
    fun name hname => List.count_eq_one_of_mem hnodup hname
  refine ⟨hnodup, fun name hname => ⟨fun hmem => ?_, hregistered.bound_visible hname⟩,
    fun entry hentry validator hcalls => hcount _ (hregistered.bound_of_called hentry hcalls),
    fun entry hentry type hmem => ?_, fun pointer type htype => ?_,
    ⟨_, notices, hcollect, fun target => collected_of_requested hcollect,
      fun pointer hpointer => ?_, hregistered.exports⟩,
    fun name hname => hcount _ (hregistered.bound_of_exported hname), ?_⟩
  · have hreserved := hregistered.bound_not_reserved hname
    rw [Registry.isReserved, List.contains_iff_mem.2 (mem_reservedNames hmem)] at hreserved
    cases hreserved
  · by_cases hbound : type ∈ module.boundNames
    · exact .inl (hcount type hbound)
    · exact .inr ⟨(hregistered.bound_of_mentioned hentry hmem).resolve_right hbound, hbound⟩
  · rw [hregistered.typeName?_eq] at htype
    exact hcount _ (hregistered.bound_of_type htype).1
  · obtain ⟨entry, hentry, rfl⟩ := List.mem_map.1 hpointer
    exact ⟨entry.typeName, (hregistered.typeName?_eq _).trans (hregistered.entry_typeName hentry)⟩
  · obtain ⟨_, _, _, -, -, hentries, hpatterns⟩ := ofDocument_parts h
    rw [hpatterns, entries_patterns hentries]
    simp

/-- Orders with lines, which refer to orders. What is hoisted from an order would have the name of
the other type. -/
def ordersSchema : Json := .object [("$defs", .object [
  ("order", .object [("type", .string "object"), ("properties", .object [
    ("line", .object [("type", .string "object"), ("properties", .object [
      ("code", .object [("type", .string "string"), ("pattern", .string "^[A-Z]")])])]),
    ("next", .object [("$ref", .string "#/$defs/orderLine")])])]),
  ("orderLine", .object [("type", .string "array"),
    ("items", .object [("$ref", .string "#/$defs/order")])])])]

/-- The theorem at orders: the hoisted type gets a name of its own, and each name is bound once. -/
theorem names_bound_once_orders :
    ∃ module run,
      ofDocument ordersSchema "orders.json" [⟨"#/$defs/order", none⟩] = (.ok module, run) ∧
      module.boundNames = ["OrderLine2", "Order", "OrderLine", "validateOrder", "parseOrder",
        "validateOrderLine"] ∧
      module.boundNames.Nodup ∧
      (∀ name ∈ module.exportedNames, module.boundNames.count name = 1) ∧
      ∃ entry ∈ module.entries, .pattern ∈ Check.usesAll entry.validator.body := by
  have hruns : generates ordersSchema "orders.json" [⟨"#/$defs/order", none⟩] (fun module _ =>
      module.needsPatterns && module.boundNames == ["OrderLine2", "Order", "OrderLine",
        "validateOrder", "parseOrder", "validateOrderLine"]) = true := by decide +kernel
  obtain ⟨module, run, hgenerated, htest⟩ := exists_of_generates hruns
  obtain ⟨hpatterns, hbound⟩ := Bool.and_eq_true_iff.1 htest
  obtain ⟨hnodup, -, -, -, -, -, hexported, hmatches⟩ := names_bound_once hgenerated
  exact ⟨module, run, hgenerated, eq_of_beq hbound, hnodup, hexported, hmatches.1 hpatterns⟩

end Module

end SchemaGuard
