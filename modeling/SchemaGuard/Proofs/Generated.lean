import SchemaGuard.Module.Run
import SchemaGuard.Proofs.Mentions

/-!
# What a generated module is made of

Every entry of a generated module was compiled from the node at its pointer, by the names of one
registry: the one that is left at the end of the run, since compiling types only adds names in use.

* `Module.madeBy` says how each entry came about (`Entry.MadeBy`);
* `Module.declared_nodup` says that no two declarations of a module have the same name.
-/

namespace SchemaGuard

/-! ## References by the validators of a registry -/

namespace Check

variable {document : Json} {registry later : Registry} {place : Place} {node : Node}
  {name typeName : String} {s s' : Progress} {validator : Validator}

/-- What becomes of a reference depends on the registry only through its validators. -/
theorem ofRef_congr (h : later.validators = registry.validators) (fuel : Nat) (opened : List String)
    :
    ofRef ⟨document, later⟩ fuel opened = ofRef ⟨document, registry⟩ fuel opened := by
  induction fuel generalizing opened with
  | zero => rfl
  | succ fuel ih =>
    funext target path scope
    simp only [ofRef, Registry.validatorName?, h, ih]

theorem validatorOf_congr (h : later.validators = registry.validators) (node : Node)
    (name typeName : String) :
    validatorOf ⟨document, later⟩ node name typeName =
      validatorOf ⟨document, registry⟩ node name typeName := by
  unfold validatorOf
  rw [ofRef_congr h]

theorem validatorOf_name (h : Gives (validatorOf place node name typeName) s validator s') :
    validator.name = name := by
  simp only [validatorOf, Gives.bind_iff, Gives.pure_iff] at h
  obtain ⟨_, _, _, _, _, _, rfl, _⟩ := h
  rfl

theorem validatorOf_typeName (h : Gives (validatorOf place node name typeName) s validator s') :
    validator.typeName = typeName := by
  simp only [validatorOf, Gives.bind_iff, Gives.pure_iff] at h
  obtain ⟨_, _, _, _, _, _, rfl, _⟩ := h
  rfl

end Check

/-! ## Declarations of a pointer -/

namespace TypeDecl

variable {place : Place} {node : Node} {name : String} {s s' : Progress}

theorem declare_name {fuel : Nat} {opened : List String} {declaration : TypeDecl}
    (h : Gives (declare place fuel opened node name) s declaration s') :
    declaration.name = name := by
  cases fuel with
  | zero => simp [declare] at h
  | succ fuel =>
    rw [declare.eq_def] at h
    dsimp only at h
    split at h
    · obtain ⟨fields, rfl⟩ := dictOf_gives h
      rfl
    · obtain ⟨merged, t, _, h⟩ := Gives.bind_iff.1 h
      split at h
      · obtain ⟨fields, rfl⟩ := dictOf_gives h
        rfl
      · simp only [Gives.bind_iff, Gives.pure_iff] at h
        obtain ⟨_, _, _, rfl, _⟩ := h
        rfl
    · simp only [Gives.bind_iff, Gives.pure_iff] at h
      obtain ⟨_, _, _, rfl, _⟩ := h
      rfl

/-- The declarations of a pointer are those hoisted from it and its own. -/
theorem ofNode_gives {declarations : List TypeDecl}
    (h : Gives (ofNode place node name) s declarations s') :
    ∃ declaration, Gives (declare place (fuelFor place.document) [] node name)
        { s with hoisted := [] } declaration s' ∧
      declarations = s'.hoisted ++ [declaration] := by
  simp only [ofNode, Gives.bind_iff, Gives.pure_iff, Gives.get_iff, Gives.modify_iff] at h
  obtain ⟨_, _, rfl, declaration, t, hdeclare, _, _, ⟨rfl, rfl⟩, rfl, rfl⟩ := h
  exact ⟨declaration, hdeclare, rfl⟩

end TypeDecl

/-! ## Entries -/

/-- How an entry was compiled, in a run that ended with the given registry. -/
structure Entry.MadeBy (document : Json) (registry : Registry) (entry : Entry) (node : Node) :
    Prop where
  node_eq : Module.nodeOf document entry.pointer = .ok node
  typeName_eq : registry.typeName? entry.pointer = some entry.typeName
  validatorName_eq : registry.validatorName? entry.pointer = some entry.validator.name
  isExported_eq : entry.isExported = registry.isExported entry.pointer
  validator_gives : ∃ s s', Gives
    (Check.validatorOf ⟨document, registry⟩ node entry.validator.name entry.typeName) s
      entry.validator s'
  declarations_give : ∃ s declaration s', s.hoisted = [] ∧ s'.registry.Grown registry ∧
    Gives (TypeDecl.declare ⟨document, entry.pointer⟩ (TypeDecl.fuelFor document) [] node
      entry.typeName) s declaration s' ∧
    entry.declarations = s'.hoisted ++ [declaration]

variable {document : Json}

theorem Entry.MadeBy.grown {registry later : Registry} {entry : Entry} {node : Node}
    (h : entry.MadeBy document registry node) (hgrown : registry.Grown later) :
    entry.MadeBy document later node where
  node_eq := h.node_eq
  typeName_eq := by
    rw [Registry.typeName?, hgrown.types_eq]
    exact h.typeName_eq
  validatorName_eq := by
    rw [Registry.validatorName?, hgrown.validators_eq]
    exact h.validatorName_eq
  isExported_eq := by
    rw [Registry.isExported, hgrown.exported_eq]
    exact h.isExported_eq
  validator_gives := by
    rw [Check.validatorOf_congr hgrown.validators_eq]
    exact h.validator_gives
  declarations_give := by
    obtain ⟨s, declaration, s', hstart, hlater, hgives, heq⟩ := h.declarations_give
    exact ⟨s, declaration, s', hstart, hlater.trans hgrown, hgives, heq⟩

namespace Module

variable {document : Json} {s s' : Run} {pointer name : String} {node : Node}

theorem compileTypes_gives {declarations : List TypeDecl}
    (h : Gives (compileTypes document pointer node name) s declarations s') :
    ∃ t, Gives (TypeDecl.ofNode ⟨document, pointer⟩ node name) ⟨s.registry, [], s.notices⟩
      declarations t ∧ s' = { s with registry := t.registry, notices := t.notices } := by
  simp only [compileTypes, Run.types, Gives.bind_iff, Gives.get_iff, Gives.set_iff] at h
  obtain ⟨_, _, ⟨rfl, rfl⟩, _, _, rfl, h⟩ := h
  split at h
  · rename_i result heq
    obtain ⟨rfl, rfl⟩ := Gives.pure_iff.1 h
    exact ⟨_, Prod.ext heq rfl, rfl⟩
  · exact (Gives.throw_iff.1 h).elim

theorem compileValidator_gives {typeName : String} {validator : Check.Validator}
    (h : Gives (compileValidator document node name typeName) s validator s') :
    ∃ t t', Gives (Check.validatorOf ⟨document, s.registry⟩ node name typeName) t validator t' ∧
      t.needsPatterns = s.needsPatterns ∧
      s' = { s with needsPatterns := t'.needsPatterns, notices := t'.notices } := by
  simp only [compileValidator, Run.validator, Gives.bind_iff, Gives.get_iff, Gives.set_iff] at h
  obtain ⟨_, _, ⟨rfl, rfl⟩, _, _, rfl, h⟩ := h
  split at h
  · rename_i result heq
    obtain ⟨rfl, rfl⟩ := Gives.pure_iff.1 h
    exact ⟨_, _, Prod.ext heq rfl, rfl, rfl⟩
  · exact (Gives.throw_iff.1 h).elim

/-- What compiling one entry does to a run, and what it declares. -/
theorem entry_gives {entry : Entry} (hsound : s.registry.Sound)
    (h : Gives (Module.entry document pointer) s entry s') :
    entry.pointer = pointer ∧ s.registry.Grown s'.registry ∧ s'.registry.Sound ∧
      (∃ node, entry.MadeBy document s'.registry node) ∧
      ∃ hoisted declaration, entry.declarations = hoisted ++ [declaration] ∧
        s.registry.typeName? pointer = some declaration.name ∧ (hoisted.map (·.name)).Nodup ∧
        ∀ hidden ∈ hoisted, s.registry.used.get? hidden.name = none ∧
          ∃ owner, s'.registry.used.get? hidden.name = some owner := by
  simp only [Module.entry, Gives.bind_iff, Gives.get_iff] at h
  obtain ⟨run, _, ⟨rfl, rfl⟩, h⟩ := h
  split at h
  · rename_i typeName validatorName htype hvalidator
    simp only [Gives.bind_iff, Gives.pure_iff, Gives.lift_iff, note, Gives.modify_iff] at h
    obtain ⟨node, run, ⟨hnode, rfl⟩, _, _, rfl, declarations, _, htypes, validator, _,
      hcompiled, rfl, rfl⟩ := h
    obtain ⟨t, hdeclarations, rfl⟩ := compileTypes_gives htypes
    obtain ⟨declaration, hdeclare, rfl⟩ := TypeDecl.ofNode_gives hdeclarations
    obtain ⟨u, u', hvalidatorOf, -, rfl⟩ := compileValidator_gives hcompiled
    have hlater := (TypeDecl.declare_closes hdeclare).1.later
    have hgrown : run.registry.Grown t.registry := hlater.grown
    have hname := Check.validatorOf_name hvalidatorOf
    obtain ⟨added, hadded, hnodup, hnew⟩ := hlater.hoisted
    refine ⟨rfl, hgrown, hlater.sound hsound, ⟨node, ?_⟩, t.hoisted, declaration, rfl, ?_, ?_, ?_⟩
    · refine ⟨hnode, ?_, ?_, ?_, ?_, ?_⟩
      · rw [Registry.typeName?, hgrown.types_eq]
        exact htype
      · rw [Registry.validatorName?, hgrown.validators_eq, hname]
        exact hvalidator
      · rw [Registry.isExported, Registry.isExported, hgrown.exported_eq]
      · rw [hname]
        exact ⟨u, u', hvalidatorOf⟩
      · exact ⟨_, declaration, t, rfl, .refl _, hdeclare, rfl⟩
    · rw [TypeDecl.declare_name hdeclare]
      exact htype
    · rw [hadded]
      exact hnodup
    · rw [hadded]
      exact hnew
  · exact (Gives.throw_iff.1 h).elim

/-- What the declarations of some entries are called. -/
def declaredNames (entries : List Entry) : List String :=
  (entries.flatMap (·.declarations)).map (·.name)

/-- Compiling entries for different pointers: each was made by the names of the final registry, and
no two of their declarations share a name. Names declared are those of the pointers or new ones. -/
theorem entries_give {pointers : List String} {entries : List Entry} (hsound : s.registry.Sound)
    (hnodup : pointers.Nodup) (h : Gives (pointers.mapM (Module.entry document)) s entries s') :
    s.registry.Grown s'.registry ∧ s'.registry.Sound ∧ entries.map (·.pointer) = pointers ∧
      (∀ entry ∈ entries, ∃ node, entry.MadeBy document s'.registry node) ∧
      (declaredNames entries).Nodup ∧
      ∀ name ∈ declaredNames entries, s'.registry.used.has name = true ∧
        ((∃ pointer ∈ pointers, s.registry.typeName? pointer = some name) ∨
          s.registry.used.get? name = none) := by
  induction pointers generalizing s entries with
  | nil =>
    obtain ⟨rfl, rfl⟩ := Gives.mapM_nil_iff.1 h
    exact ⟨.refl _, hsound, rfl, by simp, by simp [declaredNames], by simp [declaredNames]⟩
  | cons pointer pointers ih =>
    obtain ⟨entry, t, others, hentry, hothers, rfl⟩ := Gives.mapM_cons_iff.1 h
    obtain ⟨hpointer, hgrown, hsound', ⟨node, hmade⟩, hoisted, declaration, hdeclarations, htype,
      hfresh, hnew⟩ := entry_gives hsound hentry
    obtain ⟨hnotin, hnodup⟩ := List.nodup_cons.1 hnodup
    obtain ⟨hgrown', hsound'', hpointers, hmades, hdistinct, hnames⟩ := ih hsound' hnodup hothers
    have hnamesOf : declaredNames (entry :: others) =
        (hoisted.map (·.name) ++ [declaration.name]) ++ declaredNames others := by
      simp [declaredNames, hdeclarations]
    have hused := hsound.type_owned pointer _ htype
    have hunused : declaration.name ∉ hoisted.map (·.name) := by
      intro hmem
      obtain ⟨hidden, hmem, heq⟩ := List.mem_map.1 hmem
      rw [← heq, (hnew hidden hmem).1] at hused
      cases hused
    -- A name of this entry is in use before the others are compiled and is no type of theirs.
    have hapart : ∀ name ∈ hoisted.map (·.name) ++ [declaration.name],
      name ∉ declaredNames others := by
      intro name hname hother
      rcases (hnames name hother).2 with ⟨pointer', hmem', htype'⟩ | hnone
      · have howned' : s.registry.used.get? name = some pointer' := by
          refine hsound.type_owned pointer' name ?_
          rw [← htype', Registry.typeName?, Registry.typeName?, hgrown.types_eq]
        rcases List.mem_append.1 hname with hname | hname
        · obtain ⟨hidden, hmem, rfl⟩ := List.mem_map.1 hname
          rw [(hnew hidden hmem).1] at howned'
          cases howned'
        · rw [List.mem_singleton.1 hname, hused] at howned'
          cases howned'
          exact hnotin hmem'
      · rcases List.mem_append.1 hname with hname | hname
        · obtain ⟨hidden, hmem, rfl⟩ := List.mem_map.1 hname
          obtain ⟨owner, howner⟩ := (hnew hidden hmem).2
          rw [howner] at hnone
          cases hnone
        · rw [List.mem_singleton.1 hname, hgrown.used_kept _ _ hused] at hnone
          cases hnone
    refine ⟨hgrown.trans hgrown', hsound'', by rw [List.map_cons, hpointer, hpointers], ?_, ?_, ?_⟩
    · intro other hother
      rcases List.mem_cons.1 hother with rfl | hother
      · exact ⟨node, hmade.grown hgrown'⟩
      · exact hmades other hother
    · rw [hnamesOf]
      refine List.Nodup.append ?_ hdistinct hapart
      exact hfresh.append (List.nodup_singleton _) (by simpa using hunused)
    · intro name hname
      rw [hnamesOf] at hname
      rcases List.mem_append.1 hname with hname | hname
      · rcases List.mem_append.1 hname with hname | hname
        · obtain ⟨hidden, hmem, rfl⟩ := List.mem_map.1 hname
          obtain ⟨hnone, owner, howner⟩ := hnew hidden hmem
          exact ⟨Table.has_iff.2 ⟨owner, hgrown'.used_kept _ _ howner⟩, .inr hnone⟩
        · rw [List.mem_singleton.1 hname]
          exact ⟨Table.has_iff.2 ⟨pointer, (hgrown.trans hgrown').used_kept _ _ hused⟩,
            .inl ⟨pointer, by simp, htype⟩⟩
      · obtain ⟨hhas, hwhere⟩ := hnames name hname
        refine ⟨hhas, ?_⟩
        rcases hwhere with ⟨pointer', hmem', htype'⟩ | hnone
        · refine .inl ⟨pointer', by simp [hmem'], ?_⟩
          rw [← htype', Registry.typeName?, Registry.typeName?, hgrown.types_eq]
        · refine .inr ?_
          rw [Option.eq_none_iff_forall_ne_some]
          intro owner howner
          rw [hgrown.used_kept _ _ howner] at hnone
          cases hnone

end Module

/-! ## Pointers -/

namespace Dependencies

variable {document : Json} {targets pool pending pointers : List String}

/-- The walk that collects pointers, without its notices. -/
inductive Walk (document : Json) (targets : List String) :
    List String → List String → List String → Prop where
  | done {pool pending : List String} (hdone : unvisited pool pending = []) :
      Walk document targets pool pending []
  | missing {pool pending rest others : List String} {pointer : String} {error : PointerError}
      (hfound : unvisited pool pending = pointer :: rest)
      (hresolve : Pointer.resolve document pointer = .error (.pointer error))
      (hothers : Walk document targets (without pool pointer) rest others) :
      Walk document targets pool pending
        (if targets.contains pointer then pointer :: others else others)
  | visit {pool pending rest others : List String} {pointer : String} {schema : Json}
      (hfound : unvisited pool pending = pointer :: rest)
      (hresolve : Pointer.resolve document pointer = .ok schema)
      (hothers : Walk document targets (without pool pointer) (Schema.localRefs schema ++ rest)
        others) :
      Walk document targets pool pending (pointer :: others)

variable {s s' : List Notice}

theorem references_gives {ε : Type} {schema : Json} {refs : List String}
    (h : Gives (references schema : Noted ε (List String)) s refs s') :
    refs = Schema.localRefs schema := by
  simp only [references, Gives.bind_iff, Gives.pure_iff] at h
  obtain ⟨_, _, _, rfl, -⟩ := h
  rfl

section Visit

variable {pointer : String} {rest : List String}

theorem visit_done (hdone : unvisited pool pending = []) :
    visit document targets pool pending = pure [] := by
  rw [visit.eq_def]
  split
  · rfl
  · simp_all

theorem visit_index (hfound : unvisited pool pending = pointer :: rest) {error : IndexError}
    (hresolve : Pointer.resolve document pointer = .error (.index error)) :
    visit document targets pool pending = throw error := by
  rw [visit.eq_def]
  split
  · simp_all
  · rename_i hfound'
    rw [hfound] at hfound'
    cases hfound'
    rw [hresolve]

theorem visit_missing (hfound : unvisited pool pending = pointer :: rest) {error : PointerError}
    (hresolve : Pointer.resolve document pointer = .error (.pointer error)) :
    visit document targets pool pending = (do
      note (.unresolvedPath pointer error)
      let others ← visit document targets (without pool pointer) rest
      return if targets.contains pointer then pointer :: others else others) := by
  rw [visit.eq_def]
  split
  · simp_all
  · rename_i hfound'
    rw [hfound] at hfound'
    cases hfound'
    rw [hresolve]

theorem visit_schema (hfound : unvisited pool pending = pointer :: rest) {schema : Json}
    (hresolve : Pointer.resolve document pointer = .ok schema) :
    visit document targets pool pending = (do
      let refs ← references schema
      let others ← visit document targets (without pool pointer) (refs ++ rest)
      return pointer :: others) := by
  rw [visit.eq_def]
  split
  · simp_all
  · rename_i hfound'
    rw [hfound] at hfound'
    cases hfound'
    rw [hresolve]

end Visit

variable {pointer : String}

/-- Collecting pointers is such a walk. -/
theorem walk_of_visit (h : Gives (visit document targets pool pending) s pointers s') :
    Walk document targets pool pending pointers := by
  induction pool, pending using visit.induct document generalizing s s' pointers with
  | case1 pool pending hdone =>
    rw [visit_done hdone] at h
    obtain ⟨rfl, -⟩ := Gives.pure_iff.1 h
    exact .done hdone
  | case2 pool pending pointer rest hfound error herror =>
    rw [visit_index hfound herror] at h
    exact (Gives.throw_iff.1 h).elim
  | case3 pool pending pointer rest hfound error herror ih =>
    rw [visit_missing hfound herror] at h
    simp only [Gives.bind_iff, Gives.pure_iff] at h
    obtain ⟨_, _, _, others, _, hothers, rfl, -⟩ := h
    exact .missing hfound herror (ih hothers)
  | case4 pool pending pointer rest hfound schema hschema ih =>
    rw [visit_schema hfound hschema] at h
    simp only [Gives.bind_iff, Gives.pure_iff] at h
    obtain ⟨refs, _, hrefs, others, _, hothers, rfl, -⟩ := h
    have hwalk := ih refs hothers
    rw [references_gives hrefs] at hwalk
    exact .visit hfound hschema hwalk

theorem visited_cons {others : List String} (hpool : pool.contains pointer)
    (h : others.Nodup ∧ ∀ other ∈ others, other ∈ without pool pointer) :
    (pointer :: others).Nodup ∧ ∀ other ∈ pointer :: others, other ∈ pool := by
  have hkept : ∀ other ∈ others, other ∈ pool ∧ other ≠ pointer := by
    intro other hother
    simpa [without] using h.2 other hother
  refine ⟨List.nodup_cons.2 ⟨fun hmem => (hkept pointer hmem).2 rfl, h.1⟩, fun other hother => ?_⟩
  rcases List.mem_cons.1 hother with rfl | hother
  · simpa using hpool
  · exact (hkept other hother).1

/-- **No pointer is visited twice**: what is taken out of the pool does not come back. -/
theorem Walk.nodup (h : Walk document targets pool pending pointers) :
    pointers.Nodup ∧ ∀ pointer ∈ pointers, pointer ∈ pool := by
  induction h with
  | done => simp
  | missing hfound _ _ ih =>
    have hrest := visited_cons (contains_of_unvisited hfound) ih
    split
    · exact hrest
    · exact ⟨(List.nodup_cons.1 hrest.1).2, fun p hp => hrest.2 p (by simp [hp])⟩
  | visit hfound _ _ ih => exact visited_cons (contains_of_unvisited hfound) ih

/-- A pending pointer of the pool is not skipped. -/
theorem mem_unvisited (hpending : pointer ∈ pending) (hpool : pointer ∈ pool) :
    pointer ∈ unvisited pool pending := by
  induction pending with
  | nil => cases hpending
  | cons next rest ih =>
    rw [unvisited, List.dropWhile_cons]
    split
    · rename_i hskipped
      refine ih ((List.mem_cons.1 hpending).resolve_left ?_)
      rintro rfl
      simp [hpool] at hskipped
    · exact hpending

/-- **Every pending pointer is collected** if it is a target or leads somewhere. -/
theorem Walk.mem_of_pending (h : Walk document targets pool pending pointers) {next : String}
    (hkept : next ∈ targets ∨ ∃ schema, Pointer.resolve document next = .ok schema)
    (hpending : next ∈ pending) (hpool : next ∈ pool) : next ∈ pointers := by
  induction h with
  | done hdone =>
    have hmem := mem_unvisited hpending hpool
    rw [hdone] at hmem
    cases hmem
  | @missing pool pending rest others pointer error hfound hmissing _ ih =>
    have hmem := mem_unvisited hpending hpool
    rw [hfound] at hmem
    by_cases heq : next = pointer
    · subst heq
      rcases hkept with htarget | ⟨schema, hschema⟩
      · rw [if_pos (by simpa using htarget)]
        exact List.mem_cons_self
      · rw [hmissing] at hschema
        cases hschema
    · have hothers := ih ((List.mem_cons.1 hmem).resolve_left heq) (by simp [without, hpool, heq])
      split
      · exact List.mem_cons_of_mem _ hothers
      · exact hothers
  | @visit pool pending rest others pointer schema hfound _ _ ih =>
    have hmem := mem_unvisited hpending hpool
    rw [hfound] at hmem
    by_cases heq : next = pointer
    · rw [heq]
      exact List.mem_cons_self
    · have hrest := (List.mem_cons.1 hmem).resolve_left heq
      exact List.mem_cons_of_mem _
        (ih (List.mem_append_right _ hrest) (by simp [without, hpool, heq]))

/-- Collecting pointers is a walk from the targets, through all references of the document. -/
theorem walk_of_collect (h : Gives (collect document targets) s pointers s') :
    Walk document targets (targets ++ Schema.refs document) targets pointers := by
  simp only [collect, Gives.bind_iff, Gives.pure_iff] at h
  obtain ⟨_, _, hvisit, _, _, _, rfl, -⟩ := h
  exact walk_of_visit hvisit

end Dependencies

theorem Module.pointers_gives {targets : List Target} {s s' : Run} {pointers : List String}
    (h : Gives (Module.pointers document targets) s pointers s') :
    ∃ notices, Gives (Dependencies.collect document (targets.map (·.path))) s.notices pointers
      notices ∧ s' = { s with notices } := by
  simp only [Module.pointers, Gives.bind_iff, Gives.get_iff] at h
  obtain ⟨_, run, ⟨rfl, rfl⟩, h⟩ := h
  rcases hcollect : (Dependencies.collect document (targets.map (·.path))).run.run run.notices with
    ⟨error | found, notices⟩
  · rw [hcollect] at h
    simp only [Gives.bind_iff, Gives.throw_iff, and_false, exists_false] at h
  · rw [hcollect] at h
    simp only [Gives.bind_iff, Gives.pure_iff, Gives.set_iff] at h
    obtain ⟨_, _, rfl, rfl, rfl⟩ := h
    exact ⟨notices, hcollect, rfl⟩

/-! ## Modules -/

namespace Module

variable {document : Json} {schemaPath : String} {targets : List Target}
  {module : Module} {run : Run}

/-- The targets of a run: those given, or the whole document if there are none. -/
def requested (targets : List Target) : List Target :=
  if targets.isEmpty then [⟨Pointer.root, none⟩] else targets

section Generated

variable (h : ofDocument document schemaPath targets = (.ok module, run))

include h

/-- A generated module, taken apart: pointers are collected, a registry names them, and their
entries are compiled one after another. -/
theorem ofDocument_parts :
    ∃ pointers notices registry,
      Gives (Dependencies.collect document ((requested targets).map (·.path))) [] pointers
        notices ∧
      Registry.resolve pointers (requested targets) schemaPath = .ok registry ∧
      Gives (pointers.mapM (entry document)) ⟨registry, false, notices⟩ module.entries run ∧
      module.needsPatterns = run.needsPatterns := by
  have hgives : Gives (generate document schemaPath (requested targets)) start module run := h
  simp only [generate, Gives.bind_iff] at hgives
  obtain ⟨pointers, _, hpointers, hgives⟩ := hgives
  obtain ⟨notices, hcollect, rfl⟩ := pointers_gives hpointers
  split at hgives
  · exact (Gives.throw_iff.1 hgives).elim
  · rename_i registry hregistry
    simp only [Gives.bind_iff, Gives.pure_iff, Gives.modify_iff, Gives.get_iff] at hgives
    obtain ⟨_, _, rfl, entries, _, hentries, _, _, ⟨rfl, rfl⟩, rfl, rfl⟩ := hgives
    exact ⟨pointers, notices, registry, hcollect, hregistry, hentries, rfl⟩

/-- The registry of a generated module names its pointers, and no others. -/
theorem ofDocument_gives :
    ∃ (pointers : List String) (s : Run), pointers.Nodup ∧ s.registry.Sound ∧
      (∀ pointer ∈ s.registry.types.keys, pointer ∈ pointers) ∧
      (∀ pointer, pointer ∈ s.registry.validators.keys ↔ pointer ∈ s.registry.types.keys) ∧
      Gives (pointers.mapM (entry document)) s module.entries run := by
  obtain ⟨pointers, _, registry, hcollect, hregistry, hentries, -⟩ := ofDocument_parts h
  exact ⟨pointers, _, (Dependencies.walk_of_collect hcollect).nodup.1,
    Registry.resolve_sound hregistry, (Registry.resolve_keys hregistry).1,
    (Registry.resolve_keys hregistry).2, hentries⟩

/-- **How every entry came about**: compiled from the node at its pointer, by the names of the
registry that is left at the end. -/
theorem madeBy :
    run.registry.Sound ∧ ∀ entry ∈ module.entries, ∃ node,
      entry.MadeBy document run.registry node := by
  obtain ⟨pointers, s, hnodup, hsound, -, -, hentries⟩ := ofDocument_gives h
  obtain ⟨-, hsound', -, hmade, -⟩ := entries_give hsound hnodup hentries
  exact ⟨hsound', hmade⟩

/-- Every pointer with a validator has an entry. -/
theorem entry_of_validatorName? {pointer name : String}
    (hname : run.registry.validatorName? pointer = some name) :
    ∃ entry ∈ module.entries, entry.pointer = pointer := by
  obtain ⟨pointers, s, hnodup, hsound, hkeys, hsame, hentries⟩ := ofDocument_gives h
  obtain ⟨hgrown, -, hpointers, -⟩ := entries_give hsound hnodup hentries
  have hmem : pointer ∈ module.entries.map (·.pointer) := by
    rw [hpointers]
    refine hkeys pointer ((hsame pointer).1 (Table.mem_keys.2 ⟨name, ?_⟩))
    rw [← hgrown.validators_eq]
    exact hname
  exact List.mem_map.1 hmem

/-- The pointers with types are those with validators. -/
theorem typeName?_eq_none_iff (pointer : String) :
    run.registry.typeName? pointer = none ↔ run.registry.validatorName? pointer = none := by
  obtain ⟨pointers, s, hnodup, hsound, -, hsame, hentries⟩ := ofDocument_gives h
  obtain ⟨hgrown, -⟩ := entries_give hsound hnodup hentries
  have hkeys := not_congr (hsame pointer)
  simp only [Table.mem_keys, ← Option.isSome_iff_exists, Option.not_isSome_iff_eq_none] at hkeys
  rw [Registry.typeName?, Registry.validatorName?, hgrown.types_eq, hgrown.validators_eq]
  exact hkeys.symm

/-- **No two declarations of a module share a name**, and none has a reserved one. -/
theorem declared_nodup :
    (declaredNames module.entries).Nodup ∧
      ∀ name ∈ declaredNames module.entries, Registry.isReserved name = false := by
  obtain ⟨pointers, s, hnodup, hsound, -, -, hentries⟩ := ofDocument_gives h
  obtain ⟨-, hsound', -, -, hdistinct, hnames⟩ := entries_give hsound hnodup hentries
  exact ⟨hdistinct, fun name hname => hsound'.not_reserved name (hnames name hname).1⟩

end Generated

/-! ### Runs that can be evaluated -/

/-- Whether a document is turned into a module of which a test holds. -/
def generates (document : Json) (schemaPath : String) (targets : List Target)
    (test : Module → Run → Bool) : Bool :=
  match ofDocument document schemaPath targets with
  | (.ok module, run) => test module run
  | (.error _, _) => false

theorem exists_of_generates {test : Module → Run → Bool}
    (h : generates document schemaPath targets test = true) :
    ∃ module run, ofDocument document schemaPath targets = (.ok module, run) ∧
      test module run = true := by
  unfold generates at h
  split at h
  · rename_i module run hgenerated
    exact ⟨module, run, hgenerated, h⟩
  · cases h

end Module

end SchemaGuard
