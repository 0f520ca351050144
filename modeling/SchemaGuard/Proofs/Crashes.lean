import SchemaGuard.Generation
import SchemaGuard.Proofs.Calls
import SchemaGuard.Proofs.Confinement
import SchemaGuard.Proofs.SchemaParts

/-!
# Errors that are not explained

A generation ends with a module, with an error that is explained to the user, or with a crash.
**Theorem (`crashes_are_due`).** Unless compiling a type is cut short, a crash is due to one of
three things: a segment of digits that is no number, in a pointer or a reference; a `type` that is
an object, or a list of just an object or a list; or a pattern that fails to be read for another
reason than being malformed. They crash only where they are looked at: in a pointer that is collected, and
in a schema that is read for one (`Followed`).

So malformed keywords and patterns, and pointers that lead nowhere, do not crash. These three do
(`unexplained_crashes`).
-/

namespace SchemaGuard

/-! ## Crashes -/

/-- What a generation can end in that is not explained to the user. -/
inductive Crash where
  | index (error : IndexError)
  | type (error : TypeError)
  | pattern (error : PatternError)
  | tooDeep
deriving DecidableEq

def EmitError.crash? : EmitError → Option Crash
  | index error => some (.index error)
  | type error => some (.type error)
  | pattern error => some (.pattern error)
  | tooDeep => some .tooDeep
  | _ => none

def GenerateError.crash? : GenerateError → Option Crash
  | lookup (.index error) => some (.index error)
  | type error => some (.type error)
  | emit error => error.crash?
  | _ => none

variable {error : GenerateError}

/-- An error that is no crash is explained. -/
theorem GenerateError.crashKind?_eq_none (h : error.crash? = none) : error.crashKind? = none := by
  cases error with
  | lookup error =>
    cases error with
    | pointer error => rfl
    | index error => cases h
  | name error => rfl
  | type error => cases h
  | emit error =>
    cases error with
    | cyclicRef | cyclicAllOf | unnamed => rfl
    | index | type | pattern | tooDeep => cases h

/-- Only compiling is cut short. -/
theorem GenerateError.eq_tooDeep (h : error.crash? = some .tooDeep) : error = .emit .tooDeep := by
  cases error with
  | lookup error => cases error <;> cases h
  | name error => cases h
  | type error => cases h
  | emit error =>
    cases error with
    | tooDeep => rfl
    | cyclicRef | cyclicAllOf | unnamed | index | type | pattern => cases h

/-! ## What is looked at -/

/-- The pointers that are collected for some targets: the targets, and the local references
anywhere in the schemas at such pointers. -/
inductive Dependencies.Collected (document : Json) (targets : List String) : String → Prop where
  | target {pointer : String} (h : pointer ∈ targets) : Collected document targets pointer
  | ref {pointer ref : String} {schema : Json} (h : Collected document targets pointer)
      (hschema : Pointer.resolve document pointer = .ok schema)
      (href : ref ∈ Schema.localRefs schema) : Collected document targets ref

/-- The schemas that are read for some targets: those at the pointers collected for them, the parts
of such schemas, and what their references are followed to, by pointer or by name. -/
inductive Schema.Followed (document : Json) (targets : List String) : Json → Prop where
  | pointer {pointer : String} {schema : Json}
      (h : Dependencies.Collected document targets pointer)
      (hschema : Pointer.resolve document pointer = .ok schema) : Followed document targets schema
  | part {schema part : Json} (h : Followed document targets schema) (hpart : part ∈ parts schema) :
      Followed document targets part
  | ref {members : List (String × Json)} {target : String} {schema : Json}
      (h : Followed document targets (.object members)) (hform : form members = .ref target)
      (hschema : Pointer.resolveEscaped document target = .ok schema) :
      Followed document targets schema
  | named {members : List (String × Json)} {target name path : String} {schema : Json}
      (h : Followed document targets (.object members)) (hform : form members = .ref target)
      (hname : Pointer.lastSegment target = .ok name)
      (hschema : definition? document name = some (path, schema)) :
      Followed document targets schema

namespace Pointer

/-- The segments of a pointer as they stand. -/
def written (ref : String) : List String := (path? ref).elim [] (Text.split '/')

/-- One of some segments consists of digits and is no number. -/
def Unreadable (segments : List String) (error : IndexError) : Prop :=
  ∃ segment ∈ segments, isIndex segment = true ∧ index segment = .error error

end Pointer

/-- What a crash is due to. -/
def Crash.DueTo (document : Json) (targets : List String) : Crash → Prop
  | index error =>
    (∃ pointer, Dependencies.Collected document targets pointer ∧
      Pointer.Unreadable (Pointer.written pointer) error) ∨
    ∃ members target, Schema.Followed document targets (.object members) ∧
      Schema.form members = .ref target ∧
      Pointer.Unreadable ((Pointer.written target).map Pointer.unescape) error
  | type error => ∃ schema, Schema.Followed document targets schema ∧ Schema.Untypable schema error
  | pattern error => ∃ schema text, Schema.Followed document targets schema ∧
      Schema.HasPattern schema (.string text) ∧ Pattern.parse text = .error error ∧
      error ≠ .invalid
  | tooDeep => False

/-! ## Following pointers -/

namespace Pointer

variable {document : Json} {ref : String} {error : IndexError} {segment : String} {current : Json}

theorem item?_eq_error {items : List Json} (h : item? items segment = .error error) :
    isIndex segment = true ∧ index segment = .error error := by
  unfold item? at h
  split at h
  · rename_i hdigits
    rcases bind_eq_error.1 h with h | ⟨position, -, h⟩
    · exact ⟨hdigits, h⟩
    · cases h
  · cases h

theorem step_eq_index (h : step ref current segment = .error (.index error)) :
    isIndex segment = true ∧ index segment = .error error := by
  unfold step at h
  split at h
  · split at h
    · cases h
    · cases h
  · split at h
    · cases h
    · cases h
    · rename_i hitem
      cases h
      exact item?_eq_error hitem
  · cases h

theorem stepDecoded_eq_index :
    stepDecoded ref current segment = .error (.index error) ↔
      step ref current segment = .error (.index error) := by
  unfold stepDecoded step
  cases current with
  | object members => cases Table.get? members segment <;> simp
  | array items =>
    dsimp only
    cases item? items segment with
    | error fault => simp
    | ok found => cases found <;> simp
  | null | bool | number | string => simp

theorem written_of_segments {found : List String} (h : segments ref = .ok found) :
    written ref = found := by
  unfold segments at h
  unfold written
  cases hpath : path? ref with
  | none =>
    rw [hpath] at h
    cases h
  | some path =>
    rw [hpath] at h
    dsimp only at h
    split at h
    · cases h
    · exact Except.ok.inj h

theorem resolve_eq_index (h : resolve document ref = .error (.index error)) :
    Unreadable (written ref) error := by
  unfold resolve at h
  split at h
  · cases h
  · split at h
    · cases h
    · rename_i found hsegments
      obtain ⟨segment, hmem, current, hstep⟩ := foldlM_eq_error h
      refine ⟨segment, ?_, step_eq_index hstep⟩
      rw [← written_of_segments hsegments] at hmem
      exact hmem

theorem resolveEscaped_eq_index (h : resolveEscaped document ref = .error (.index error)) :
    Unreadable ((written ref).map unescape) error := by
  unfold resolveEscaped at h
  split at h
  · cases h
  · split at h
    · cases h
    · rename_i path hpath
      obtain ⟨segment, hmem, current, hstep⟩ := foldlM_eq_error h
      refine ⟨segment, ?_, step_eq_index (stepDecoded_eq_index.1 hstep)⟩
      rw [written, hpath]
      exact hmem

end Pointer

namespace Dependencies

variable {document : Json} {targets pool pending pointers : List String}

theorem of_unvisited {pointer : String} {rest : List String}
    (hpending : ∀ pointer ∈ pending, Collected document targets pointer)
    (hfound : unvisited pool pending = pointer :: rest) :
    Collected document targets pointer ∧ ∀ other ∈ rest, Collected document targets other := by
  have hsub : ∀ other ∈ pointer :: rest, Collected document targets other := by
    intro other hmem
    rw [← hfound] at hmem
    exact hpending other ((List.dropWhile_sublist _).subset hmem)
  exact ⟨hsub pointer (by simp), fun other hmem => hsub other (by simp [hmem])⟩

/-- A walk through collected pointers gives collected pointers. -/
theorem Walk.collected (h : Walk document targets pool pending pointers)
    (hpending : ∀ pointer ∈ pending, Collected document targets pointer) :
    ∀ pointer ∈ pointers, Collected document targets pointer := by
  induction h with
  | done => exact fun pointer hmem => by cases hmem
  | missing hfound _ _ ih =>
    obtain ⟨hpointer, hrest⟩ := of_unvisited hpending hfound
    split
    · exact List.forall_mem_cons.2 ⟨hpointer, ih hrest⟩
    · exact ih hrest
  | visit hfound hresolve _ ih =>
    obtain ⟨hpointer, hrest⟩ := of_unvisited hpending hfound
    refine List.forall_mem_cons.2 ⟨hpointer, ih fun other hmem => ?_⟩
    rcases List.mem_append.1 hmem with hmem | hmem
    · exact .ref hpointer hresolve hmem
    · exact hrest other hmem

/-- A pointer was collected, and following it meets a segment that is no number. -/
def Stops (document : Json) (targets : List String) (error : IndexError) : Prop :=
  ∃ pointer, Collected document targets pointer ∧
    Pointer.resolve document pointer = .error (.index error)

variable {inlined : String → Prop}

theorem note_keeps {ε : Type} {errors : ε → Prop} {notice : Notice} (h : notice.Allowed inlined) :
    Keeps (AllAllowed inlined) errors (note notice : Noted ε Unit) :=
  .modify fun _ hs => hs.append h

/-- Visiting pointers stops only at such a segment, and notes no expansions. -/
theorem visit_keeps (hpending : ∀ pointer ∈ pending, Collected document targets pointer) :
    Keeps (AllAllowed inlined) (Stops document targets) (visit document targets pool pending) := by
  induction pool, pending using visit.induct document with
  | case1 pool pending hdone =>
    rw [visit_done hdone]
    exact .pure _
  | case2 pool pending pointer rest hfound error herror =>
    rw [visit_index hfound herror]
    exact .throw ⟨pointer, (of_unvisited hpending hfound).1, herror⟩
  | case3 pool pending pointer rest hfound error herror ih =>
    rw [visit_missing hfound herror]
    refine .bind (note_keeps trivial) fun _ => ?_
    exact .map (ih (of_unvisited hpending hfound).2)
  | case4 pool pending pointer rest hfound schema hschema ih =>
    rw [visit_schema hfound hschema]
    obtain ⟨hpointer, hrest⟩ := of_unvisited hpending hfound
    have hrefs : Keeps (AllAllowed inlined) (Stops document targets) (references schema) :=
      .map (.forM fun _ _ => note_keeps trivial)
    refine .bind_gives hrefs fun s refs s' _ hgives => ?_
    refine .map (ih refs fun other hmem => ?_)
    rw [references_gives hgives] at hmem
    rcases List.mem_append.1 hmem with hmem | hmem
    · exact .ref hpointer hschema hmem
    · exact hrest other hmem

theorem collect_keeps (document : Json) (targets : List String) (inlined : String → Prop) :
    Keeps (AllAllowed inlined) (Stops document targets) (collect document targets) :=
  .bind (visit_keeps fun _ hmem => .target hmem) fun _ =>
    .map (note_keeps trivial)

theorem collect_throws (document : Json) (targets : List String) :
    Throws (Stops document targets) (collect document targets) :=
  (collect_keeps document targets fun _ => True).throws fun _ notice _ => by
    cases notice <;> trivial

end Dependencies

/-! ## Reading schemas -/

namespace Schema

variable {document : Json} {targets : List String}

/-- A node that is read from a schema that is read for some targets. -/
def Comes (document : Json) (targets : List String) (node : Node) : Prop :=
  ∃ path schema, Followed document targets schema ∧ parse path schema = .ok node

variable {error : TypeError} {origin : Origin} {path : String} {schema : Json}

theorem parse_due (hfollowed : Followed document targets schema)
    (h : parse path schema = .error error) : (Crash.type error).DueTo document targets :=
  parse_fails (fun _ _ hschema hpart => .part hschema hpart) hfollowed h

theorem Comes.part {node part : Node} (h : Comes document targets node)
    (hpart : node.HasPart part) : Comes document targets part := by
  obtain ⟨path, schema, hfollowed, hparse⟩ := h
  obtain ⟨inner, hinner, path', hread⟩ := parse_part hparse hpart
  exact ⟨path', inner, .part hfollowed hinner, hread⟩

/-- What a reference is followed to is read for the targets too. -/
theorem Comes.target {origin : Origin} {target : String} {schema : Json}
    (h : Comes document targets (.ref origin target))
    (hschema : Pointer.resolveEscaped document target = .ok schema) :
    Followed document targets schema := by
  obtain ⟨path, written, hfollowed, hparse⟩ := h
  obtain ⟨members, rfl, hform⟩ := parse_ref hparse
  exact .ref hfollowed hform hschema

theorem nodeAt_eq_type {target : String} (h : nodeAt document target = .error (.type error)) :
    ∃ schema, Pointer.resolveEscaped document target = .ok schema ∧
      parse target schema = .error error := by
  unfold nodeAt at h
  split at h
  · cases h
  · rename_i schema hschema
    split at h
    · rename_i hparse
      cases h
      exact ⟨schema, hschema, hparse⟩
    · cases h

theorem nodeAt_eq_lookup {target : String} {error : LookupError}
    (h : nodeAt document target = .error (.lookup error)) :
    Pointer.resolveEscaped document target = .error error := by
  unfold nodeAt at h
  split at h
  · rename_i hresolve
    cases h
    exact hresolve
  · split at h
    · cases h
    · cases h

theorem byName_eq {target : String} (result : Except TypeError Node)
    (h : Emit.byName document target = some <$> result) :
    ∃ name path schema, Pointer.lastSegment target = .ok name ∧
      definition? document name = some (path, schema) ∧ parse path schema = result := by
  unfold Emit.byName at h
  split at h
  · rename_i name hname
    unfold definitionNode at h
    split at h
    · cases result <;> cases h
    · rename_i path schema hschema
      refine ⟨name, path, schema, hname, hschema, ?_⟩
      cases hparse : parse path schema <;> cases result <;> simp_all [Functor.map, Except.map]
  · cases result <;> cases h

theorem Comes.named {target name : String} (h : Comes document targets (.ref origin target))
    (hname : Pointer.lastSegment target = .ok name)
    (hschema : definition? document name = some (path, schema)) :
    Followed document targets schema := by
  obtain ⟨_, written, hfollowed, hparse⟩ := h
  obtain ⟨members, rfl, hform⟩ := parse_ref hparse
  exact .named hfollowed hform hname hschema

/-- An error that is no crash, a crash that is due, or being too deep. -/
def Accounted (document : Json) (targets : List String) (crash? : Option Crash) : Prop :=
  ∀ crash, crash? = some crash → crash = .tooDeep ∨ crash.DueTo document targets

/-- The nodes that are read for some targets and the errors that they account for, with no bounds on
names and expansions. -/
def confines (document : Json) (targets : List String) : Confines where
  reach := Comes document targets
  unnamed := fun _ => True
  inlined := fun _ => True
  errors error := Accounted document targets error.crash?

theorem accounted_tooDeep : Accounted document targets EmitError.tooDeep.crash? := by
  intro crash hcrash
  cases hcrash
  exact .inl rfl

theorem Comes.index {target : String} {error : IndexError}
    (h : Comes document targets (.ref origin target))
    (hnode : nodeAt document target = .error (.lookup (.index error))) :
    Accounted document targets (EmitError.index error).crash? := by
  intro crash hcrash
  cases hcrash
  obtain ⟨path, schema, hfollowed, hparse⟩ := h
  obtain ⟨members, rfl, hform⟩ := parse_ref hparse
  exact .inr (.inr ⟨members, _, hfollowed, hform,
    Pointer.resolveEscaped_eq_index (nodeAt_eq_lookup hnode)⟩)

theorem Comes.type {target : String} (h : Comes document targets (.ref origin target))
    (hnode : nodeAt document target = .error (.type error)) :
    Accounted document targets (EmitError.type error).crash? := by
  intro crash hcrash
  cases hcrash
  obtain ⟨schema, hschema, hparse⟩ := nodeAt_eq_type hnode
  exact .inr (parse_due (h.target hschema) hparse)

/-- **Compiling does not leave the nodes that are read for some targets**, nor the errors that they
account for. -/
theorem confines_kept (document : Json) (targets : List String) :
    (confines document targets).Kept document where
  part h hpart := h.part hpart
  target h hnode := by
    obtain ⟨schema, hschema, hparse⟩ := nodeAt_eq_ok hnode
    exact ⟨_, schema, h.target hschema, hparse⟩
  merging _ := ⟨accounted_tooDeep, fun _ _ crash hcrash => (by cases hcrash), Comes.index, Comes.type⟩
  inlined _ _ := trivial
  expands h _ hleads := by
    refine ⟨?_, accounted_tooDeep⟩
    rcases leadsTo_cases hleads with hnode | hnode
    · obtain ⟨schema, hschema, hparse⟩ := nodeAt_eq_ok hnode
      exact ⟨_, schema, h.target hschema, hparse⟩
    · obtain ⟨name, path, schema, hname, hschema, hparse⟩ := byName_eq (.ok _) hnode
      exact ⟨path, schema, h.named hname hschema, hparse⟩
  expansion _ h _ hresolve := by
    rcases resolve_eq_error hresolve with
      ⟨-, rfl⟩ | ⟨-, ⟨fault, hnode, rfl⟩ | ⟨fault, hnode, rfl⟩ | ⟨_, fault, -, hnode, rfl⟩⟩
    · exact fun crash hcrash => by cases hcrash
    · exact h.type hnode
    · exact h.index hnode
    · intro crash hcrash
      cases hcrash
      obtain ⟨name, path, schema, hname, hschema, hparse⟩ := byName_eq (.error _) hnode
      exact .inr (parse_due (h.named hname hschema) hparse)
  pattern h hpattern hvalid crash hcrash := by
    cases hcrash
    obtain ⟨path, schema, hfollowed, hparse⟩ := h
    exact .inr ⟨schema, _, hfollowed, parse_pattern hparse, hpattern, hvalid⟩

end Schema

/-! ## Generations -/

namespace Module

variable {document : Json} {targets : List String}

/-- Generating ends in errors that are accounted for. -/
def Accounts (document : Json) (targets : List String) (error : GenerateError) : Prop :=
  Schema.Accounted document targets error.crash?

variable {pointer : String}

theorem nodeOf_accounts {error : GenerateError}
    (hpointer : Dependencies.Collected document targets pointer)
    (h : nodeOf document pointer = .error error) : Accounts document targets error := by
  unfold nodeOf at h
  intro crash hcrash
  split at h
  · rename_i lookup hresolve
    cases h
    cases lookup with
    | pointer error => cases hcrash
    | index error =>
      cases hcrash
      exact .inr (.inl ⟨pointer, hpointer, Pointer.resolve_eq_index hresolve⟩)
  · rename_i schema hschema
    split at h
    · rename_i hparse
      cases h
      cases hcrash
      exact .inr (Schema.parse_due (.pointer hpointer hschema) hparse)
    · cases h

theorem comes_of_nodeOf {node : Node} (hpointer : Dependencies.Collected document targets pointer)
    (h : nodeOf document pointer = .ok node) : Schema.Comes document targets node := by
  obtain ⟨schema, hschema, hparse⟩ := nodeOf_eq_ok h
  exact ⟨pointer, schema, .pointer hpointer hschema, hparse⟩

/-- Generating within these confines, which bound nothing but the errors. -/
abbrev Stays {α : Type} (document : Json) (targets : List String) (x : Generate α) : Prop :=
  Keeps (Confined (Schema.confines document targets)) (Accounts document targets) x

theorem confined (run : Run) : Confined (Schema.confines document targets) run :=
  ⟨fun _ _ => trivial, fun notice _ => by cases notice <;> trivial⟩

theorem entry_stays (hpointer : Dependencies.Collected document targets pointer) :
    Stays document targets (entry document pointer) := by
  refine entry_keeps (Schema.confines_kept document targets) (fun _ herror => herror)
    (fun node hnode => ?_) (fun error herror => nodeOf_accounts hpointer herror)
    fun _ crash hcrash => by cases hcrash
  exact ⟨comes_of_nodeOf hpointer hnode, .inl Schema.accounted_tooDeep⟩

theorem pointers_stays (document : Json) (targets : List Target) :
    Stays document (targets.map (·.path)) (pointers document targets) := by
  refine .get_bind fun run _ => ?_
  rcases hrun : (Dependencies.collect document (targets.map (·.path))).run.run run.notices with
    ⟨error | found, notices⟩
  · rw [hrun]
    refine .bind (.set (confined _)) fun _ => .throw fun crash hcrash => ?_
    cases hcrash
    obtain ⟨pointer, hpointer, hresolve⟩ := Dependencies.collect_throws _ _ _ _ _ hrun
    exact .inr (.inl ⟨pointer, hpointer, Pointer.resolve_eq_index hresolve⟩)
  · rw [hrun]
    exact .map (.set (confined _))

/-- Names are given or refused with an explanation. -/
theorem ofRegistry_crash? (error : Registry.Error) :
    (GenerateError.ofRegistry error).crash? = none := by
  cases error with
  | pointer error => rfl
  | name error => rfl

theorem generate_stays (document : Json) (schemaPath : String) (targets : List Target) :
    Stays document (targets.map (·.path)) (generate document schemaPath targets) := by
  refine .bind_gives (pointers_stays document targets) fun s pointers s' _ hpointers => ?_
  obtain ⟨notices, hcollect, -⟩ := pointers_gives hpointers
  have hcollected := (Dependencies.walk_of_collect hcollect).collected fun _ hmem => .target hmem
  split
  · refine .throw fun crash hcrash => ?_
    rw [ofRegistry_crash?] at hcrash
    cases hcrash
  · refine .bind (.modify fun _ _ => confined _) fun _ => ?_
    refine .bind (.mapM fun pointer hmem => entry_stays (hcollected pointer hmem)) fun _ => ?_
    exact .map .get

theorem generate_throws (document : Json) (schemaPath : String) (targets : List Target) :
    Throws (Accounts document (targets.map (·.path))) (generate document schemaPath targets) :=
  (generate_stays document schemaPath targets).throws confined

/-- **A crash is due to what is looked at.** A generation that is not cut short gives a module, or
ends in an error that is explained, or in a crash: then there is a collected pointer or a followed
reference with a segment of digits that is no number, a schema that is read whose `type` is no type,
or a schema that is read whose pattern cannot be used although it is not malformed. -/
theorem crashes_are_due (document : Json) (schemaPath : String) (targets : List Target)
    (hends : (ofDocument document schemaPath targets).1 ≠ .error (.emit .tooDeep)) :
    (∃ module, (ofDocument document schemaPath targets).1 = .ok module) ∨
    ∃ error, (ofDocument document schemaPath targets).1 = .error error ∧
      (error.crashKind? = none ∨ ∃ crash, error.crash? = some crash ∧
        crash.DueTo document ((requested targets).map (·.path))) := by
  rcases hrun : ofDocument document schemaPath targets with ⟨error | module, run⟩
  · refine .inr ⟨error, rfl, ?_⟩
    cases hcrash : error.crash? with
    | none => exact .inl (GenerateError.crashKind?_eq_none hcrash)
    | some crash =>
      refine .inr ⟨crash, rfl, ?_⟩
      rcases generate_throws document schemaPath (requested targets) _ _ _ hrun crash hcrash with
        rfl | hdue
      · rw [hrun, GenerateError.eq_tooDeep hcrash] at hends
        exact (hends rfl).elim
      · exact hdue
  · exact .inl ⟨module, rfl⟩

/-- Texts that match a pattern, which repeats more often than can be counted. -/
def repetitionSchema : Json :=
  .object [("type", .string "string"), ("pattern", .string "a\x7b4294967295\x7d")]

theorem crashes_are_due_repetition :
    (ofDocument repetitionSchema "schema.json" []).1 ≠ .error (.emit .tooDeep) ∧
      (Crash.pattern .repetitionTooLarge).DueTo repetitionSchema ["#"] := by
  have hrun : (ofDocument repetitionSchema "schema.json" []).1 =
      .error (.emit (.pattern .repetitionTooLarge)) :=
    eq_error_of_faultOf? (by decide +kernel)
  have hends : (ofDocument repetitionSchema "schema.json" []).1 ≠ .error (.emit .tooDeep) := by
    rw [hrun]
    intro h
    cases h
  refine ⟨hends, ?_⟩
  rcases crashes_are_due repetitionSchema "schema.json" [] hends with
    ⟨module, hmodule⟩ | ⟨error, herror, hcause⟩
  · rw [hrun] at hmodule
    cases hmodule
  · rw [hrun] at herror
    cases herror
    rcases hcause with hkind | ⟨crash, hcrash, hdue⟩
    · cases hkind
    · cases hcrash
      exact hdue

/-- A pattern that repeats too often, a `type` that is an object, and a digit that is no number in a
pointer into an array each end a generation in a crash. -/
theorem unexplained_crashes :
    (∃ error, (ofDocument repetitionSchema "schema.json" []).1 = .error error ∧
      error.crashKind? = some "OverflowError") ∧
    (∃ error, (ofDocument (.object [("type", .object [])]) "schema.json" []).1 = .error error ∧
      error.crashKind? = some "TypeError") ∧
    ∃ error, (ofDocument (.object [("x", .array [])]) "schema.json" [⟨"#/x/²", none⟩]).1 =
      .error error ∧ error.crashKind? = some "ValueError" :=
  ⟨⟨.emit (.pattern .repetitionTooLarge), eq_error_of_faultOf? (by decide +kernel), rfl⟩,
    ⟨.type .object, eq_error_of_faultOf? (by decide +kernel), rfl⟩,
    ⟨.lookup (.index (.notDecimal "²")), eq_error_of_faultOf? (by decide +kernel), rfl⟩⟩

end Module

end SchemaGuard
