import SchemaGuard.Proofs.Crashes
import SchemaGuard.Proofs.NamesGiven
import SchemaGuard.Proofs.Unescaped

/-!
# What is collected covers what is compiled

Two walks go through a document. Collecting looks for references anywhere in the schemas at its
pointers, blind to what the schemas mean; compiling reads the schemas and comes to the references of
their nodes. Names are given to what is collected, so a reference that only compiling came to would
have none, and would be expanded where it stands.

**Theorem (`collected_covers_compiled`).** If all local references of a document have no escapes
and lead somewhere, and all targets do, then pointers are collected such that, once they are named,
every local reference that is met has a name, and none is expanded. What can go wrong then is reading
a `type` or a pattern, or merging an `allOf`: without an `allOf` no cycle of references is refused.

The pointers are closed under the references of their schemas (`Walk.mem_of_ref`), and a node that is
met is always read from the schema at one of them (`Meets.readFrom`), since what a reference leads to
stands at a pointer that was collected too.
-/

namespace SchemaGuard

/-- All local references of a document lead somewhere, with nothing to decode in them. -/
def Schema.RefsLead (document : Json) : Prop :=
  ∀ ref ∈ localRefs document,
    Pointer.Unescaped ref ∧ ∃ schema, Pointer.resolve document ref = .ok schema

variable {document : Json}

/-! ## Depth -/

/-- The nodes that are read from a schema are not deeper than the schema. -/
theorem Schema.below_of_parse {path : String} {schema : Json} {node : Node}
    (h : parse path schema = .ok node) : node.Below (schema.depth + 1) := by
  induction node using Node.induction generalizing path schema with
  | step node ih =>
    refine .intro fun part hpart => ?_
    obtain ⟨inner, hinner, path', hread⟩ := parse_part h hpart
    exact (ih part hpart hread).mono (inside_of_mem_parts hinner).depth_lt

/-- There is room for the node at a pointer, whatever the errors are. -/
theorem TypeDecl.room_of_nodeOf {pointer : String} {node : Node}
    (h : Module.nodeOf document pointer = .ok node) (errors : EmitError → Prop) :
    Room errors (fuelFor document) 1 [node] := by
  obtain ⟨schema, hschema, hparse⟩ := Module.nodeOf_eq_ok h
  have hdepth := (Schema.within_of_resolve hschema).depth_le
  refine .inr ⟨schema.depth + 1, ?_, fun other hmem => ?_⟩
  · calc 4 * (schema.depth + 1) + 1
      _ ≤ 4 * (document.depth + 2) * 1 := by omega
      _ ≤ fuelFor document := Nat.mul_le_mul_left _ (by omega)
  · rw [List.mem_singleton.1 hmem]
    exact Schema.below_of_parse hparse

/-! ## Collecting -/

namespace Dependencies

variable {targets pool pending pointers : List String}

/-- **What is collected is closed under references** that lead somewhere. -/
theorem Walk.mem_of_ref (h : Walk document targets pool pending pointers) {pointer ref : String}
    {schema found : Json} (hpointer : pointer ∈ pointers)
    (hschema : Pointer.resolve document pointer = .ok schema) (href : ref ∈ Schema.localRefs schema)
    (hfound : Pointer.resolve document ref = .ok found) (hpool : ref ∈ pool) : ref ∈ pointers := by
  induction h with
  | done => cases hpointer
  | @missing pool pending rest others missing error _ hmissing _ ih =>
    -- Neither the pointer nor the reference is the one that leads nowhere.
    have hne : ∀ other found, Pointer.resolve document other = .ok found → other ≠ missing := by
      rintro other found hother rfl
      rw [hmissing] at hother
      cases hother
    have hothers : pointer ∈ others → ref ∈ others := fun hmem =>
      ih hmem (by simp [without, hpool, hne ref found hfound])
    revert hpointer
    split
    · intro hpointer
      have hmem := (List.mem_cons.1 hpointer).resolve_left (hne pointer schema hschema)
      exact List.mem_cons_of_mem _ (hothers hmem)
    · exact hothers
  | @visit pool pending rest others visited seen _ hseen hwalk ih =>
    by_cases heq : ref = visited
    · rw [heq]
      exact List.mem_cons_self
    · have hleft : ref ∈ without pool visited := by simp [without, hpool, heq]
      refine List.mem_cons_of_mem _ ?_
      rcases List.mem_cons.1 hpointer with rfl | hpointer
      · rw [hschema] at hseen
        cases hseen
        exact hwalk.mem_of_pending (.inr ⟨found, hfound⟩) (List.mem_append_left _ href) hleft
      · exact ih hpointer hleft

theorem localRefs_of_resolve {pointer : String} {schema : Json}
    (h : Pointer.resolve document pointer = .ok schema) :
    Schema.localRefs schema ⊆ Schema.localRefs document :=
  List.filter_subset _ (Schema.refs_of_resolve h)

/-- Where targets and references lead somewhere, so does all that is collected. -/
theorem Collected.resolves (hrefs : Schema.RefsLead document)
    (htargets : ∀ target ∈ targets, ∃ schema, Pointer.resolve document target = .ok schema)
    {pointer : String} (h : Collected document targets pointer) :
    ∃ schema, Pointer.resolve document pointer = .ok schema := by
  cases h with
  | target hmem => exact htargets pointer hmem
  | ref _ hschema href => exact (hrefs pointer (localRefs_of_resolve hschema href)).2

/-- Collecting comes to an end with pointers unless it stops at a segment that is no number. -/
theorem gives_of_not_stops (h : ∀ error, ¬Stops document targets error) (notices : List Notice) :
    ∃ pointers notices', Gives (collect document targets) notices pointers notices' := by
  rcases hrun : (collect document targets).run.run notices with ⟨error | pointers, notices'⟩
  · exact (h error (collect_throws document targets _ _ _ hrun)).elim
  · exact ⟨pointers, notices', hrun⟩

theorem collect_gives (hrefs : Schema.RefsLead document)
    (htargets : ∀ target ∈ targets, ∃ schema, Pointer.resolve document target = .ok schema)
    (notices : List Notice) : ∃ pointers notices',
      Gives (collect document targets) notices pointers notices' := by
  refine gives_of_not_stops (fun error hstops => ?_) notices
  obtain ⟨pointer, hpointer, herror⟩ := hstops
  obtain ⟨schema, hschema⟩ := hpointer.resolves hrefs htargets
  rw [herror] at hschema
  cases hschema

end Dependencies

/-! ## Nodes that are met -/

namespace Module

/-- The nodes that are met while some pointers are compiled: those at the pointers, their parts, and
what references are followed to. -/
inductive Meets (document : Json) (pointers : List String) : Node → Prop where
  | pointer {pointer : String} {node : Node} (hmem : pointer ∈ pointers)
      (hnode : nodeOf document pointer = .ok node) : Meets document pointers node
  | part {node part : Node} (h : Meets document pointers node) (hpart : node.HasPart part) :
      Meets document pointers part
  | target {origin : Origin} {target : String} {node : Node}
      (h : Meets document pointers (.ref origin target))
      (hnode : Schema.nodeAt document target = .ok node) : Meets document pointers node

/-- Pointers that are closed under the local references of their schemas. -/
def ClosedUnderRefs (document : Json) (pointers : List String) : Prop :=
  ∀ pointer ∈ pointers, ∀ schema, Pointer.resolve document pointer = .ok schema →
    ∀ ref ∈ Schema.localRefs schema, ref ∈ pointers

theorem closedUnderRefs_of_collect (hrefs : Schema.RefsLead document)
    {targets pointers : List String} {s s' : List Notice}
    (h : Gives (Dependencies.collect document targets) s pointers s') :
    ClosedUnderRefs document pointers := by
  intro pointer hpointer schema hschema ref href
  have hlocal := Dependencies.localRefs_of_resolve hschema href
  obtain ⟨-, found, hfound⟩ := hrefs ref hlocal
  exact (Dependencies.walk_of_collect h).mem_of_ref hpointer hschema href hfound
    (List.mem_append_right _ (List.mem_filter.1 hlocal).1)

section Met

variable {pointers : List String} {node : Node} {origin : Origin} {target : String}

theorem mem_localRefs {schema : Json} (h : Schema.ReadFrom schema (.ref origin target))
    (hlocal : Pointer.isLocal target = true) : target ∈ Schema.localRefs schema :=
  List.mem_filter.2 ⟨h.mem_refs, hlocal⟩

/-- A reference that leaves the document is not followed. -/
theorem resolveEscaped_external (h : Pointer.isLocal target = false) :
    Pointer.resolveEscaped document target = .error (.pointer (.notLocal target)) := by
  obtain ⟨hroot, hpath⟩ := Bool.or_eq_false_iff.1 h
  have hnone : Pointer.path? target = none := by simpa using hpath
  unfold Pointer.resolveEscaped
  rw [hroot, hnone]
  rfl

variable (hrefs : Schema.RefsLead document) (hclosed : ClosedUnderRefs document pointers)

include hrefs hclosed

/-- **A node that is met is read from the schema at a collected pointer**: what a reference is
followed to is the node at the reference, which is collected. -/
theorem Meets.readFrom (h : Meets document pointers node) :
    ∃ pointer ∈ pointers, ∃ schema, Pointer.resolve document pointer = .ok schema ∧
      Schema.ReadFrom schema node := by
  induction h with
  | pointer hmem hnode =>
    obtain ⟨schema, hschema, hparse⟩ := nodeOf_eq_ok hnode
    exact ⟨_, hmem, schema, hschema, Schema.readFrom_of_parse hparse⟩
  | part _ hpart ih =>
    obtain ⟨pointer, hmem, schema, hschema, hread⟩ := ih
    exact ⟨pointer, hmem, schema, hschema, hread.part hpart⟩
  | @target origin target node _ hnode ih =>
    obtain ⟨pointer, hmem, schema, hschema, hread⟩ := ih
    have href := mem_localRefs hread (isLocal_of_nodeAt hnode)
    obtain ⟨hplain, found, hfound⟩ := hrefs target (Dependencies.localRefs_of_resolve hschema href)
    obtain ⟨decoded, hdecoded, hparse⟩ := Schema.nodeAt_eq_ok hnode
    rw [Pointer.resolveEscaped_of_resolve hplain hfound] at hdecoded
    cases hdecoded
    exact ⟨target, hclosed pointer hmem schema hschema target href, found, hfound,
      Schema.readFrom_of_parse hparse⟩

/-- A local reference that is met is collected, and leads somewhere when decoded. -/
theorem Meets.collected (h : Meets document pointers (.ref origin target))
    (hlocal : Pointer.isLocal target = true) :
    target ∈ pointers ∧ ∃ schema, Pointer.resolveEscaped document target = .ok schema := by
  obtain ⟨pointer, hmem, schema, hschema, hread⟩ := h.readFrom hrefs hclosed
  have href := mem_localRefs hread hlocal
  obtain ⟨hplain, found, hfound⟩ := hrefs target (Dependencies.localRefs_of_resolve hschema href)
  exact ⟨hclosed pointer hmem schema hschema target href, found,
    Pointer.resolveEscaped_of_resolve hplain hfound⟩

/-- No reference that is met stops at a segment that is no number. -/
theorem Meets.not_index (h : Meets document pointers (.ref origin target)) (error : IndexError) :
    Schema.nodeAt document target ≠ .error (.lookup (.index error)) := by
  intro hnode
  have hstops := Schema.nodeAt_eq_lookup hnode
  cases hlocal : Pointer.isLocal target with
  | false =>
    rw [resolveEscaped_external hlocal] at hstops
    cases hstops
  | true =>
    obtain ⟨-, schema, hschema⟩ := h.collected hrefs hclosed hlocal
    rw [hschema] at hstops
    cases hstops

/-- A reference that is met and was not collected leaves the document. -/
theorem Meets.external (h : Meets document pointers (.ref origin target))
    (hmem : target ∉ pointers) : Pointer.isLocal target = false := by
  cases hlocal : Pointer.isLocal target with
  | false => rfl
  | true => exact (hmem (h.collected hrefs hclosed hlocal).1).elim

end Met

end Module

/-! ## Compiling -/

/-- The errors of merging an `allOf`. -/
def EmitError.OfMerging : EmitError → Prop
  | cyclicAllOf _ _ => True
  | type _ => True
  | tooDeep => True
  | _ => False

namespace Module

/-- An `allOf` is among the nodes that are met. -/
def MeetsAllOf (document : Json) (pointers : List String) : Prop :=
  ∃ origin branches, Meets document pointers (.combinator origin .allOf branches)

/-- What compiling some pointers is confined to. -/
def confines (document : Json) (pointers : List String) : Confines where
  reach := Meets document pointers
  unnamed ref := ref ∉ pointers
  inlined ref := Pointer.isLocal ref = false
  errors error := (∃ fault, error = .pattern fault) ∨
    MeetsAllOf document pointers ∧ error.OfMerging

variable {pointers : List String}

/-- **No step of compiling leaves them**, since no local reference has to be expanded. -/
theorem confines_kept (hrefs : Schema.RefsLead document)
    (hclosed : ClosedUnderRefs document pointers) :
    (confines document pointers).Kept document where
  part h hpart := h.part hpart
  target h hnode := h.target hnode
  merging h :=
    ⟨.inr ⟨⟨_, _, h⟩, trivial⟩, fun _ _ => .inr ⟨⟨_, _, h⟩, trivial⟩,
      fun href hnode => (href.not_index hrefs hclosed _ hnode).elim,
      fun _ _ => .inr ⟨⟨_, _, h⟩, trivial⟩⟩
  inlined h hunnamed := h.external hrefs hclosed hunnamed
  expands h hunnamed hleads := by
    have hexternal := h.external hrefs hclosed hunnamed
    rw [isLocal_of_leadsTo hleads] at hexternal
    cases hexternal
  expansion hopened h hunnamed hresolve := by
    have hexternal := h.external hrefs hclosed hunnamed
    -- What is open was expanded, so it does not leave the document either.
    rcases resolve_eq_error hresolve with ⟨hopen, -⟩ | ⟨hlocal, -⟩
    · rw [hopened _ hopen] at hexternal
      cases hexternal
    · rw [hlocal] at hexternal
      cases hexternal
  pattern _ _ _ := .inl ⟨_, rfl⟩

/-- The errors of generating entries within these confines: reading a `type` may fail too. -/
def Errs (document : Json) (pointers : List String) : GenerateError → Prop
  | .type _ => True
  | .emit error => (confines document pointers).errors error
  | _ => False

theorem Errs.cases {error : GenerateError} (h : Errs document pointers error) :
    (∃ fault, error = .type fault) ∨ (∃ fault, error = .emit (.pattern fault)) ∨
      MeetsAllOf document pointers ∧ ∃ fault, error = .emit fault ∧ fault.OfMerging := by
  cases error with
  | type fault => exact .inl ⟨fault, rfl⟩
  | emit fault =>
    rcases h with ⟨pattern, rfl⟩ | ⟨hallOf, hmerging⟩
    · exact .inr (.inl ⟨pattern, rfl⟩)
    · exact .inr (.inr ⟨hallOf, fault, rfl, hmerging⟩)
  | lookup | name => cases h

theorem entry_covered (hrefs : Schema.RefsLead document) (hclosed : ClosedUnderRefs document pointers)
    {pointer : String} {schema : Json} (hmem : pointer ∈ pointers)
    (hschema : Pointer.resolve document pointer = .ok schema) :
    Keeps (Confined (confines document pointers)) (Errs document pointers)
      (entry document pointer) := by
  refine entry_keeps (confines_kept hrefs hclosed) (fun _ herror => herror)
    (fun node hnode => ⟨.pointer hmem hnode, TypeDecl.room_of_nodeOf hnode _⟩)
    (fun error herror => ?_) (fun hunnamed => (hunnamed hmem).elim)
  unfold nodeOf at herror
  rw [hschema] at herror
  dsimp only at herror
  split at herror
  · cases herror
    trivial
  · cases herror

/-! ## Generations -/

variable {schemaPath : String} {targets : List Target}

/-- Compiles pointers that have names. -/
def compileAll (document : Json) (pointers : List String) : Generate Module := do
  let entries ← pointers.mapM (entry document)
  return ⟨entries, (← get).needsPatterns⟩

/-- A generation whose pointers are collected and named goes on to compile them. -/
theorem ofDocument_eq {notices : List Notice} {registry : Registry}
    (hcollect : Gives (Dependencies.collect document ((requested targets).map (·.path))) []
      pointers notices)
    (hregistry : Registry.resolve pointers (requested targets) schemaPath = .ok registry) :
    ofDocument document schemaPath targets =
      (compileAll document pointers).run.run ⟨registry, false, notices⟩ := by
  have hcollected : (Dependencies.collect document ((requested targets).map (·.path))).run.run [] =
      (.ok pointers, notices) := hcollect
  have hpointers : Gives (Module.pointers document (requested targets)) start pointers
      { start with notices } := by
    refine Gives.bind_iff.2 ⟨start, start, Gives.get_iff.2 ⟨rfl, rfl⟩, ?_⟩
    dsimp only [start]
    rw [hcollected]
    exact Gives.bind_iff.2 ⟨⟨⟩, _, Gives.set_iff.2 rfl, Gives.pure_iff.2 ⟨rfl, rfl⟩⟩
  have hrun : (Module.pointers document (requested targets)).run.run start =
      (.ok pointers, { start with notices }) := hpointers
  change (generate document schemaPath (requested targets)).run.run start = _
  unfold generate
  rw [Gives.run_bind, hrun]
  dsimp only
  rw [hregistry]
  rfl

theorem requested_resolves
    (htargets : ∀ target ∈ targets, ∃ schema, Pointer.resolve document target.path = .ok schema) :
    ∀ path ∈ (requested targets).map (·.path),
      ∃ schema, Pointer.resolve document path = .ok schema := by
  intro path hpath
  obtain ⟨target, htarget, rfl⟩ := List.mem_map.1 hpath
  unfold requested at htarget
  split at htarget
  · rw [List.mem_singleton.1 htarget]
    exact ⟨document, rfl⟩
  · exact htargets target htarget

/-- **What is collected covers what is compiled.** Let all local references of a document and all
targets lead somewhere, with nothing to decode in the references. Then pointers are collected, and
if they can be named, every local reference that is met while they are compiled has a type and a
validator. So an expansion is noted only of references that leave the document, which are expanded
to nothing; and generating ends with a module, or with an error of reading a `type` or a pattern, or,
if there is an `allOf`, of merging it. No cycle of references is refused otherwise. -/
theorem collected_covers_compiled (document : Json) (schemaPath : String) (targets : List Target)
    (hrefs : Schema.RefsLead document)
    (htargets : ∀ target ∈ targets, ∃ schema, Pointer.resolve document target.path = .ok schema) :
    ∃ pointers notices,
      Gives (Dependencies.collect document ((requested targets).map (·.path))) [] pointers
        notices ∧
      ∀ registry, Registry.resolve pointers (requested targets) schemaPath = .ok registry →
        (∀ origin target, Meets document pointers (.ref origin target) →
          Pointer.isLocal target = true → ∃ type, registry.typeName? target = some type ∧
            registry.validatorName? target = some (Name.validator type)) ∧
        (∀ output ref path,
          .inlining output ref path ∈ (ofDocument document schemaPath targets).2.notices →
            Pointer.isLocal ref = false) ∧
        ∀ error, (ofDocument document schemaPath targets).1 = .error error →
          (∃ fault, error = .type fault) ∨ (∃ fault, error = .emit (.pattern fault)) ∨
            MeetsAllOf document pointers ∧ ∃ fault, error = .emit fault ∧ fault.OfMerging := by
  have hleads := requested_resolves htargets
  obtain ⟨pointers, notices, hcollect⟩ := Dependencies.collect_gives hrefs hleads []
  have hclosed := closedUnderRefs_of_collect hrefs hcollect
  have hcollected := (Dependencies.walk_of_collect hcollect).collected fun _ hmem => .target hmem
  refine ⟨pointers, notices, hcollect, fun registry hregistry => ?_⟩
  have hnames : ∀ pointer ∈ pointers, ∃ type, registry.typeName? pointer = some type ∧
      registry.validatorName? pointer = some (Name.validator type) :=
    fun _ hmem => Registry.names_of_resolve hregistry hmem
  have hstart : Confined (confines document pointers) ⟨registry, false, notices⟩ := by
    refine ⟨fun target hnone hmem => ?_, ?_⟩
    · obtain ⟨type, htype, hvalidator⟩ := hnames target hmem
      rw [htype, hvalidator] at hnone
      rcases hnone with hnone | hnone <;> cases hnone
    · exact (Dependencies.collect_keeps document _ _).gives (fun _ hmem => by cases hmem) hcollect
  have hstays : Keeps (Confined (confines document pointers)) (Errs document pointers)
      (compileAll document pointers) := by
    refine .bind (.mapM fun pointer hmem => ?_) fun _ => .bind .get fun _ => .pure _
    obtain ⟨schema, hschema⟩ := (hcollected pointer hmem).resolves hrefs hleads
    exact entry_covered hrefs hclosed hmem hschema
  obtain ⟨hends, herrors⟩ := hstays _ hstart
  rw [ofDocument_eq hcollect hregistry]
  refine ⟨fun origin target hmet hlocal => ?_, fun output ref path hmem => ?_, fun error herror => ?_⟩
  · exact hnames target (hmet.collected hrefs hclosed hlocal).1
  · exact hends.notices _ hmem
  · exact (herrors error _ (Prod.ext herror rfl)).cases

/-- A chain whose definitions are nothing but references to each other, and to another document. -/
def chainSchema : Json := .object [
  ("type", .string "array"),
  ("items", .object [("$ref", .string "#/$defs/link")]),
  ("$defs", .object [
    ("link", .object [("anyOf", .array [.object [("$ref", .string "#/$defs/next")],
      .object [("$ref", .string "other.json")]])]),
    ("next", .object [("$ref", .string "#/$defs/link")])])]

/-- The theorem at the chain: its cycle is named and not expanded. -/
theorem collected_covers_compiled_chain :
    Schema.RefsLead chainSchema ∧
    ∃ module run, ofDocument chainSchema "chain.json" [] = (.ok module, run) ∧
      (∀ output ref path, .inlining output ref path ∈ run.notices → Pointer.isLocal ref = false) ∧
      ∃ pointers registry, Registry.resolve pointers [⟨"#", none⟩] "chain.json" = .ok registry ∧
        (∃ origin, Meets chainSchema pointers (.ref origin "#/$defs/link")) ∧
        ∃ type, registry.typeName? "#/$defs/link" = some type ∧
          registry.validatorName? "#/$defs/link" = some (Name.validator type) := by
  have hrefs : Schema.RefsLead chainSchema := by
    have hall : ∀ ref ∈ Schema.localRefs chainSchema, Pointer.Unescaped ref ∧
        (Pointer.resolve chainSchema ref).toOption.any (fun _ => true) = true := by decide +kernel
    intro ref hmem
    obtain ⟨hplain, hleads⟩ := hall ref hmem
    obtain ⟨schema, hschema, -⟩ := exists_ok_of_any hleads
    exact ⟨hplain, schema, hschema⟩
  have hruns : generates chainSchema "chain.json" [] (fun _ _ => true) = true := by decide +kernel
  obtain ⟨module, run, hgenerated, -⟩ := exists_of_generates hruns
  obtain ⟨pointers, notices, registry, hcollect, hregistry, -, -⟩ := ofDocument_parts hgenerated
  obtain ⟨_, _, hcollected, hnamed⟩ :=
    collected_covers_compiled chainSchema "chain.json" [] hrefs (fun _ hmem => by cases hmem)
  cases hcollected.symm.trans hcollect
  obtain ⟨hnames, hexpands, -⟩ := hnamed registry hregistry
  rw [hgenerated] at hexpands
  -- The reference under `items` is the part of the node at the root.
  have hroot : "#" ∈ pointers :=
    (Dependencies.walk_of_collect hcollect).mem_of_pending (.inl (by decide)) (by decide) (by decide)
  have hmet : ∃ origin, Meets chainSchema pointers (.ref origin "#/$defs/link") :=
    ⟨_, .part (.pointer hroot rfl) .item⟩
  obtain ⟨origin, hlink⟩ := hmet
  exact ⟨hrefs, module, run, hgenerated, hexpands, pointers, registry, hregistry, ⟨origin, hlink⟩,
    hnames origin _ hlink (by decide)⟩

end Module

end SchemaGuard
