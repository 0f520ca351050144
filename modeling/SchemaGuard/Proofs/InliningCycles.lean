import SchemaGuard.Proofs.Confinement
import SchemaGuard.Proofs.Safety

/-!
# Expansions that come back to themselves

A reference without a validator is expanded in place, and what it is expanded to may hold references
again. Compiling keeps the references that are open, and refuses one that is met inside its own
expansion. `Comes` says what compiling comes to, and which references are open there: the parts whose
checks a node uses, and what a reference leads to that has no validator and is not open.

**Theorem (`validatorOf_cyclic_iff`).** Compiling the validator of a node of the document comes to an
end: it gives a validator or refuses a reference. It refuses one if and only if it comes to a
reference that is open, provided that the patterns and references it comes to can be used.

An expansion opens one more of the finitely many references of the document, so the fuel is enough
(`ofRef_throws`). Whatever compiling fails with was met on the way; and if it does not fail, then it
does not fail at anything it comes to (`compiles_of_comes`), which an open reference rules out.
-/

namespace SchemaGuard.Check

variable {place : Place} {start node : Node} {opened : List String}

/-- What compiling a node comes to, inside the expansions of the references that are open there. -/
inductive Comes (place : Place) (start : Node) : List String → Node → Prop where
  | start : Comes place start [] start
  | part {opened : List String} {node part : Node} (h : Comes place start opened node)
      (huses : node.Uses part) : Comes place start opened part
  | expansion {opened : List String} {origin : Origin} {target : String} {node : Node}
      (h : Comes place start opened (.ref origin target))
      (hname : place.registry.validatorName? target = none) (hnew : target ∉ opened)
      (hleads : leadsTo place.document target = some node) :
      Comes place start (target :: opened) node

/-- Compiling comes to a reference inside its own expansion. -/
def ComesBack (place : Place) (start : Node) (origin : Origin) (target : String) : Prop :=
  ∃ opened, Comes place start opened (.ref origin target) ∧ target ∈ opened

/-- What compiling copes with at a node: a text that is no pattern, and a reference without a
validator that is not found at its pointer. The schema that it leads to can then be read. -/
structure Usable (place : Place) (node : Node) : Prop where
  pattern : ∀ {origin least most text error},
    node = .primitive origin (.string least most (some (.string text))) →
    Pattern.parse text = .error error → error = .invalid
  reference : ∀ {origin target}, node = .ref origin target →
    place.registry.validatorName? target = none → Pointer.isLocal target = true →
    ∀ error, Schema.nodeAt place.document target = .error error →
      (∃ missing, error = .lookup (.pointer missing)) ∧
        ∀ fault, Emit.byName place.document target ≠ .error fault

namespace Comes

theorem readFrom (h : Comes place start opened node)
    (hread : Schema.ReadFrom place.document start) : Schema.ReadFrom place.document node := by
  induction h with
  | start => exact hread
  | part _ huses ih => exact ih.part huses.hasPart
  | expansion _ _ _ hleads _ => exact leadsTo_readFrom hleads

/-- Only references without a validator are open. -/
theorem unnamed (h : Comes place start opened node) :
    ∀ target ∈ opened, place.registry.validatorName? target = none := by
  induction h with
  | start => exact fun _ hmem => (List.not_mem_nil hmem).elim
  | part _ _ ih => exact ih
  | expansion _ hname _ _ ih =>
    intro target hmem
    rcases List.mem_cons.1 hmem with rfl | hmem
    · exact hname
    · exact ih target hmem

end Comes

variable {target : String}

theorem resolve_of_mem {output : Output} {document : Json} {path : String} (h : target ∈ opened) :
    (Emit.resolve output document opened target path).outcome =
      .error (.cyclicRef output target path) := by
  rw [Emit.resolve, if_pos (List.contains_iff_mem.2 h)]

/-! ## Failing -/

/-- The errors about references that compiling comes back to. -/
def Refusal (place : Place) (start : Node) (error : EmitError) : Prop :=
  ∃ origin target, ComesBack place start origin target ∧
    error = .cyclicRef .validators target origin.path

/-- No bounds but on the errors. -/
def refusals (place : Place) (start : Node) : Confines where
  reach _ := True
  unnamed _ := True
  inlined _ := True
  errors := Refusal place start

variable {fuel : Nat} {origin : Origin}

theorem allowed_refusals (notice : Notice) : notice.Allowed (refusals place start).inlined := by
  cases notice <;> trivial

theorem ofNode_refuses (husable : ∀ {opened node}, Comes place start opened node →
      Usable place node) {onRef : OnRef}
    (hrefs : ∀ origin target, Comes place start opened (.ref origin target) →
      ∀ scope, Stays (refusals place start) (onRef target origin.path scope))
    (h : Comes place start opened node) : StaysAt (refusals place start) onRef node := by
  have hpart : ∀ {node part : Node}, Comes place start opened node → node.Uses part →
      Comes place start opened part := fun hcomes huses => hcomes.part huses
  refine ofNode_keeps_of_uses hpart ?_ hrefs h
  intro origin least most text error hcomes hparse hvalid
  exact (hvalid ((husable hcomes).pattern rfl hparse)).elim

/-- **An expansion fails by coming back only**, if so many references may be opened as are not. -/
theorem ofRef_refuses (hread : Schema.ReadFrom place.document start)
    (husable : ∀ {opened node}, Comes place start opened node → Usable place node)
    (hfuel : (TypeDecl.unopened place.document opened).length < fuel)
    (h : Comes place start opened (.ref origin target)) (scope : Scope) :
    Stays (refusals place start) (ofRef place fuel opened target origin.path scope) := by
  induction fuel generalizing opened origin target scope with
  | zero => exact absurd hfuel (Nat.not_lt_zero _)
  | succ fuel ih =>
    unfold ofRef
    split
    · exact .map (fresh_keeps _)
    · rename_i hname
      refine .bind (.forM fun notice _ => note_keeps (allowed_refusals notice)) fun _ => ?_
      split
      · rename_i error herror
        refine .throw ?_
        rcases resolve_eq_error herror with ⟨hopen, rfl⟩ | ⟨hlocal, hfault⟩
        · exact ⟨origin, target, ⟨opened, h, hopen⟩, rfl⟩
        · have hreference := (husable h).reference rfl hname hlocal
          rcases hfault with ⟨fault, hfault, -⟩ | ⟨fault, hfault, -⟩ |
            ⟨missing, fault, hmissing, hfault, -⟩
          · obtain ⟨⟨_, heq⟩, -⟩ := hreference _ hfault
            cases heq
          · obtain ⟨⟨_, heq⟩, -⟩ := hreference _ hfault
            cases heq
          · exact ((hreference _ hmissing).2 fault hfault).elim
      · exact .pure _
      · rename_i node hnode
        have hnew : target ∉ opened := by
          intro hopen
          rw [resolve_of_mem hopen] at hnode
          cases hnode
        have hless := TypeDecl.length_unopened_lt (h.readFrom hread).mem_refs hnew
        have hinner := h.expansion hname hnew (leadsTo_of_resolve hnode)
        refine ofNode_refuses husable (fun origin target hcomes scope => ?_) hinner scope
        exact ih (by omega) hcomes scope

/-- **Compiling a validator fails by coming back only.** -/
theorem validatorOf_refuses (hread : Schema.ReadFrom place.document start)
    (husable : ∀ {opened node}, Comes place start opened node → Usable place node)
    (name typeName : String) :
    Stays (refusals place start) (validatorOf place start name typeName) := by
  refine .bind (.modify fun _ hs => hs) fun _ => .map ?_
  refine ofNode_refuses husable (fun origin target hcomes scope => ?_) .start _
  refine ofRef_refuses hread husable ?_ hcomes scope
  have hle := List.length_filter_le (fun ref => !([] : List String).contains ref)
    (Schema.refs place.document)
  unfold TypeDecl.unopened fuelFor
  omega

/-! ## Succeeding -/

/-- An expansion that was compiled had not been open, and what the reference leads to was compiled
in it. -/
theorem compiles_of_expansion (h : (ofRef place fuel opened).Compiles (.ref origin target))
    (hname : place.registry.validatorName? target = none) :
    target ∉ opened ∧ ∀ node, leadsTo place.document target = some node →
      ∃ less, (ofRef place less (target :: opened)).Compiles node := by
  obtain ⟨scope, s, checks, s', h⟩ := h
  rw [ofNode] at h
  cases fuel with
  | zero => exact (Gives.throw_iff.1 h).elim
  | succ fuel =>
    simp only [ofRef, hname, Gives.bind_iff] at h
    obtain ⟨_, t, -, h⟩ := h
    refine ⟨fun hopen => ?_, fun node hleads => ⟨fuel, ?_⟩⟩
    · rw [resolve_of_mem hopen] at h
      exact (Gives.throw_iff.1 h).elim
    · split at h
      · exact (Gives.throw_iff.1 h).elim
      · rename_i hresolve
        rw [leadsTo_of_resolve hresolve] at hleads
        cases hleads
      · rename_i found hresolve
        rw [leadsTo_of_resolve hresolve] at hleads
        cases hleads
        exact ⟨scope, t, checks, s', h⟩

/-- **If a node was compiled, so was everything that compiling comes to.** -/
theorem compiles_of_comes (hstart : (ofRef place fuel []).Compiles start)
    (h : Comes place start opened node) : ∃ fuel, (ofRef place fuel opened).Compiles node := by
  induction h with
  | start => exact ⟨fuel, hstart⟩
  | part _ huses ih =>
    obtain ⟨fuel, hcompiles⟩ := ih
    exact ⟨fuel, hcompiles.part huses⟩
  | expansion _ hname _ hleads ih =>
    obtain ⟨fuel, hcompiles⟩ := ih
    exact (compiles_of_expansion hcompiles hname).2 _ hleads

theorem not_comesBack (hstart : (ofRef place fuel []).Compiles start) (origin : Origin)
    (target : String) : ¬ComesBack place start origin target := by
  rintro ⟨opened, hcomes, hopen⟩
  obtain ⟨fuel, hcompiles⟩ := compiles_of_comes hstart hcomes
  exact (compiles_of_expansion hcompiles (hcomes.unnamed target hopen)).1 hopen

/-- **Expanding references ends, and refuses exactly those that come back**: compiling the validator
of a node gives a validator or refuses a reference that it comes back to, and it refuses one if it
comes back to any. -/
theorem validatorOf_cyclic_iff (hread : Schema.ReadFrom place.document node)
    (husable : ∀ opened part, Comes place node opened part → Usable place part)
    (name typeName : String) (s : Progress) :
    ((∃ validator s', Gives (validatorOf place node name typeName) s validator s') ∨
      ∃ origin target s', ComesBack place node origin target ∧
        Fails (validatorOf place node name typeName) s
          (.cyclicRef .validators target origin.path) s') ∧
    ((∃ error s', Fails (validatorOf place node name typeName) s error s') ↔
      ∃ origin target, ComesBack place node origin target) := by
  have hfails : ∀ error s', Fails (validatorOf place node name typeName) s error s' →
      Refusal place node error :=
    (validatorOf_refuses hread (husable _ _) name typeName).throws
      (fun _ notice _ => allowed_refusals notice) s
  have hgives : ∀ validator s', Gives (validatorOf place node name typeName) s validator s' →
      ∀ origin target, ¬ComesBack place node origin target := by
    intro validator s' h
    simp only [validatorOf, Gives.bind_iff] at h
    obtain ⟨_, _, -, body, _, hbody, -⟩ := h
    exact not_comesBack ⟨_, _, body, _, hbody⟩
  rcases hrun : (validatorOf place node name typeName).run.run s with ⟨error | validator, s'⟩
  · obtain ⟨origin, target, hback, rfl⟩ := hfails error s' hrun
    exact ⟨.inr ⟨origin, target, s', hback, hrun⟩,
      fun _ => ⟨origin, target, hback⟩, fun _ => ⟨_, s', hrun⟩⟩
  · refine ⟨.inl ⟨validator, s', hrun⟩, ?_, ?_⟩
    · rintro ⟨error, t, herror⟩
      obtain ⟨origin, target, hback, -⟩ := hfails error t herror
      exact ⟨origin, target, hback⟩
    · rintro ⟨origin, target, hback⟩
      exact (hgives validator s' hrun origin target hback).elim

/-- A definition that holds a reference to itself. -/
def selfDefinition : Json := .object [("type", .string "object"),
  ("properties", .object [("next", .object [("$ref", .string "#/$defs/a")])])]

def selfSchema : Json := .object [
  ("$ref", .string "#/$defs/a"),
  ("$defs", .object [("a", selfDefinition)])]

def selfPlace : Place := ⟨selfSchema, Registry.empty⟩

def selfRef (path : String) : Node :=
  .ref ⟨path, .object [("$ref", .string "#/$defs/a")]⟩ "#/$defs/a"

def selfNode : Node := .object ⟨"#/$defs/a", selfDefinition⟩
  (some [⟨"next", false, selfRef "#/$defs/a/properties/next"⟩]) [] (.value none) ⟨none, none⟩

theorem nodeAt_self : Schema.nodeAt selfSchema "#/$defs/a" = .ok selfNode := rfl

theorem leadsTo_self : leadsTo selfSchema "#/$defs/a" = some selfNode := by
  have hlocal : Pointer.isLocal "#/$defs/a" = true := by decide +kernel
  simp only [leadsTo, hlocal, nodeAt_self, if_true]

theorem comes_self {opened : List String} {part : Node}
    (h : Comes selfPlace (.ref origin "#/$defs/a") opened part) :
    (∃ origin, part = .ref origin "#/$defs/a") ∨ part = selfNode := by
  induction h with
  | start => exact .inl ⟨_, rfl⟩
  | part _ huses ih =>
    rcases ih with ⟨_, rfl⟩ | rfl
    · cases huses
    · cases huses with
      | property hmem =>
        rw [List.mem_singleton.1 hmem]
        exact .inl ⟨_, rfl⟩
  | expansion _ _ _ hleads ih =>
    rcases ih with ⟨_, heq⟩ | heq
    · cases heq
      rw [show selfPlace.document = selfSchema from rfl, leadsTo_self] at hleads
      exact .inr (Option.some.inj hleads).symm
    · cases heq

/-- A definition that refers to itself cannot be expanded. -/
theorem validatorOf_cyclic_iff_self :
    Schema.ReadFrom selfSchema (.ref ⟨"#", selfSchema⟩ "#/$defs/a") ∧
    (∀ opened part, Comes selfPlace (.ref ⟨"#", selfSchema⟩ "#/$defs/a") opened part →
      Usable selfPlace part) ∧
    ∃ error s', Fails (validatorOf selfPlace (.ref ⟨"#", selfSchema⟩ "#/$defs/a") "validateA" "A")
      ⟨0, false, []⟩ error s' := by
  have hread : Schema.ReadFrom selfPlace.document (.ref ⟨"#", selfSchema⟩ "#/$defs/a") :=
    ⟨"#", selfSchema, fun _ h => h, rfl⟩
  have husable : ∀ opened part,
      Comes selfPlace (.ref ⟨"#", selfSchema⟩ "#/$defs/a") opened part →
        Usable selfPlace part := by
    intro opened part h
    rcases comes_self h with ⟨origin, rfl⟩ | rfl
    · refine ⟨fun heq => ?_, fun heq _ _ error herror => ?_⟩
      · cases heq
      · cases heq
        rw [show selfPlace.document = selfSchema from rfl, nodeAt_self] at herror
        cases herror
    · refine ⟨fun heq => ?_, fun heq => ?_⟩ <;> cases heq
  have hback : ComesBack selfPlace (.ref ⟨"#", selfSchema⟩ "#/$defs/a")
      ⟨"#/$defs/a/properties/next", .object [("$ref", .string "#/$defs/a")]⟩ "#/$defs/a" := by
    have hinner : Comes selfPlace (.ref ⟨"#", selfSchema⟩ "#/$defs/a") ["#/$defs/a"] selfNode :=
      .expansion .start rfl List.not_mem_nil leadsTo_self
    exact ⟨_, hinner.part (.property List.mem_cons_self), List.mem_cons_self⟩
  have hiff := validatorOf_cyclic_iff hread husable "validateA" "A" ⟨0, false, []⟩
  exact ⟨hread, husable, hiff.2.2 ⟨_, _, hback⟩⟩

end SchemaGuard.Check
