import SchemaGuard.Proofs.CheckParts
import SchemaGuard.Proofs.Dependence
import SchemaGuard.Proofs.Fails
import SchemaGuard.Proofs.Merging

/-!
# What compiling nodes is confined to

Compiling a node goes on to its parts and to what its references lead to; on the way it logs
notices, and it fails where a reference cannot be followed, is met again inside itself or is too
deep, and where a pattern cannot be used. `Confines` names the nodes that are come to, the
references that have no name, those that are noted as expanded, and the errors; `Confines.Kept` says
that none of these sets is left in one step.

**Theorem (`TypeDecl.ofNode_keeps`, `Check.validatorOf_keeps`).** Then none of them is left at all:
compiling one of the nodes notes no other expansions and ends in none but the errors. It is not cut
short unless a reference is expanded or an `allOf` is merged, since without these the calls inside
each other are bounded by how deep the node is (`Room`). The same holds of generating the entry of a
pointer (`Module.entry_keeps`).
-/

namespace SchemaGuard

variable {α : Type}

/-! ## Depth -/

/-- Fewer than so many nodes are inside each other. -/
inductive Node.Below : Nat → Node → Prop where
  | intro {size : Nat} {node : Node} (h : ∀ part, node.HasPart part → part.Below size) :
      Below (size + 1) node

variable {node : Node}

theorem Node.Below.mono {size more : Nat} (h : node.Below size) (hle : size ≤ more) :
    node.Below more := by
  induction h generalizing more with
  | @intro size node _ ih =>
    obtain ⟨more, rfl⟩ := Nat.exists_eq_add_of_le' (Nat.lt_of_lt_of_le (Nat.succ_pos size) hle)
    exact .intro fun part hpart => ih part hpart (by omega)

/-- Either being cut short is among the errors, or the fuel is enough for some nodes, with so many
calls to spare. -/
def Room (errors : EmitError → Prop) (fuel spare : Nat) (nodes : List Node) : Prop :=
  errors .tooDeep ∨ ∃ size, 4 * size + spare ≤ fuel ∧ ∀ node ∈ nodes, node.Below size

namespace Room

variable {errors : EmitError → Prop} {fuel spare : Nat} {nodes others : List Node} {node : Node}

theorem mono {less : Nat} (h : Room errors fuel spare nodes) (hless : less ≤ spare) :
    Room errors fuel less nodes := by
  rcases h with h | ⟨size, hsize, hnodes⟩
  · exact .inl h
  · exact .inr ⟨size, by omega, hnodes⟩

theorem call (h : Room errors (fuel + 1) (spare + 1) nodes) : Room errors fuel spare nodes := by
  rcases h with h | ⟨size, hsize, hnodes⟩
  · exact .inl h
  · exact .inr ⟨size, by omega, hnodes⟩

theorem sub (h : Room errors fuel spare nodes) (hsub : ∀ node ∈ others, node ∈ nodes) :
    Room errors fuel spare others := by
  rcases h with h | ⟨size, hsize, hnodes⟩
  · exact .inl h
  · exact .inr ⟨size, hsize, fun node hmem => hnodes node (hsub node hmem)⟩

theorem mem (h : Room errors fuel spare nodes) (hmem : node ∈ nodes) :
    Room errors fuel spare [node] :=
  h.sub fun _ hother => List.mem_singleton.1 hother ▸ hmem

/-- The parts of a node leave room for three more calls. -/
theorem parts (h : Room errors (fuel + 1) 0 [node])
    (hparts : ∀ part ∈ nodes, node.HasPart part) : Room errors fuel 3 nodes := by
  rcases h with h | ⟨size, hsize, hnode⟩
  · exact .inl h
  · cases hnode node (List.mem_singleton_self _) with
    | @intro size _ hbelow =>
      exact .inr ⟨size, by omega, fun part hmem => hbelow part (hparts part hmem)⟩

theorem tooDeep (h : Room errors 0 (spare + 1) nodes) : errors .tooDeep := by
  rcases h with h | ⟨size, hsize, -⟩
  · exact h
  · omega

theorem tooDeep_single (h : Room errors 0 0 [node]) : errors .tooDeep := by
  rcases h with h | ⟨size, hsize, hnode⟩
  · exact h
  · obtain rfl : size = 0 := by omega
    cases hnode node (List.mem_singleton_self _)

end Room

/-! ## Confines -/

/-- Bounds on what compiling comes across. -/
structure Confines where
  /-- The nodes that are compiled. -/
  reach : Node → Prop
  /-- The references that are found to have no name. -/
  unnamed : String → Prop
  /-- The references that are noted as expanded. -/
  inlined : String → Prop
  errors : EmitError → Prop

/-- What has no type or no validator in a registry is among the references without a name. -/
def Confines.Names (confines : Confines) (registry : Registry) : Prop :=
  ∀ target, registry.typeName? target = none ∨ registry.validatorName? target = none →
    confines.unnamed target

/-- An expansion is noted of some references only. -/
def Notice.Allowed (inlined : String → Prop) : Notice → Prop
  | .inlining _ ref _ => inlined ref
  | _ => True

/-- All expansions that are noted are of some references. -/
def AllAllowed (inlined : String → Prop) (notices : List Notice) : Prop :=
  ∀ notice ∈ notices, notice.Allowed inlined

variable {inlined : String → Prop}

theorem AllAllowed.append {notices : List Notice} {notice : Notice} (h : AllAllowed inlined notices)
    (hnotice : notice.Allowed inlined) : AllAllowed inlined (notices ++ [notice]) :=
  List.forall_mem_append.2 ⟨h, List.forall_mem_singleton.2 hnotice⟩

/-- References that are open stay inside the document. -/
def AllLocal (opened : List String) : Prop := ∀ ref ∈ opened, Pointer.isLocal ref = true

/-- The errors of merging an `allOf`: it follows references without expanding them. -/
structure Confines.Merging (document : Json) (confines : Confines) : Prop where
  tooDeep : confines.errors .tooDeep
  cyclicAllOf : ∀ ref path, confines.errors (.cyclicAllOf ref path)
  index : ∀ {origin target error}, confines.reach (.ref origin target) →
    Schema.nodeAt document target = .error (.lookup (.index error)) → confines.errors (.index error)
  type : ∀ {origin target error}, confines.reach (.ref origin target) →
    Schema.nodeAt document target = .error (.type error) → confines.errors (.type error)

/-- No step of compiling leaves the confines. -/
structure Confines.Kept (document : Json) (confines : Confines) : Prop
    extends TypeDecl.Closed document confines.reach where
  merging : ∀ {origin branches}, confines.reach (.combinator origin .allOf branches) →
    confines.Merging document
  inlined : ∀ {origin target}, confines.reach (.ref origin target) → confines.unnamed target →
    confines.inlined target
  expands : ∀ {origin target node}, confines.reach (.ref origin target) →
    confines.unnamed target → leadsTo document target = some node →
      confines.reach node ∧ confines.errors .tooDeep
  expansion : ∀ {output opened origin target path error}, AllLocal opened →
    confines.reach (.ref origin target) → confines.unnamed target →
    (Emit.resolve output document opened target path).outcome = .error error →
      confines.errors error
  pattern : ∀ {origin minLength maxLength pattern error},
    confines.reach (.primitive origin (.string minLength maxLength (some (.string pattern)))) →
    Pattern.parse pattern = .error error → error ≠ .invalid → confines.errors (.pattern error)

variable {document : Json} {confines : Confines} {ref : String} {opened : List String}
  {output : Output} {path : String}

theorem isLocal_of_nodeAt (h : Schema.nodeAt document ref = .ok node) :
    Pointer.isLocal ref = true := by
  unfold Schema.nodeAt Pointer.resolveEscaped at h
  unfold Pointer.isLocal
  by_cases hroot : (ref == Pointer.root) = true
  · rw [hroot, Bool.true_or]
  · cases hpath : Pointer.path? ref with
    | some path => rw [Option.isSome_some, Bool.or_true]
    | none =>
      rw [if_neg hroot, hpath] at h
      cases h

theorem isLocal_of_leadsTo (h : leadsTo document ref = some node) :
    Pointer.isLocal ref = true := by
  unfold leadsTo at h
  split at h
  · assumption
  · cases h

theorem AllLocal.cons (h : AllLocal opened) (href : Pointer.isLocal ref = true) :
    AllLocal (ref :: opened) :=
  List.forall_mem_cons.2 ⟨href, h⟩

/-- Looking for the node to expand a reference to notes no other expansion. -/
theorem allowed_of_resolve (h : inlined ref) :
    AllAllowed inlined (Emit.resolve output document opened ref path).notices := by
  unfold AllAllowed Emit.resolve
  split
  · simp
  · split
    · simp [Notice.Allowed, h]
    · split
      · simp [Notice.Allowed, h]
      · simp [Notice.Allowed, h]
      · simp [Notice.Allowed, h]
      · split <;> simp [Notice.Allowed, h]

/-- Why a reference cannot be expanded. -/
theorem resolve_eq_error {error : EmitError}
    (h : (Emit.resolve output document opened ref path).outcome = .error error) :
    ref ∈ opened ∧ error = .cyclicRef output ref path ∨
    Pointer.isLocal ref = true ∧
      ((∃ fault, Schema.nodeAt document ref = .error (.type fault) ∧ error = .type fault) ∨
        (∃ fault, Schema.nodeAt document ref = .error (.lookup (.index fault)) ∧
          error = .index fault) ∨
        ∃ missing fault, Schema.nodeAt document ref = .error (.lookup (.pointer missing)) ∧
          Emit.byName document ref = .error fault ∧ error = .type fault) := by
  unfold Emit.resolve at h
  split at h
  · rename_i hopened
    cases h
    exact .inl ⟨List.contains_iff_mem.1 hopened, rfl⟩
  · dsimp only at h
    split at h
    · cases h
    · rename_i hlocal
      refine .inr ⟨by simpa using hlocal, ?_⟩
      split at h
      · cases h
      · rename_i htype
        cases h
        exact .inl ⟨_, htype, rfl⟩
      · rename_i hindex
        cases h
        exact .inr (.inl ⟨_, hindex, rfl⟩)
      · rename_i hmissing
        split at h
        · rename_i hnamed
          cases h
          exact .inr (.inr ⟨_, _, hmissing, hnamed, rfl⟩)
        · cases h
        · cases h

/-! ## Types -/

namespace TypeDecl

variable {place : Place}

/-- The state of compiling types that stays within the confines. -/
structure Confined (confines : Confines) (s : Progress) : Prop where
  names : confines.Names s.registry
  notices : AllAllowed confines.inlined s.notices

/-- Compiling types within the confines. -/
abbrev Stays (confines : Confines) (x : Compile α) : Prop :=
  Keeps (Confined confines) confines.errors x

variable {opened : List String}

theorem note_keeps {notice : Notice} (h : notice.Allowed confines.inlined) :
    Stays confines (note notice) :=
  .modify fun _ hs => ⟨hs.names, hs.notices.append h⟩

theorem freshName_keeps (place : Place) (base : String) : Stays confines (freshName place base) := by
  exact .get_bind fun s hs => .map (.set ⟨hs.names, hs.notices⟩)

theorem expand_keeps (h : confines.Kept place.document) (hopened : AllLocal opened)
    {origin : Origin} {target path : String} (hreach : confines.reach (.ref origin target))
    (hunnamed : confines.unnamed target) : Stays confines (expand place opened target path) := by
  refine .bind (.forM fun notice hmem => note_keeps ?_) fun _ => ?_
  · exact allowed_of_resolve (h.inlined hreach hunnamed) notice hmem
  · split
    · exact .pure _
    · rename_i herror
      exact .throw (h.expansion hopened hreach hunnamed herror)

theorem addBranch_keeps (merged : Option (Table (Property Node))) (branch : Node)
    (found : Option (List (Property Node))) : Stays confines (addBranch merged branch found) := by
  cases found with
  | some properties => exact .pure _
  | none =>
    unfold addBranch
    dsimp only
    split
    · exact .map (note_keeps trivial)
    · exact .pure _

/-- All functions that compile types stay within the confines, at some fuel. -/
structure AllStay (place : Place) (confines : Confines) (fuel : Nat) : Prop where
  declare : ∀ opened node name, AllLocal opened → confines.reach node →
    Room confines.errors fuel 1 [node] → Stays confines (declare place fuel opened node name)
  hoist : ∀ opened properties base, AllLocal opened →
    (∀ property ∈ properties, confines.reach property.node) →
    Room confines.errors fuel 2 (properties.map (·.node)) →
    Stays confines (hoist place fuel opened properties base)
  dictOf : ∀ opened name properties, AllLocal opened →
    (∀ property ∈ properties, confines.reach property.node) →
    Room confines.errors fuel 1 (properties.map (·.node)) →
    Stays confines (dictOf place fuel opened name properties)
  typeOf : ∀ opened node base, AllLocal opened → confines.reach node →
    Room confines.errors fuel 0 [node] → Stays confines (typeOf place fuel opened node base)
  typesOf : ∀ opened base nodes, AllLocal opened → (∀ node ∈ nodes, confines.reach node) →
    Room confines.errors fuel 1 nodes → Stays confines (typesOf place fuel opened base nodes)
  propertiesOf : ∀ opened node, confines.Merging place.document → AllLocal opened →
    confines.reach node → Stays confines (propertiesOf place fuel opened node)
  merge : ∀ opened branches, confines.Merging place.document → AllLocal opened →
    (∀ branch ∈ branches, confines.reach branch) →
    Stays confines (merge place fuel opened branches)
  intersect : ∀ opened path branches base, confines.Merging place.document → AllLocal opened →
    (∀ branch ∈ branches, confines.reach branch) →
    Stays confines (intersect place fuel opened path branches base)

variable {fuel : Nat}

/-- What is merged from nodes within the confines are properties about such nodes. -/
theorem merge_reaches (h : confines.Kept place.document) {branches : List Node}
    (hreach : ∀ branch ∈ branches, confines.reach branch) {s s' : Progress}
    {properties : List (Property Node)}
    (hgives : Gives (merge place fuel opened branches) s (some properties) s') :
    ∀ property ∈ properties, confines.reach property.node :=
  Merges.reaches ⟨fuel, s, s', hgives⟩ h.toClosed hreach

/-- The nodes that an array fixes at positions, or has after them, are its parts. -/
theorem layout_parts (origin : Origin) (items : Items Node) (leading : Option (List Node))
    (limits : ArrayLimits) :
    (∀ node ∈ (Layout.of items leading).positions,
      Node.HasPart (.array origin items leading limits) node) ∧
      ∀ node, (Layout.of items leading).rest? = some node →
        Node.HasPart (.array origin items leading limits) node := by
  cases leading with
  | some nodes =>
    cases items with
    | all item =>
      refine ⟨fun node hmem => .leading hmem, fun node hrest => ?_⟩
      cases hrest
      exact .item
    | absent | each => exact ⟨fun node hmem => .leading hmem, fun node hrest => by cases hrest⟩
  | none =>
    cases items with
    | each nodes => exact ⟨fun node hmem => .listed hmem, fun node hrest => by cases hrest⟩
    | absent | all => exact ⟨fun node hmem => (by cases hmem), fun node hrest => (by cases hrest)⟩

/-- One more unit of fuel: what is compiled next is within the confines. -/
theorem AllStay.succ (h : confines.Kept place.document) (ih : AllStay place confines fuel) :
    AllStay place confines (fuel + 1) where
  declare opened node name hopened hreach hroom := by
    rw [TypeDecl.declare.eq_def]
    dsimp only
    split
    · rename_i origin properties required additional limits
      refine ih.dictOf _ _ _ hopened (fun property hmem => h.part hreach (.property hmem)) ?_
      refine ((hroom.mono (Nat.zero_le 1)).parts fun part hmem => ?_).mono (by omega)
      obtain ⟨property, hproperty, rfl⟩ := List.mem_map.1 hmem
      exact .property hproperty
    · rename_i origin branches
      have hmerging := h.merging hreach
      have hbranches : ∀ branch ∈ branches, confines.reach branch :=
        fun branch hmem => h.part hreach (.branch hmem)
      refine .bind_gives (ih.merge _ _ hmerging hopened hbranches) fun s merged s' _ hmerged => ?_
      split
      · exact ih.dictOf _ _ _ hopened (merge_reaches h hbranches hmerged) (.inl hmerging.tooDeep)
      · exact .map (ih.intersect _ _ _ _ hmerging hopened hbranches)
    · exact .map (ih.typeOf _ _ _ hopened hreach hroom.call)
  hoist opened properties base hopened hreach hroom := by
    unfold TypeDecl.hoist
    refine .bind (freshName_keeps _ _) fun name => ?_
    refine .bind (ih.dictOf _ _ _ hopened hreach hroom.call) fun _ => ?_
    exact .map (.modify fun s hs => ⟨hs.names, hs.notices⟩)
  dictOf opened name properties hopened hreach hroom := by
    unfold TypeDecl.dictOf
    refine .map (.mapM fun property hmem => ?_)
    refine .map (ih.typeOf _ _ _ hopened (hreach property hmem) ?_)
    exact hroom.call.mem (List.mem_map_of_mem hmem)
  typeOf opened node base hopened hreach hroom := by
    unfold TypeDecl.typeOf
    split
    · exact .pure _
    · exact .pure _
    · exact .pure _
    · rename_i origin branches
      have hmerging := h.merging hreach
      have hbranches : ∀ branch ∈ branches, confines.reach branch :=
        fun branch hmem => h.part hreach (.branch hmem)
      refine .bind_gives (ih.merge _ _ hmerging hopened hbranches) fun s merged s' _ hmerged => ?_
      split
      · exact ih.hoist _ _ _ hopened (merge_reaches h hbranches hmerged) (.inl hmerging.tooDeep)
      · exact ih.intersect _ _ _ _ hmerging hopened hbranches
    · refine .map (ih.typesOf _ _ _ hopened (fun branch hmem => h.part hreach (.branch hmem)) ?_)
      exact (hroom.parts fun branch hmem => .branch hmem).mono (by omega)
    · rename_i origin target
      refine .get_bind fun progress hprogress => ?_
      split
      · exact .pure _
      · rename_i hnone
        have hunnamed := hprogress.names target (.inl hnone)
        refine .bind_gives (expand_keeps h hopened hreach hunnamed) fun s found s' _ hfound => ?_
        split
        · exact .pure _
        · obtain ⟨hleads, -⟩ := expand_gives hfound
          obtain ⟨hresolved, htooDeep⟩ := h.expands hreach hunnamed hleads
          exact ih.typeOf _ _ _ (hopened.cons (isLocal_of_leadsTo hleads)) hresolved (.inl htooDeep)
    · exact .pure _
    · exact .pure _
    · rename_i origin items leading limits
      obtain ⟨hpositions, hrest⟩ := layout_parts origin items leading limits
      dsimp only
      split
      · refine .bind (ih.typesOf _ _ _ hopened
          (fun node hmem => h.part hreach (hpositions node hmem)) ?_) fun elements => ?_
        · exact (hroom.parts hpositions).mono (by omega)
        · split
          · exact .pure _
          · rename_i rest hfound
            refine .map (ih.typeOf _ _ _ hopened (h.part hreach (hrest _ hfound)) ?_)
            exact (hroom.parts fun part hmem =>
              List.mem_singleton.1 hmem ▸ hrest _ hfound).mono (Nat.zero_le 3)
      · split
        · refine .map (ih.typeOf _ _ _ hopened (h.part hreach .item) ?_)
          exact (hroom.parts fun part hmem => List.mem_singleton.1 hmem ▸ .item).mono
            (Nat.zero_le 3)
        · exact .pure _
    · rename_i origin properties required additional limits
      refine ih.hoist _ _ _ hopened (fun property hmem => h.part hreach (.property hmem)) ?_
      refine (hroom.parts fun part hmem => ?_).mono (by omega)
      obtain ⟨property, hproperty, rfl⟩ := List.mem_map.1 hmem
      exact .property hproperty
    · refine .map (ih.typeOf _ _ _ hopened (h.part hreach .additional) ?_)
      exact (hroom.parts fun part hmem => List.mem_singleton.1 hmem ▸ .additional).mono
        (Nat.zero_le 3)
    · exact .pure _
  typesOf opened base nodes hopened hreach hroom := by
    unfold TypeDecl.typesOf
    refine .mapM fun entry hmem => ?_
    have hnode := List.fst_mem_of_mem_zipIdx hmem
    exact ih.typeOf _ _ _ hopened (hreach _ hnode) (hroom.call.mem hnode)
  propertiesOf opened node hmerging hopened hreach := by
    cases node with
    | combinator origin kind branches =>
      cases kind with
      | allOf =>
        exact ih.merge _ _ hmerging hopened fun branch hmem => h.part hreach (.branch hmem)
      | oneOf => exact .pure _
      | anyOf => exact .pure _
    | ref origin target =>
      rw [propertiesOf_ref]
      split
      · exact .throw (hmerging.cyclicAllOf _ _)
      · split
        · rename_i hnode
          exact ih.propertiesOf _ _ hmerging (hopened.cons (isLocal_of_nodeAt hnode))
            (h.target hreach hnode)
        · exact .pure _
        · rename_i hindex
          exact .throw (hmerging.index hreach hindex)
        · rename_i htype
          exact .throw (hmerging.type hreach htype)
    | object origin properties required additional limits => exact .pure _
    | unknown | const | enum | primitive | union | array => exact .pure _
  merge opened branches hmerging hopened hreach := by
    rw [merge_succ]
    refine .map (.foldlM fun merged branch hmem => ?_)
    exact .bind (ih.propertiesOf _ _ hmerging hopened (hreach branch hmem))
      (addBranch_keeps merged branch)
  intersect opened path branches base hmerging hopened hreach := by
    unfold TypeDecl.intersect
    refine .bind (.mapM fun entry hmem => ?_) fun types => ?_
    · have hbranch := List.fst_mem_of_mem_zipIdx (List.mem_of_mem_filter hmem)
      exact ih.typeOf _ _ _ hopened (hreach _ hbranch) (.inl hmerging.tooDeep)
    · split
      · exact .pure _
      · exact .pure _
      · exact .map (note_keeps trivial)

theorem allStay (h : confines.Kept place.document) (fuel : Nat) :
    AllStay place confines fuel := by
  induction fuel with
  | zero =>
    refine ⟨fun _ _ _ _ _ hroom => ?_, fun _ _ _ _ _ hroom => ?_, fun _ _ _ _ _ hroom => ?_,
      fun _ _ _ _ _ hroom => ?_, fun _ _ _ _ _ hroom => ?_, fun _ _ hmerging _ _ => ?_,
      fun _ _ hmerging _ _ => ?_, fun _ _ _ _ hmerging _ _ => ?_⟩
    · exact .throw hroom.tooDeep
    · exact .throw hroom.tooDeep
    · exact .throw hroom.tooDeep
    · exact .throw hroom.tooDeep_single
    · exact .throw hroom.tooDeep
    · exact .throw hmerging.tooDeep
    · exact .throw hmerging.tooDeep
    · exact .throw hmerging.tooDeep
  | succ fuel ih => exact ih.succ h

/-- **Compiling the types of a node stays within the confines.** -/
theorem ofNode_keeps (h : confines.Kept place.document) {node : Node} (hreach : confines.reach node)
    (hroom : Room confines.errors (fuelFor place.document) 1 [node]) (name : String) :
    Stays confines (ofNode place node name) := by
  refine .bind (.modify fun s hs => ⟨hs.names, hs.notices⟩) fun _ => ?_
  refine .bind ((allStay h _).declare _ _ _ (fun _ hmem => by cases hmem) hreach hroom)
    fun declaration => ?_
  exact .map .get

end TypeDecl

/-! ## Checks -/

namespace Check

/-- The state of compiling checks that stays within the confines. -/
def Confined (confines : Confines) (s : Progress) : Prop :=
  AllAllowed confines.inlined s.notices

/-- Compiling checks within the confines. -/
abbrev Stays (confines : Confines) (x : Compile α) : Prop :=
  Keeps (Confined confines) confines.errors x

variable (scope : Scope)

theorem note_keeps {notice : Notice} (h : notice.Allowed confines.inlined) :
    Stays confines (note notice) :=
  .modify fun _ hs => AllAllowed.append hs h

theorem fresh_keeps (kind : LocalKind) : Stays confines (fresh kind) :=
  .get_bind fun _ hs => .map (.set hs)

theorem patternCheck_keeps (path : String) {pattern : Option Json}
    (h : ∀ text error, pattern = some (.string text) → Pattern.parse text = .error error →
      error ≠ .invalid → confines.errors (.pattern error)) :
    Stays confines (patternCheck scope path pattern) := by
  unfold patternCheck
  split
  · exact .pure _
  · rename_i text
    split
    · exact .map (.modify fun _ hs => hs)
    · exact .map (note_keeps trivial)
    · rename_i error hvalid hparse
      exact .throw (h text error rfl hparse fun hinvalid => hvalid hinvalid)
  · exact .map (note_keeps trivial)

theorem ofPrimitive_keeps (path : String) {type : Primitive}
    (h : ∀ least most text error, type = .string least most (some (.string text)) →
      Pattern.parse text = .error error → error ≠ .invalid → confines.errors (.pattern error)) :
    Stays confines (ofPrimitive scope path type) := by
  cases type with
  | string minLength maxLength pattern =>
    refine .map (.map (patternCheck_keeps _ _ fun text error htext hparse hvalid => ?_))
    subst htext
    exact h minLength maxLength text error rfl hparse hvalid
  | integer | number | boolean | null => exact .pure _

theorem branchCheck_keeps (kind : Combinator) (branches : List Local) :
    Stays confines (branchCheck scope kind branches) := by
  unfold branchCheck
  split
  · exact .map (fresh_keeps _)
  · exact .pure _

theorem itemsLoop_keeps (start : Option Nat) {checks : Scope → Compile (List Stmt)}
    (h : ∀ inner, Stays confines (checks inner)) : Stays confines (itemsLoop scope start checks) :=
  .bind (fresh_keeps _) fun _ => .bind (fresh_keeps _) fun _ => .map (h _)

theorem keysLoop_keeps (known : List String) {checks : Local → Scope → Compile (List Stmt)}
    (h : ∀ key inner, Stays confines (checks key inner)) :
    Stays confines (keysLoop scope known checks) := by
  refine .bind (fresh_keeps _) fun _ => .bind (h _ _) fun _ => ?_
  dsimp only
  split
  · exact .pure _
  · exact .pure _

/-- Compiling a node stays within the confines, wherever the node stands. -/
def StaysAt (confines : Confines) (onRef : OnRef) (node : Node) : Prop :=
  ∀ scope, Stays confines (ofNode onRef node scope)

variable {onRef : OnRef} {node : Node} {nodes : List Node}

theorem ofBranches_keeps (h : ∀ node ∈ nodes, StaysAt confines onRef node) (scope : Scope) :
    Stays confines (ofBranches onRef nodes scope) := by
  induction nodes with
  | nil => exact .pure _
  | cons node nodes ih =>
    refine .bind (fresh_keeps _) fun _ => .bind (h node (by simp) scope) fun _ => ?_
    exact .map (ih fun other hmem => h other (by simp [hmem]))

theorem ofPositions_keeps (h : ∀ node ∈ nodes, StaysAt confines onRef node) (position : Nat)
    (scope : Scope) : Stays confines (ofPositions onRef nodes position scope) := by
  induction nodes generalizing position with
  | nil => exact .pure _
  | cons node nodes ih =>
    refine .bind (h node (by simp) _) fun _ => ?_
    exact .map (ih (fun other hmem => h other (by simp [hmem])) _)

theorem ofProperties_keeps {properties : List (Property Node)}
    (h : ∀ property ∈ properties, StaysAt confines onRef property.node) (scope : Scope) :
    Stays confines (ofProperties onRef properties scope) := by
  induction properties with
  | nil => exact .pure _
  | cons property properties ih =>
    refine .bind (h property (by simp) _) fun _ => ?_
    exact .map (ih fun other hmem => h other (by simp [hmem]))

theorem ofItems_keeps {origin : Origin} {items : Items Node} {leading : Option (List Node)}
    {limits : ArrayLimits} (h : ∀ node, Node.Uses (.array origin items leading limits) node →
      StaysAt confines onRef node) (scope : Scope) :
    Stays confines (ofItems onRef items leading scope) := by
  unfold ofItems
  split
  · refine .bind (ofPositions_keeps (fun node hmem => h node (.leading hmem)) _ _) fun _ => ?_
    exact .map (itemsLoop_keeps _ _ (h _ .item))
  · exact .map (ofPositions_keeps (fun node hmem => h node (.leading hmem)) _ _)
  · exact .map (ofPositions_keeps (fun node hmem => h node (.listed hmem)) _ _)
  · exact itemsLoop_keeps _ _ (h _ .item)
  · exact .pure _

theorem ofOthers_keeps {properties : Option (List (Property Node))} {additional : Additional Node}
    (h : ∀ node, additional = .schema node → StaysAt confines onRef node) (scope : Scope) :
    Stays confines (ofOthers onRef properties additional scope) := by
  unfold ofOthers
  split
  · exact keysLoop_keeps _ _ fun _ inner => h _ rfl inner
  · split
    · exact .pure _
    · exact keysLoop_keeps _ _ fun _ _ => .pure _
  · exact .pure _

/-- The checks of a node stay within the confines if those of its references do, for nodes that the
checks of such nodes use. -/
theorem ofNode_keeps_of_uses {reach : Node → Prop}
    (hpart : ∀ {node part : Node}, reach node → node.Uses part → reach part)
    (hpattern : ∀ {origin least most text error},
      reach (.primitive origin (.string least most (some (.string text)))) →
      Pattern.parse text = .error error → error ≠ .invalid → confines.errors (.pattern error))
    (hrefs : ∀ origin target, reach (.ref origin target) →
      ∀ scope, Stays confines (onRef target origin.path scope)) (hreach : reach node) :
    StaysAt confines onRef node := by
  induction node using Node.induction with
  | step node ih =>
    have huses : ∀ part, node.Uses part → StaysAt confines onRef part :=
      fun part huses => ih part huses.hasPart (hpart hreach huses)
    intro scope
    cases node with
    | unknown | const | enum | union => exact .pure _
    | combinator origin kind branches =>
      unfold ofNode
      split
      · exact .map (note_keeps trivial)
      · rename_i hkind
        dsimp only
        split
        · exact .map (note_keeps trivial)
        · refine .bind (ofBranches_keeps (fun branch hmem => ?_) _) fun _ => ?_
          · exact huses branch (.branch hkind hmem)
          · exact .map (branchCheck_keeps _ _ _)
    | ref origin target => exact hrefs origin target hreach _
    | primitive origin type =>
      refine ofPrimitive_keeps scope origin.path ?_
      rintro least most text error rfl hparse hvalid
      exact hpattern hreach hparse hvalid
    | array origin items leading limits =>
      rw [ofNode_array]
      exact .map (ofItems_keeps huses scope)
    | object origin properties required additional limits =>
      rw [ofNode_object]
      refine .bind ?_ fun _ => .map (ofOthers_keeps ?_ scope)
      · cases properties with
        | none => exact .pure _
        | some listed => exact ofProperties_keeps (fun _ hmem => huses _ (.property hmem)) scope
      · rintro node rfl
        exact huses node .additional

theorem ofNode_keeps (h : confines.Kept document)
    (hrefs : ∀ origin target, confines.reach (.ref origin target) →
      ∀ path scope, Stays confines (onRef target path scope)) (hreach : confines.reach node) :
    StaysAt confines onRef node :=
  ofNode_keeps_of_uses (fun hreach huses => h.part hreach huses.hasPart) h.pattern
    (fun origin target hreach => hrefs origin target hreach origin.path) hreach

variable {place : Place}

/-- An expansion may be cut short, but the first reference is not, with any fuel at all. -/
theorem ofRef_keeps (h : confines.Kept place.document)
    (hnames : confines.Names place.registry) {fuel : Nat}
    (hfuel : fuel = 0 → confines.errors .tooDeep) {opened : List String}
    (hopened : AllLocal opened) {origin : Origin} {target : String}
    (hreach : confines.reach (.ref origin target)) (path : String) (scope : Scope) :
    Stays confines (ofRef place fuel opened target path scope) := by
  induction fuel generalizing opened origin target path scope with
  | zero => exact .throw (hfuel rfl)
  | succ fuel ih =>
    unfold ofRef
    split
    · exact .map (fresh_keeps _)
    · rename_i hnone
      have hunnamed := hnames target (.inr hnone)
      refine .bind (.forM fun notice hmem => note_keeps ?_) fun _ => ?_
      · exact allowed_of_resolve (h.inlined hreach hunnamed) notice hmem
      · split
        · rename_i herror
          exact .throw (h.expansion hopened hreach hunnamed herror)
        · exact .pure _
        · rename_i node hnode
          have hleads := leadsTo_of_resolve hnode
          obtain ⟨hresolved, htooDeep⟩ := h.expands hreach hunnamed hleads
          refine ofNode_keeps h (fun origin target hreach path scope => ?_) hresolved scope
          exact ih (fun _ => htooDeep) (hopened.cons (isLocal_of_leadsTo hleads)) hreach path scope

/-- **Compiling the checks of a node stays within the confines.** -/
theorem validatorOf_keeps (h : confines.Kept place.document)
    (hnames : confines.Names place.registry) (hreach : confines.reach node) (name typeName : String)
    :
    Stays confines (validatorOf place node name typeName) := by
  refine .bind (.modify fun _ hs => hs) fun _ => .map ?_
  refine ofNode_keeps h (fun origin target hreach path scope => ?_) hreach _
  refine ofRef_keeps h hnames (fun hzero => ?_) (fun _ hmem => by cases hmem) hreach path scope
  cases hzero

end Check

/-! ## Entries -/

namespace Module

/-- The run of a module that stays within the confines. -/
structure Confined (confines : Confines) (run : Run) : Prop where
  names : confines.Names run.registry
  notices : AllAllowed confines.inlined run.notices

variable {errors : GenerateError → Prop} {pointer : String} {node : Node}

theorem compileTypes_keeps (h : confines.Kept document)
    (hemit : ∀ error, confines.errors error → errors (.emit error)) (hreach : confines.reach node)
    (hroom : Room confines.errors (TypeDecl.fuelFor document) 1 [node]) (name : String) :
    Keeps (Confined confines) errors (compileTypes document pointer node name) := by
  refine .get_bind fun run hrun => ?_
  have hkeeps : TypeDecl.Stays confines (TypeDecl.ofNode ⟨document, pointer⟩ node name) :=
    TypeDecl.ofNode_keeps h hreach hroom name
  obtain ⟨hconfined, herrors⟩ := hkeeps ⟨run.registry, [], run.notices⟩ ⟨hrun.names, hrun.notices⟩
  dsimp only [Run.types]
  rcases hcompiled : (TypeDecl.ofNode ⟨document, pointer⟩ node name).run.run
    ⟨run.registry, [], run.notices⟩ with ⟨error | declarations, progress⟩
  · rw [hcompiled] at hconfined
    refine .bind (.set ⟨hconfined.names, hconfined.notices⟩) fun _ => ?_
    exact .throw (hemit error (herrors error progress hcompiled))
  · rw [hcompiled] at hconfined
    exact .map (.set ⟨hconfined.names, hconfined.notices⟩)

theorem compileValidator_keeps (h : confines.Kept document)
    (hemit : ∀ error, confines.errors error → errors (.emit error)) (hreach : confines.reach node)
    (name typeName : String) :
    Keeps (Confined confines) errors (compileValidator document node name typeName) := by
  refine .get_bind fun run hrun => ?_
  have hkeeps : Check.Stays confines
      (Check.validatorOf ⟨document, run.registry⟩ node name typeName) :=
    Check.validatorOf_keeps h hrun.names hreach name typeName
  obtain ⟨hconfined, herrors⟩ := hkeeps ⟨0, run.needsPatterns, run.notices⟩ hrun.notices
  dsimp only [Run.validator]
  rcases hcompiled : (Check.validatorOf ⟨document, run.registry⟩ node name typeName).run.run
    ⟨0, run.needsPatterns, run.notices⟩ with ⟨error | validator, progress⟩
  · rw [hcompiled] at hconfined
    refine .bind (.set ⟨hrun.names, hconfined⟩) fun _ => ?_
    exact .throw (hemit error (herrors error progress hcompiled))
  · rw [hcompiled] at hconfined
    exact .map (.set ⟨hrun.names, hconfined⟩)

/-- **Generating the entry of a pointer stays within the confines** if the node at the pointer is one
of theirs. -/
theorem entry_keeps (h : confines.Kept document)
    (hemit : ∀ error, confines.errors error → errors (.emit error))
    (hnode : ∀ node, nodeOf document pointer = .ok node →
      confines.reach node ∧ Room confines.errors (TypeDecl.fuelFor document) 1 [node])
    (hunread : ∀ error, nodeOf document pointer = .error error → errors error)
    (hunnamed : confines.unnamed pointer → errors (.emit (.unnamed pointer))) :
    Keeps (Confined confines) errors (entry document pointer) := by
  refine .get_bind fun run hrun => ?_
  dsimp only
  cases htype : run.registry.typeName? pointer with
  | none => exact .throw (hunnamed (hrun.names pointer (.inl htype)))
  | some typeName =>
    cases hvalidator : run.registry.validatorName? pointer with
    | none => exact .throw (hunnamed (hrun.names pointer (.inr hvalidator)))
    | some validatorName =>
      refine .bind_gives (.lift hunread) fun s node s' _ hgives => ?_
      obtain ⟨hreach, hroom⟩ := hnode node (Gives.lift_iff.1 hgives).1
      refine .bind (.modify fun _ hs => ⟨hs.names, hs.notices.append trivial⟩) fun _ => ?_
      refine .bind (compileTypes_keeps h hemit hreach hroom _) fun _ => ?_
      exact .map (compileValidator_keeps h hemit hreach _ _)

end Module

end SchemaGuard
