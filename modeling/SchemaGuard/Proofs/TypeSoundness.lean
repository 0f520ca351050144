import SchemaGuard.Proofs.Bindings
import SchemaGuard.Proofs.Inhabitation

/-!
# Values that pass are of the declared type

**Theorem (`runValidator_inhabits`).** In a generated module without an `allOf` that can be reached, a
value that a validator gives back is of the type that is declared for its pointer.

Types and checks are compiled apart, so the two are compared node by node (`allCover`): a value that
satisfies a node is of the type compiled for it, given that references are followed alike on both
sides. A named reference is a name on the one side and a call on the other, and calls are taken care
of by induction on how many are inside each other. Everything else is what compiling a type leaves
behind: objects are declared under names of their own, and stay declared.
-/

namespace SchemaGuard

/-- What the types and the checks of some nodes are compared in: the document and the names of its
pointers, what names are declared as, the nodes in question, and what references ask for when so
many may be expanded. -/
structure Scene where
  document : Json
  types : Table String
  declared : String → Option TypeDecl
  reach : Node → Prop
  refs : Nat → String → Value → Prop

/-- The nodes in question are closed under parts and expansions and have no `allOf` among them, the
properties of objects are marked as required when they are, and references ask for values of their
types. -/
structure Scene.Sound (scene : Scene) : Prop where
  free : BuiltinsFree scene.declared
  keys : ∀ {name own fields}, scene.declared name = some (.dict own fields) →
    ∀ field ∈ fields, TypeDecl.keyOf own fields field = field.name
  part : ∀ {node part : Node}, scene.reach node → node.HasPart part → scene.reach part
  expansion : ∀ {origin target node}, scene.reach (.ref origin target) →
    scene.types.get? target = none → leadsTo scene.document target = some node → scene.reach node
  required : ∀ {origin properties required additional limits},
    scene.reach (.object origin (some properties) required additional limits) →
    ∀ property ∈ properties, property.required = required.contains property.name
  noAllOf : ∀ {origin branches}, ¬scene.reach (.combinator origin .allOf branches)
  named : ∀ {depth target name value}, scene.types.get? target = some name →
    scene.refs depth target value → Inhabits scene.declared (.name name) value
  expanded : ∀ {depth target node value}, scene.types.get? target = none →
    leadsTo scene.document target = some node → scene.refs depth target value →
    ∃ inner, Satisfies (scene.refs inner) node value

namespace TypeDecl

variable {scene : Scene}

/-- The names of pointers are those of the scene, and what was hoisted so far is declared there. -/
structure Fits (scene : Scene) (s : Progress) : Prop where
  types : s.registry.types = scene.types
  hoisted : ∀ declaration ∈ s.hoisted, scene.declared declaration.name = some declaration

/-- What fits later fitted before. -/
def fitting (scene : Scene) : Condition where
  holds := Fits scene
  earlier {s s'} hlater h := by
    obtain ⟨added, hadded, -⟩ := hlater.hoisted
    refine ⟨hlater.grown.types_eq.symm.trans h.types, fun declaration hmem =>
      h.hoisted declaration ?_⟩
    rw [hadded]
    exact List.mem_append_left _ hmem

/-! ## One node after another -/

/-- Every value that satisfies a node is of a type. -/
def Covers (scene : Scene) (node : Node) (type : TypeExpr) : Prop :=
  ∀ depth value, Satisfies (scene.refs depth) node value → Inhabits scene.declared type value

/-- A field is that of a property. -/
structure FieldOf (scene : Scene) (property : Property Node) (field : Field) : Prop where
  name_eq : field.name = property.name
  required_eq : field.required = property.required
  covers : Covers scene property.node field.type

/-- All functions that compile types give types that cover, at some fuel. -/
structure AllCover (scene : Scene) (pointer : String) (fuel : Nat) : Prop where
  typeOf : ∀ opened node base, scene.reach node →
    Ensures (fitting scene) (typeOf ⟨scene.document, pointer⟩ fuel opened node base)
      (Covers scene node)
  typesOf : ∀ opened base nodes, (∀ node ∈ nodes, scene.reach node) →
    Ensures (fitting scene) (typesOf ⟨scene.document, pointer⟩ fuel opened base nodes)
      (List.Forall₂ (Covers scene) nodes)
  dictOf : ∀ opened name properties, (∀ property ∈ properties, scene.reach property.node) →
    Ensures (fitting scene) (dictOf ⟨scene.document, pointer⟩ fuel opened name properties)
      fun declaration =>
      ∃ fields, declaration = .dict name fields ∧ List.Forall₂ (FieldOf scene) properties fields
  hoist : ∀ opened properties base, (∀ property ∈ properties, scene.reach property.node) →
    Ensures (fitting scene) (hoist ⟨scene.document, pointer⟩ fuel opened properties base)
      fun type =>
      ∃ name fields, type = .name name ∧ scene.declared name = some (.dict name fields) ∧
        List.Forall₂ (FieldOf scene) properties fields

theorem exists_left_of_forall₂ {α β : Type} {r : α → β → Prop} {as : List α} {bs : List β}
    (h : List.Forall₂ r as bs) {position : Nat} {b : β} (hb : bs[position]? = some b) :
    ∃ a, as[position]? = some a ∧ r a b := by
  induction h generalizing position with
  | nil => cases hb
  | cons hr _ ih =>
    cases position with
    | zero =>
      cases hb
      exact ⟨_, rfl, hr⟩
    | succ position => exact ih hb

section Cases

variable (hsound : scene.Sound)
include hsound

variable {origin : Origin} {name : String} {types : List TypeExpr}

/-- An object is of a declared dictionary type whose fields are those of its properties. -/
theorem covers_object {properties : List (Property Node)} {required : List String}
    {additional : Additional Node} {limits : ObjectLimits} {own : String} {fields : List Field}
    (hreach : scene.reach (.object origin (some properties) required additional limits))
    (hdeclared : scene.declared name = some (.dict own fields))
    (hfields : List.Forall₂ (FieldOf scene) properties fields) :
    Covers scene (.object origin (some properties) required additional limits) (.name name) := by
  intro depth value hsat
  obtain ⟨members, hmembers, -, hrequired, hproperties, -⟩ := satisfies_object.1 hsat
  have hproperty : ∀ field ∈ fields, ∃ property ∈ properties, FieldOf scene property field := by
    intro field hmem
    obtain ⟨position, hposition⟩ := List.mem_iff_getElem?.1 hmem
    obtain ⟨property, hget, hfield⟩ := exists_left_of_forall₂ hfields hposition
    exact ⟨property, List.mem_of_getElem? hget, hfield⟩
  have hkey : ∀ key field, fieldAt? own fields key = some field → key = field.name ∧
      ∃ property ∈ properties, FieldOf scene property field := by
    intro key field hfield
    obtain ⟨hmem, rfl⟩ := mem_of_fieldAt? hfield
    exact ⟨hsound.keys hdeclared field hmem, hproperty field hmem⟩
  refine .record hdeclared hsound.free.base (fun _ _ _ => hsound.free.mark) hmembers
    (fun key field hfield hmarked => ?_) fun key field hfield member hget => ?_
  · obtain ⟨rfl, property, hlisted, hof⟩ := hkey key field hfield
    rw [hof.required_eq, hsound.required hreach property hlisted, List.contains_iff_mem] at hmarked
    rw [hof.name_eq]
    exact hrequired _ hmarked
  · obtain ⟨rfl, property, hlisted, hof⟩ := hkey key field hfield
    rw [hof.name_eq] at hget
    exact hof.covers depth member (satisfiesDeclared_iff.1 hproperties property hlisted member hget)

theorem covers_branches {kind : Combinator} {branches : List Node} (hkind : kind ≠ .allOf)
    (htypes : List.Forall₂ (Covers scene) branches types) :
    Covers scene (.combinator origin kind branches) (.unionOf types) := by
  intro depth value hsat
  have hsome : branches = [] ∨ SatisfiesSome (scene.refs depth) branches value := by
    cases kind with
    | allOf => exact (hkind rfl).elim
    | oneOf => exact Or.imp_right SatisfiesOne.some hsat
    | anyOf => exact hsat
  refine inhabits_unionOf hsound.free.any ?_
  rcases hsome with rfl | hsome
  · cases htypes
    exact .inl rfl
  · obtain ⟨branch, hmem, hbranch⟩ := satisfiesSome_iff.1 hsome
    obtain ⟨position, hposition⟩ := List.mem_iff_getElem?.1 hmem
    obtain ⟨type, htype, hcovers⟩ := exists_left_of_forall₂ htypes.flip hposition
    exact .inr ⟨type, List.mem_of_getElem? htype, hcovers depth value hbranch⟩

variable {nodes : List Node}

omit hsound in
/-- Items at fixed positions are of the types of their positions. -/
theorem inhabits_positions {elements : List Value} {depth : Nat}
    (htypes : List.Forall₂ (Covers scene) nodes types)
    (heach : SatisfiesEach (scene.refs depth) nodes elements) (position : Nat) (type : TypeExpr)
    (item : Value) (htype : types[position]? = some type) (hitem : elements[position]? = some item)
    : Inhabits scene.declared type item := by
  obtain ⟨node, hnode, hcovers⟩ := exists_left_of_forall₂ htypes htype
  exact hcovers depth item (satisfiesEach_iff.1 heach position node item hnode hitem)

theorem covers_closed {origin : Origin} {items : Items Node} {leading : Option (List Node)}
    {limits : ArrayLimits} {nodes : List Node} {types : List TypeExpr}
    (hlayout : ∀ refs elements, SatisfiesLayout refs items leading elements →
      elements.length = nodes.length ∧ SatisfiesEach refs nodes elements)
    (htypes : List.Forall₂ (Covers scene) nodes types) :
    Covers scene (.array origin items leading limits) (.tuple types none) := by
  intro depth value hsat
  obtain ⟨elements, helements, hfits, -⟩ := satisfies_array.1 hsat
  obtain ⟨hlength, heach⟩ := hlayout _ _ hfits
  exact .tuple hsound.free.tuple helements (hlength.trans htypes.length_eq)
    (inhabits_positions htypes heach)

variable {limits : ArrayLimits} {pointer : String} {fuel : Nat}

/-- Positions with a rest; without positions there is only the rest. -/
theorem covers_rest {rest : Node} {type : TypeExpr}
    (htypes : List.Forall₂ (Covers scene) nodes types) (hrest : Covers scene rest type) :
    Covers scene (.array origin (.all rest) (some nodes) limits)
      (if types.isEmpty then .list type else .tuple types (some type)) := by
  intro depth value hsat
  obtain ⟨elements, helements, ⟨hlength, heach, hothers⟩, -⟩ := satisfies_array.1 hsat
  rw [htypes.length_eq] at hlength hothers
  cases types with
  | nil =>
    exact .list hsound.free.list helements fun item hitem => hrest depth item (hothers item hitem)
  | cons first types =>
    exact .tupleRest hsound.free.tuple helements hlength (inhabits_positions htypes heach)
      fun item hitem => hrest depth item (hothers item hitem)

/-- The type of an array covers it. -/
theorem covers_array (ih : AllCover scene pointer fuel) {items : Items Node}
    {leading : Option (List Node)} (hreach : scene.reach (.array origin items leading limits))
    (opened : List String) (base : String) :
    Ensures (fitting scene) (typeOf ⟨scene.document, pointer⟩ (fuel + 1) opened
      (.array origin items leading limits) base)
      (Covers scene (.array origin items leading limits)) := by
  have hmoves := allMove ⟨scene.document, pointer⟩ fuel
  unfold TypeDecl.typeOf
  dsimp only
  cases leading with
  | some nodes =>
    have hnodes := ih.typesOf opened (base ++ "Item") nodes fun node hmem =>
      hsound.part hreach (.leading hmem)
    cases items with
    | all rest =>
      refine .bind hnodes (fun _ => .bind (hmoves.typeOf _ _ _) fun _ => .pure _)
        fun types htypes => ?_
      exact .map (ih.typeOf _ rest _ (hsound.part hreach .item)) fun type htype =>
        covers_rest hsound htypes htype
    | each | absent =>
      exact .map hnodes fun types htypes => covers_closed hsound (fun _ _ h => h) htypes
  | none =>
    cases items with
    | each nodes =>
      exact .map (ih.typesOf opened _ nodes fun node hmem => hsound.part hreach (.listed hmem))
        fun types htypes => covers_closed hsound (fun _ _ h => h) htypes
    | all node =>
      refine .map (ih.typeOf _ node _ (hsound.part hreach .item))
        fun type htype depth value hsat => ?_
      obtain ⟨elements, helements, hitems, -⟩ := satisfies_array.1 hsat
      exact .list hsound.free.list helements fun item hitem =>
        htype depth item (hitems item hitem)
    | absent =>
      refine .pure fun depth value hsat => ?_
      obtain ⟨elements, helements, -⟩ := satisfies_array.1 hsat
      exact .list hsound.free.list helements fun _ _ => .any hsound.free.any

/-- The type of a reference covers it: its name, or the type of what it is expanded to. -/
theorem covers_ref (ih : AllCover scene pointer fuel) {target : String}
    (hreach : scene.reach (.ref origin target)) (opened : List String) (base : String) :
    Ensures (fitting scene) (typeOf ⟨scene.document, pointer⟩ (fuel + 1) opened
      (.ref origin target) base) (Covers scene (.ref origin target)) := by
  have hmoves := allMove ⟨scene.document, pointer⟩ fuel
  have hexpand : ∀ node, Moves (match node with
      | none => (return .any : Compile TypeExpr)
      | some resolved =>
        typeOf ⟨scene.document, pointer⟩ fuel (target :: opened) resolved base) := by
    intro node
    cases node with
    | none => exact .pure _
    | some resolved => exact hmoves.typeOf _ _ _
  unfold TypeDecl.typeOf
  refine .bind .get (fun progress => ?_) fun progress hfits => ?_
  · split
    · exact .pure _
    · exact .bind (.expand _ _ _ _) hexpand
  · have htypes : progress.registry.typeName? target = scene.types.get? target := by
      rw [Registry.typeName?, hfits.types]
    rw [htypes]
    cases hname : scene.types.get? target with
    | some name => exact .pure fun depth value hsat => hsound.named hname hsat
    | none =>
      refine .bind (.of_gives fun _ _ _ h => (expand_gives h).1) hexpand fun node hnode => ?_
      cases node with
      | none => exact .pure fun depth value _ => .any hsound.free.any
      | some resolved =>
        intro s type s' hgives hfits' depth value hsat
        obtain ⟨inner, hinner⟩ := hsound.expanded hname hnode hsat
        exact ih.typeOf _ resolved _ (hsound.expansion hreach hname hnode) _ _ _ hgives hfits'
          inner value hinner

theorem AllCover.succ (ih : AllCover scene pointer fuel) : AllCover scene pointer (fuel + 1) where
  typeOf opened node base hreach := by
    cases node with
    | unknown origin => exact .pure fun depth value _ => .any hsound.free.any
    | const origin expected => exact .pure fun depth value hsat => inhabits_ofConst hsound.free hsat
    | enum origin allowed => exact .pure fun depth value hsat => inhabits_ofEnum hsound.free hsat
    | combinator origin kind branches =>
      have hbranches := ih.typesOf opened (base ++ "Option") branches fun branch hmem =>
        hsound.part hreach (.branch hmem)
      cases kind with
      | allOf => exact (hsound.noAllOf hreach).elim
      | oneOf =>
        exact .map hbranches fun types htypes => covers_branches hsound nofun htypes
      | anyOf =>
        exact .map hbranches fun types htypes => covers_branches hsound nofun htypes
    | ref origin target => exact covers_ref hsound ih hreach opened base
    | primitive origin type =>
      exact .pure fun depth value hsat => inhabits_ofPrimitive hsound.free hsat
    | union origin types =>
      exact .pure fun depth value hsat => inhabits_ofTypeNames hsound.free hsat
    | array origin items leading limits => exact covers_array hsound ih hreach opened base
    | object origin properties required additional limits =>
      cases properties with
      | some properties =>
        intro s type s' hgives hfits
        obtain ⟨name, fields, rfl, hdeclared, hfields⟩ := ih.hoist opened properties base
          (fun property hmem => hsound.part hreach (.property hmem)) _ _ _ hgives hfits
        exact covers_object hsound hreach hdeclared hfields
      | none =>
        cases additional with
        | schema node =>
          refine .map (ih.typeOf opened node (base ++ "Value") (hsound.part hreach .additional))
            fun type htype depth value hsat => ?_
          obtain ⟨members, hmembers, -, -, -, hothers⟩ := satisfies_object.1 hsat
          exact .dict hsound.free.dict hsound.free.text hmembers fun name member hget =>
            htype depth member (hothers name member hget List.not_mem_nil)
        | value raw =>
          refine .pure fun depth value hsat => ?_
          obtain ⟨members, hmembers, -⟩ := satisfies_object.1 hsat
          exact .dict hsound.free.dict hsound.free.text hmembers fun _ _ _ => .any hsound.free.any
  typesOf opened base nodes hreach := by
    intro s types s' hgives hfits
    have hzipped : List.Forall₂ (fun entry : Node × Nat => Covers scene entry.1)
      nodes.zipIdx types := by
      refine Ensures.mapM (fun _ => (allMove _ _).typeOf _ _ _) (fun entry hmem => ?_) s types
        s' hgives hfits
      exact ih.typeOf _ entry.1 _ (hreach _ (List.fst_mem_of_mem_zipIdx hmem))
    rw [← List.forall₂_map_left_iff, List.zipIdx_map_fst] at hzipped
    exact hzipped
  dictOf opened name properties hreach := by
    unfold TypeDecl.dictOf
    have hfields : ∀ property ∈ properties, Ensures (fitting scene) (do
        let type ← TypeDecl.typeOf ⟨scene.document, pointer⟩ fuel opened property.node
          (name ++ Name.ofText property.name)
        return { name := property.name, type, required := property.required : Field })
        (FieldOf scene property) := fun property hmem =>
      .map (ih.typeOf _ property.node _ (hreach property hmem)) fun type htype => ⟨rfl, rfl, htype⟩
    exact .map (.mapM (fun _ => .bind ((allMove _ _).typeOf _ _ _) fun _ => .pure _) hfields)
      fun fields h => ⟨fields, rfl, h⟩
  hoist opened properties base hreach := by
    intro s type s' hgives hfits
    obtain ⟨declaration, t, hdict, rfl, rfl⟩ := hoist_gives hgives
    have hdeclared := hfits.hoisted declaration (by simp)
    have hbefore : Fits scene t :=
      ⟨hfits.types, fun hidden hmem => hfits.hoisted hidden (by simp [hmem])⟩
    obtain ⟨fields, rfl, hfields⟩ := ih.dictOf _ _ properties hreach _ _ _ hdict hbefore
    exact ⟨_, fields, rfl, hdeclared, hfields⟩

theorem allCover (pointer : String) (fuel : Nat) : AllCover scene pointer fuel := by
  induction fuel with
  | zero =>
    constructor
    all_goals
      intros
      intro s a s' hgives
      simp [TypeDecl.typeOf, TypeDecl.typesOf, TypeDecl.dictOf, TypeDecl.hoist] at hgives
  | succ fuel ih => exact ih.succ hsound

/-- **A value that satisfies a node is of the type declared for it.** -/
theorem declare_covers {opened : List String} {node : Node} {s s' : Progress}
    {declaration : TypeDecl} (hreach : scene.reach node)
    (hgives : Gives (declare ⟨scene.document, pointer⟩ fuel opened node name) s declaration s')
    (hfits : Fits scene s') (hdeclared : scene.declared name = some declaration) :
    Covers scene node (.name name) := by
  cases fuel with
  | zero => simp [TypeDecl.declare] at hgives
  | succ fuel =>
    have hcover := allCover hsound pointer fuel
    have hsynonym : Gives
      (do return .synonym name (← TypeDecl.typeOf ⟨scene.document, pointer⟩ fuel opened
        node name)) s declaration s' → Covers scene node (.name name) := by
      intro h
      simp only [Gives.bind_iff, Gives.pure_iff] at h
      obtain ⟨type, _, htype, rfl, rfl⟩ := h
      exact fun depth value hsat =>
        .synonym hdeclared (hcover.typeOf _ node _ hreach _ _ _ htype hfits depth value hsat)
    rw [TypeDecl.declare.eq_def] at hgives
    dsimp only at hgives
    split at hgives
    · obtain ⟨fields, rfl, hfields⟩ := hcover.dictOf _ _ _
        (fun property hmem => hsound.part hreach (.property hmem)) _ _ _ hgives hfits
      exact covers_object hsound hreach hdeclared hfields
    · exact (hsound.noAllOf hreach).elim
    · exact hsynonym hgives

end Cases

end TypeDecl

/-! ## Runs -/

namespace Check

/-- Findings that come to their end without a report. -/
def Findings.IsClear (findings : Findings) : Prop := findings.reports = [] ∧ findings.fault = none

variable {p : Prop}

/-- Findings that decide anything decide whether they are clear. -/
theorem Findings.Decide.isClear {findings : Findings} (h : findings.Decide p) :
    findings.Decide findings.IsClear := by
  refine ⟨fun issues hmem => ⟨(h.refuted issues hmem).1, fun hclear => ?_⟩,
    fun hnil hnone => ⟨hnil, hnone⟩⟩
  rw [hclear.1] at hmem
  cases hmem

/-- Calls that return give the value back or have some issue. -/
def Call.Proper (call : Call) : Prop :=
  ∀ name value outcome, call name value = .ok outcome →
    outcome.Tells value (outcome.isFailure = false)

variable {value : Value}

theorem Outcome.Tells.proper {outcome : Outcome} (h : outcome.Tells value p) :
    outcome.Tells value (outcome.isFailure = false) := by
  rcases h with ⟨-, rfl⟩ | ⟨-, issue, issues, rfl⟩
  · exact .inl ⟨rfl, rfl⟩
  · exact .inr ⟨nofun, issue, issues, rfl⟩

theorem Outcome.Tells.of_success {passed : Value} (h : (Outcome.success passed).Tells value p) :
    p := by
  rcases h with ⟨hp, -⟩ | ⟨-, _, _, hfails⟩
  · exact hp
  · cases hfails

/-- What references ask for by what is found about them. -/
def clearRefs (place : Place) (call : Call) (fuel : Nat) (ref : String) (value : Value) : Prop :=
  (refFindings place call fuel ref value).IsClear

section Runs

variable {place : Place} {validators : List Validator} {abortEarly : Bool}

theorem clearRefs_decide {call : Call} (hcall : call.Proper) (fuel : Nat) (ref : String)
    (value : Value) :
    (refFindings place call fuel ref value).Decide (clearRefs place call fuel ref value) := by
  induction fuel generalizing ref value with
  | zero => exact (Findings.Decide.broken _ True).isClear
  | succ fuel ih =>
    unfold clearRefs
    rw [refFindings]
    split
    · rename_i name _
      cases hresult : call name value with
      | error fault => exact (Findings.Decide.broken fault True).isClear
      | ok outcome =>
        have htells : ∀ returned, .ok outcome = (.ok returned : Except Fault Outcome) →
            returned.Tells value (outcome.isFailure = false) := by
          rintro _ ⟨⟩
          exact hcall name value outcome hresult
        exact (ofCall_decide htells).isClear
    · split
      · exact (findings_decide ih _ value).isClear
      · exact (Findings.Decide.clear trivial).isClear

/-- What a run of the validator of a pointer tells: whether the value satisfies the node of the
pointer, as far as calls and expansions go. -/
theorem runAs_tells {fuel : Nat} {name : String} {value : Value} {outcome : Outcome} {node : Node}
    {validator : Validator} {own typeName : String} {s s' : Progress}
    (hcall : Call.Proper (runAs .plain validators abortEarly fuel))
    (hfound : validatorNamed? validators name = some validator)
    (hgives : Gives (validatorOf place node own typeName) s validator s')
    (hrun : runAs .plain validators abortEarly (fuel + 1) name value = .ok outcome) :
    outcome.Tells value (Satisfies (clearRefs place (runAs .plain validators abortEarly fuel)
      (fuelFor place.document)) node value) := by
  rw [runAs, hfound] at hrun
  dsimp only at hrun
  rw [validatorOf_run _ _ hgives] at hrun
  exact (findings_decide (clearRefs_decide hcall _) node value).tells hrun

theorem runAs_proper (place : Place) (hmade : ∀ validator ∈ validators, ∃ node own typeName s s',
      Gives (validatorOf place node own typeName) s validator s') (fuel : Nat) :
    Call.Proper (runAs .plain validators abortEarly fuel) := by
  induction fuel with
  | zero =>
    intro name value outcome hrun
    cases hrun
  | succ fuel ih =>
    intro name value outcome hrun
    cases hfound : validatorNamed? validators name with
    | none =>
      rw [runAs, hfound] at hrun
      cases hrun
    | some validator =>
      obtain ⟨node, own, typeName, s, s', hgives⟩ :=
        hmade validator (mem_of_validatorNamed? hfound).1
      exact (runAs_tells ih hfound hgives hrun).proper

end Runs

end Check

/-! ## Modules -/

/-- The nodes that can be reached from some pointers: at the pointers, in other nodes, and where
references lead. -/
inductive Check.Place.Reachable (place : Check.Place) (pointers : List String) : Node → Prop where
  | pointer {pointer : String} {node : Node} (hmem : pointer ∈ pointers)
      (hnode : Module.nodeOf place.document pointer = .ok node) : Reachable place pointers node
  | part {node part : Node} (h : Reachable place pointers node) (hpart : node.HasPart part) :
      Reachable place pointers part
  | target {origin : Origin} {ref : String} {node : Node}
      (h : Reachable place pointers (.ref origin ref))
      (htarget : place.target? ref = some node) : Reachable place pointers node

variable {pointers : List String}

theorem Check.Place.Reachable.readFrom {place : Check.Place} {node : Node}
    (h : place.Reachable pointers node) : Schema.ReadFrom place.document node := by
  induction h with
  | pointer _ hnode => exact Module.nodeOf_readFrom hnode
  | part _ hpart ih => exact ih.part hpart
  | target _ htarget _ => exact target?_readFrom htarget

namespace Module

variable {document : Json} {schemaPath : String} {targets : List Target}
  {module : Module} {run : Run}

/-- The names that a module uses and does not bind, in its validators and in its types. -/
def usedNames : List String :=
  Check.Helper.all.map (·.name) ++ ["float", "Any", "Literal", "NotRequired", "TypedDict"]

/-- Names are not changed by being bound: different ones among those that a module binds and those
that it uses stay different, and the fields of its classes are found under their names. -/
structure NamesKept (module : Module) : Prop where
  apart : Apart (module.boundNames ++ usedNames)
  fields : ∀ own fields, .dict own fields ∈ module.entries.flatMap (·.declarations) →
    ∀ field ∈ fields, TypeDecl.keyOf own fields field = field.name

theorem Apart.mono {names others : List String} (h : Apart others) (hsub : names ⊆ others) :
    Apart names :=
  fun name hname other hother => h name (hsub hname) other (hsub hother)

theorem NamesKept.bound (h : module.NamesKept) : Apart module.boundNames :=
  Apart.mono h.apart (List.subset_append_left _ _)

theorem NamesKept.namesApart (h : module.NamesKept) : module.NamesApart where
  validators := by
    refine Apart.mono h.bound fun name hname => ?_
    obtain ⟨validator, hvalidator, rfl⟩ := List.mem_map.1 hname
    obtain ⟨entry, hentry, rfl⟩ := List.mem_map.1 hvalidator
    exact List.mem_append_right _ (List.mem_flatMap.2 ⟨entry, hentry, List.mem_cons_self⟩)
  types := Apart.mono h.apart (List.append_subset.2
    ⟨List.Subset.trans (List.subset_append_left _ _) (List.subset_append_left _ _),
      List.Subset.trans (List.subset_append_left _ _) (List.subset_append_right _ _)⟩)

/-- No declaration is bound to a name that the module uses. -/
theorem normalForm_ne_used {name used : String}
    (hgenerated : ofDocument document schemaPath targets = (.ok module, run))
    (hbuiltin : ∀ name ∈ declaredNames module.entries, name ∉ Check.builtinNames)
    (hkept : module.NamesKept) (hdeclared : name ∈ declaredNames module.entries)
    (hused : used ∈ usedNames)
    (hknown : Registry.isReserved used = true ∨ used ∈ Check.builtinNames) :
    Text.normalForm name ≠ Text.normalForm used := by
  intro hnormal
  obtain rfl := hkept.apart _ (List.mem_append_left _ (List.mem_append_left _ hdeclared)) _
    (List.mem_append_right _ hused) hnormal
  rcases hknown with hreserved | hmem
  · rw [(declared_nodup hgenerated).2 _ hdeclared] at hreserved
    cases hreserved
  · exact hbuiltin _ hdeclared hmem

/-- Nothing is declared under the names that types are made with. -/
theorem builtinsFree (hgenerated : ofDocument document schemaPath targets = (.ok module, run))
    (hbuiltin : ∀ name ∈ declaredNames module.entries, name ∉ Check.builtinNames)
    (hkept : module.NamesKept) : BuiltinsFree module.typeNamed? := by
  have hfree : ∀ name ∈ usedNames, Registry.isReserved name = true ∨ name ∈ Check.builtinNames →
      module.typeNamed? name = none := by
    intro name hused hknown
    refine Option.eq_none_iff_forall_ne_some.2 fun declaration hfound => ?_
    obtain ⟨hmem, hnormal⟩ := declared_of_typeNamed? hfound
    exact normalForm_ne_used hgenerated hbuiltin hkept (List.mem_map_of_mem hmem) hused hknown hnormal
  constructor
  all_goals exact hfree _ (by decide) (by decide)

/-- The scene of a module in which calls may be so deep inside each other. -/
def sceneAt (module : Module) (place : Check.Place) (abortEarly : Bool) (fuel : Nat) : Scene where
  document := place.document
  types := place.registry.types
  declared := module.typeNamed?
  reach := place.Reachable (module.entries.map (·.pointer))
  refs := Check.clearRefs place (Check.runAs .plain module.functions abortEarly fuel)

/-- Values that calls give back are of the types of their pointers. -/
def CallsInhabit (module : Module) (registry : Registry) (call : Check.Call) : Prop :=
  ∀ pointer name typeName value passed, registry.validatorName? pointer = some name →
    registry.typeName? pointer = some typeName → call name value = .ok (.success passed) →
    Inhabits module.typeNamed? (.name typeName) value

section Soundness

variable (hgenerated : ofDocument document schemaPath targets = (.ok module, run))
  (hbuiltin : ∀ name ∈ declaredNames module.entries, name ∉ Check.builtinNames)
  (hkept : module.NamesKept)
  (hnoAllOf : ∀ origin branches, ¬Check.Place.Reachable ⟨document, run.registry⟩
    (module.entries.map (·.pointer)) (.combinator origin .allOf branches))
include hgenerated hbuiltin hkept hnoAllOf

theorem sceneAt_sound {abortEarly : Bool} {fuel : Nat}
    (hproper : Check.Call.Proper (Check.runAs .plain module.functions abortEarly fuel))
    (hcalls : module.CallsInhabit run.registry
      (Check.runAs .plain module.functions abortEarly fuel)) :
    (module.sceneAt ⟨document, run.registry⟩ abortEarly fuel).Sound where
  free := builtinsFree hgenerated hbuiltin hkept
  keys hdeclared := hkept.fields _ _ (declared_of_typeNamed? hdeclared).1
  part := .part
  expansion {origin target node} hreach hname hleads := by
    refine .target hreach ?_
    simp only [Check.Place.target?, (typeName?_eq_none_iff hgenerated target).1 hname]
    exact hleads
  required hreach property hmem := hreach.readFrom.required_eq hmem
  noAllOf := hnoAllOf _ _
  named {depth target name value} hname hclear := by
    cases depth with
    | zero => cases hclear.2
    | succ depth =>
      cases hvalidator : run.registry.validatorName? target with
      | none =>
        have hnone := (typeName?_eq_none_iff hgenerated target).2 hvalidator
        rw [Registry.typeName?, show run.registry.types.get? target = some name from hname] at hnone
        cases hnone
      | some validator =>
        simp only [sceneAt, Check.clearRefs, Check.refFindings, hvalidator] at hclear
        cases hcall : Check.runAs .plain module.functions abortEarly fuel validator value with
        | error fault =>
          rw [hcall] at hclear
          cases hclear.2
        | ok outcome =>
          cases outcome with
          | success passed => exact hcalls target validator name value passed hvalidator hname hcall
          | failure issues =>
            rw [hcall] at hclear
            cases hclear.1
  expanded {depth target node value} hname hleads hclear := by
    cases depth with
    | zero => cases hclear.2
    | succ depth =>
      have hvalidator := (typeName?_eq_none_iff hgenerated target).1 hname
      have hleads' : leadsTo document target = some node := hleads
      simp only [sceneAt, Check.clearRefs, Check.refFindings, hvalidator, hleads'] at hclear
      exact ⟨depth, (Check.findings_decide (Check.clearRefs_decide hproper depth) node
        value).verified hclear.1 hclear.2⟩

/-- **Values that validators give back are of the declared types.** The induction is on how many
calls may be inside each other. -/
theorem runAs_inhabits (abortEarly : Bool) (fuel : Nat) :
    module.CallsInhabit run.registry (Check.runAs .plain module.functions abortEarly fuel) := by
  obtain ⟨-, hmade⟩ := madeBy hgenerated
  have hproper : ∀ fuel,
    Check.Call.Proper (Check.runAs .plain module.functions abortEarly fuel) := by
    refine Check.runAs_proper ⟨document, run.registry⟩ fun validator hmem => ?_
    obtain ⟨entry, hentry, rfl⟩ := List.mem_map.1 (functions_subset hmem)
    obtain ⟨node, hnode⟩ := hmade entry hentry
    exact ⟨node, _, _, hnode.validator_gives⟩
  induction fuel with
  | zero =>
    intro pointer name typeName value passed _ _ hrun
    cases hrun
  | succ fuel ih =>
    intro pointer name typeName value passed hname htype hrun
    cases hfound : Check.validatorNamed? module.functions name with
    | none =>
      rw [Check.runAs, hfound] at hrun
      cases hrun
    | some validator =>
      obtain ⟨node, _, _, _, hnode, hgives⟩ :=
        gives_of_validatorNamed? hgenerated hkept.namesApart.validators hname hfound
      have hsat := (Check.runAs_tells (hproper fuel) hfound hgives hrun).of_success
      obtain ⟨entry, hentry, rfl⟩ := entry_of_validatorName? hgenerated hname
      obtain ⟨node', hentryMade⟩ := hmade entry hentry
      obtain ⟨s, declaration, s', -, hgrown, hdeclare, hdeclarations⟩ :=
        hentryMade.declarations_give
      obtain rfl : node' = node := Except.ok.inj (hentryMade.node_eq.symm.trans hnode)
      obtain rfl : entry.typeName = typeName :=
        Option.some.inj (hentryMade.typeName_eq.symm.trans htype)
      have hdeclared : ∀ other ∈ s'.hoisted ++ [declaration],
        module.typeNamed? other.name = some other := by
        intro other hmem
        refine typeNamed?_eq hgenerated hkept.bound (List.mem_flatMap.2 ⟨entry, hentry, ?_⟩)
        rw [hdeclarations]
        exact hmem
      have hsound := sceneAt_sound hgenerated hbuiltin hkept hnoAllOf (hproper fuel) ih
      have hfits : TypeDecl.Fits (module.sceneAt ⟨document, run.registry⟩ abortEarly fuel) s' :=
        ⟨hgrown.types_eq.symm, fun hidden hmem => hdeclared hidden (List.mem_append_left _ hmem)⟩
      refine TypeDecl.declare_covers hsound (.pointer (List.mem_map_of_mem hentry) hnode) hdeclare
        hfits ?_ _ _ hsat
      rw [← TypeDecl.declare_name hdeclare]
      exact hdeclared declaration (by simp)

end Soundness

end Module

/-! ## Documents without `allOf` -/

/-- Whether less than so many nodes are inside each other in a node, and none of them is an `allOf`.
-/
def Node.isAllOfFree : Nat → Node → Bool
  | 0, _ => false
  | _ + 1, .combinator _ .allOf _ => false
  | depth + 1, node => node.parts.all (isAllOfFree depth)

/-- Whether there is no `allOf` at some pointers nor where the references of the document lead. -/
def Check.Place.isAllOfFree (place : Check.Place) (pointers : List String) (depth : Nat) : Bool :=
  (pointers.all fun pointer => (Module.nodeOf place.document pointer).toOption.all
    (·.isAllOfFree depth)) &&
  (Schema.refs place.document).all fun ref => (place.target? ref).all (·.isAllOfFree depth)

theorem Check.Place.not_reachable_allOf {place : Check.Place} {depth : Nat}
    (h : place.isAllOfFree pointers depth = true) (origin : Origin) (branches : List Node) :
    ¬place.Reachable pointers (.combinator origin .allOf branches) := by
  obtain ⟨hpointers, hrefs⟩ := Bool.and_eq_true_iff.1 h
  have hfree : ∀ {node}, place.Reachable pointers node → ∃ depth, node.isAllOfFree depth = true := by
    intro node h
    induction h with
    | pointer hmem hnode =>
      have hall := List.all_eq_true.1 hpointers _ hmem
      rw [hnode] at hall
      exact ⟨depth, hall⟩
    | part _ hpart ih =>
      obtain ⟨depth, hdepth⟩ := ih
      unfold Node.isAllOfFree at hdepth
      split at hdepth
      · cases hdepth
      · cases hdepth
      · exact ⟨_, List.all_eq_true.1 hdepth _ hpart.mem_parts⟩
    | target h htarget _ =>
      have hall := List.all_eq_true.1 hrefs _
        (deferred_subset_refs h.readFrom (List.mem_singleton_self _))
      rw [htarget] at hall
      exact ⟨depth, hall⟩
  intro hreach
  obtain ⟨depth, hdepth⟩ := hfree hreach
  cases depth <;> cases hdepth

namespace Module

/-- Whether the fields of classes are found under their names. -/
def keepsFields (module : Module) : Bool :=
  (module.entries.flatMap (·.declarations)).all fun
    | .dict own fields => fields.all fun field => TypeDecl.keyOf own fields field == field.name
    | .synonym _ _ => true

theorem keepsFields_iff {module : Module} : module.keepsFields = true ↔
    ∀ own fields, .dict own fields ∈ module.entries.flatMap (·.declarations) →
      ∀ field ∈ fields, TypeDecl.keyOf own fields field = field.name := by
  refine List.all_eq_true.trans ⟨fun h own fields hmem field hfield => ?_, fun h other hmem => ?_⟩
  · exact eq_of_beq (List.all_eq_true.1 (h _ hmem) field hfield)
  · cases other with
    | dict own fields =>
      exact List.all_eq_true.2 fun field hfield => beq_iff_eq.2 (h own fields hmem field hfield)
    | synonym name type => rfl

instance (module : Module) : Decidable module.NamesKept :=
  decidable_of_iff (Apart (module.boundNames ++ usedNames) ∧ module.keepsFields = true)
    ⟨fun h => ⟨h.1, keepsFields_iff.1 h.2⟩, fun h => ⟨h.apart, keepsFields_iff.2 h.fields⟩⟩

/-- Objects with one property, whose name is a ligature. -/
def ligatureSchema : Json := .object [("type", .string "object"),
  ("properties", .object [("\uFB01", .object [("type", .string "string")])]),
  ("required", .array [.string "\uFB01"])]

/-- Such an object. -/
def ligature : Value := .dict [("\uFB01", .string "x")]

end Module

end SchemaGuard
