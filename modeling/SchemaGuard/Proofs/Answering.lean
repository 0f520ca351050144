import SchemaGuard.Proofs.Expansion

/-!
# Which questions come up

Names are new in every state, so the same question gets different types at different times. Whether
it gets one at all is always the same, as long as the fuel is enough (`Answered.gives`). So what
comes up when a node is typed is what `AskedBy` says: if typing a node is not cut short, no chain of
questions from it is endless (`acc_of_done`).
-/

namespace SchemaGuard.TypeDecl

/-! ## Whether there is an answer does not depend on the state -/

/-- If a computation gives something in one state, another one gives something in every state, and
the names of pointers stay as they are. -/
def Alike {α β : Type} (types : Table String) (x : Compile α) (y : Compile β) : Prop :=
  ∀ s t, s.registry.types = types → t.registry.types = types → ∀ a s', Gives x s a s' →
    s'.registry.types = types ∧ ∃ b t', Gives y t b t' ∧ t'.registry.types = types

namespace Alike

variable {α β γ δ : Type} {types : Table String} {x : Compile α} {y : Compile β} {f : α → Compile γ}

theorem total (hx : ∀ s, (x.run.run s).2.registry.types = s.registry.types)
    (hy : ∀ t, ∃ b t', Gives y t b t' ∧ t'.registry.types = t.registry.types) :
    Alike types x y := by
  intro s t hs ht a s' hgives
  obtain ⟨b, t', hb, ht'⟩ := hy t
  have hs' := hx s
  rw [show x.run.run s = (.ok a, s') from hgives] at hs'
  exact ⟨hs'.trans hs, b, t', hb, ht'.trans ht⟩

theorem pure (a : α) (b : β) : Alike types (Pure.pure a : Compile α) (Pure.pure b : Compile β) :=
  total (fun _ => rfl) fun _ => ⟨_, _, rfl, rfl⟩

theorem throw (error : EmitError) (y : Compile β) :
    Alike types (MonadExcept.throw error : Compile α) y :=
  fun _ _ _ _ _ _ h => (Gives.throw_iff.1 h).elim

theorem bind {g : β → Compile δ} (h : Alike types x y) (hf : ∀ a b, Alike types (f a) (g b)) :
    Alike types (x >>= f) (y >>= g) := by
  intro s t hs ht c s'' hgives
  obtain ⟨a, s', ha, hc⟩ := Gives.bind_iff.1 hgives
  obtain ⟨hs', b, t', hb, ht'⟩ := h s t hs ht a s' ha
  obtain ⟨hs'', d, t'', hd, ht''⟩ := hf a b s' t' hs' ht' c s'' hc
  exact ⟨hs'', d, t'', Gives.bind_iff.2 ⟨b, t', hb, hd⟩, ht''⟩

/-- Both go on from their states. -/
theorem get_bind {f : Progress → Compile α} {g : Progress → Compile β}
    (h : ∀ s t, s.registry.types = types → t.registry.types = types → Alike types (f s) (g t)) :
    Alike types (get >>= f) (get >>= g) :=
  fun s t hs ht => h s t hs ht s t hs ht

/-- Both go on with the same result. -/
theorem bind_same {g : α → Compile δ} (h : Stateless x) (hx : Moves x)
    (hf : ∀ a, Alike types (f a) (g a)) : Alike types (x >>= f) (x >>= g) := by
  intro s t hs ht c s'' hgives
  obtain ⟨a, s', ha, hc⟩ := Gives.bind_iff.1 hgives
  obtain ⟨t', hb⟩ := h s a s' ha t
  have hs' : s'.registry.types = types := (hx _ _ _ ha).grown.types_eq.trans hs
  have ht' : t'.registry.types = types := (hx _ _ _ hb).grown.types_eq.trans ht
  obtain ⟨hs'', d, t'', hd, ht''⟩ := hf a s' t' hs' ht' c s'' hc
  exact ⟨hs'', d, t'', Gives.bind_iff.2 ⟨a, t', hb, hd⟩, ht''⟩

theorem mapM {f : α → Compile β} {g : α → Compile γ} (h : ∀ a, Alike types (f a) (g a))
    (elements : List α) :
    Alike types (elements.mapM f) (elements.mapM g) := by
  induction elements with
  | nil => exact .pure _ _
  | cons a elements ih =>
    rw [List.mapM_cons, List.mapM_cons]
    exact .bind (h a) fun _ _ => .bind ih fun _ _ => .pure _ _

end Alike

theorem expand_stateless (place : Place) (opened : List String) (ref path : String) :
    Stateless (expand place opened ref path) := by
  refine .bind (.notes _) fun _ => ?_
  split
  · exact .pure _
  · exact .throw _

/-- At some fuel, names make no difference to whether types are given. -/
structure AllAlike (place : Place) (types : Table String) (fuel : Nat) : Prop where
  typeOf : ∀ opened node base base',
    Alike types (typeOf place fuel opened node base) (typeOf place fuel opened node base')
  typesOf : ∀ opened base base' nodes,
    Alike types (typesOf place fuel opened base nodes) (typesOf place fuel opened base' nodes)
  dictOf : ∀ opened name name' properties,
    Alike types (dictOf place fuel opened name properties)
      (dictOf place fuel opened name' properties)
  hoist : ∀ opened properties base base',
    Alike types (hoist place fuel opened properties base) (hoist place fuel opened properties base')
  intersect : ∀ opened path branches base base',
    Alike types (intersect place fuel opened path branches base)
      (intersect place fuel opened path branches base')

variable {place : Place} {types : Table String} {fuel : Nat}

theorem AllAlike.array (ih : AllAlike place types fuel) (opened : List String) (origin : Origin)
    (items : Items Node) (leading : Option (List Node)) (limits : ArrayLimits) (base base' : String)
    :
    Alike types (TypeDecl.typeOf place (fuel + 1) opened (.array origin items leading limits) base)
      (TypeDecl.typeOf place (fuel + 1) opened (.array origin items leading limits) base') := by
  have hpositions : ∀ nodes, Alike types (do
        let elements ← TypeDecl.typesOf place fuel opened (base ++ "Item") nodes
        return .tuple elements none : Compile TypeExpr) (do
        let elements ← TypeDecl.typesOf place fuel opened (base' ++ "Item") nodes
        return .tuple elements none : Compile TypeExpr) := fun nodes =>
    .bind (ih.typesOf _ _ _ _) fun _ _ => .pure _ _
  cases items with
  | all item =>
    cases leading with
    | some nodes =>
      exact .bind (ih.typesOf _ _ _ _) fun _ _ => .bind (ih.typeOf _ _ _ _) fun _ _ => .pure _ _
    | none => exact .bind (ih.typeOf _ _ _ _) fun _ _ => .pure _ _
  | absent =>
    cases leading with
    | some nodes => exact hpositions nodes
    | none => exact .pure _ _
  | each listed =>
    cases leading with
    | some nodes => exact hpositions nodes
    | none => exact hpositions listed

theorem AllAlike.succ (ih : AllAlike place types fuel) : AllAlike place types (fuel + 1) where
  typeOf opened node base base' := by
    cases node with
    | unknown | const | enum | primitive | union => exact .pure _ _
    | combinator origin kind branches =>
      cases kind with
      | allOf =>
        refine .bind_same ((collecting_stateless place fuel).2 opened branches)
          ((allMove place fuel).merge _ _) fun found => ?_
        cases found with
        | some properties => exact ih.hoist _ _ _ _
        | none => exact ih.intersect _ _ _ _ _
      | oneOf => exact .bind (ih.typesOf _ _ _ _) fun _ _ => .pure _ _
      | anyOf => exact .bind (ih.typesOf _ _ _ _) fun _ _ => .pure _ _
    | ref origin target =>
      refine .get_bind fun s t hs ht => ?_
      rw [Registry.typeName?, Registry.typeName?, hs, ht]
      cases types.get? target with
      | some name => exact .pure _ _
      | none =>
        refine .bind_same (expand_stateless place opened target _) (.expand _ _ _ _) fun found => ?_
        cases found with
        | none => exact .pure _ _
        | some node => exact ih.typeOf _ _ _ _
    | array origin items leading limits =>
      exact ih.array opened origin items leading limits base base'
    | object origin properties required additional limits =>
      cases properties with
      | some properties => exact ih.hoist _ _ _ _
      | none =>
        cases additional with
        | schema node => exact .bind (ih.typeOf _ _ _ _) fun _ _ => .pure _ _
        | value raw => exact .pure _ _
  typesOf opened base base' nodes := .mapM (fun _ => ih.typeOf _ _ _ _) _
  dictOf opened name name' properties := by
    refine .bind (.mapM (fun property => ?_) properties) fun _ _ => .pure _ _
    exact .bind (ih.typeOf _ _ _ _) fun _ _ => .pure _ _
  hoist opened properties base base' := by
    refine .bind (.total (fun _ => rfl) fun _ => ⟨_, _, rfl, rfl⟩) fun name name' => ?_
    exact .bind (ih.dictOf _ _ _ _) fun _ _ => .total (fun _ => rfl) fun _ => ⟨_, _, rfl, rfl⟩
  intersect opened path branches base base' := by
    refine .bind (.mapM (fun _ => ih.typeOf _ _ _ _) _) fun _ _ =>
      .total (fun _ => ?_) fun _ => ?_
    · split <;> rfl
    · split <;> exact ⟨_, _, rfl, rfl⟩

theorem allAlike (place : Place) (types : Table String) (fuel : Nat) :
    AllAlike place types fuel := by
  induction fuel with
  | zero =>
    constructor
    all_goals
      intros
      exact .throw _ _
  | succ fuel ih => exact ih.succ

/-! ## Runs that are not cut short -/

section Answers

variable {place : Place} {types : Table String} {opened : List String} {node : Node} {fuel : Nat}
  {base : String} {s : Progress} {ε β : Type} {nodeOf : ε → Node} {f : Nat → ε → Compile β}
  {elements : List ε}

/-- What has an answer is answered in every state, unless it is cut short. -/
theorem Answered.gives (h : Answered place types ⟨opened, node⟩) (hs : s.registry.types = types)
    (hdone : Done (typeOf place fuel opened node base) s) :
    ∃ type s', Gives (typeOf place fuel opened node base) s type s' := by
  obtain ⟨enough, base', t, type, t', ht, hgives⟩ := h
  have hmost := ((allFinish place (Nat.le_max_right fuel enough)).typeOf _ _ _).gives hgives
  obtain ⟨_, type', s', hother, _⟩ := (allAlike place types _).typeOf opened node base' base t s ht
    hs type t' hmost
  have hsame := (allFinish place (Nat.le_max_left fuel enough)).typeOf opened node base s hdone
  exact ⟨type', s', hsame.symm.trans hother⟩

theorem TypesEach.gives (hf : TypesEach place opened nodeOf f) {element : ε}
    (h : Answered place types ⟨opened, nodeOf element⟩) (hs : s.registry.types = types)
    (hdone : Done (f fuel element) s) : ∃ b s', Gives (f fuel element) s b s' := by
  obtain ⟨base, finish, hrun⟩ := hf element
  rw [hrun] at hdone ⊢
  obtain ⟨type, t, htype⟩ := h.gives hs hdone.first
  exact ⟨finish type, t, Gives.bind_iff.2 ⟨type, t, htype, rfl⟩⟩

/-- Something holds if a computation is not cut short when it starts with some type names. -/
def WhenDone {α : Type} (types : Table String) (x : Compile α) (p : Prop) : Prop :=
  ∀ s, s.registry.types = types → Done x s → p

/-- All are typed in turn, unless they are cut short. -/
theorem TypesEach.inTurn (hf : TypesEach place opened nodeOf f) {p : Question → Prop}
    (hp : ∀ node base, WhenDone types (typeOf place fuel opened node base) (p ⟨opened, node⟩))
    (hs : s.registry.types = types) (hdone : Done (elements.mapM (f fuel)) s) :
    InTurn place types opened (elements.map nodeOf) p := by
  induction elements generalizing s with
  | nil => exact nofun
  | cons element elements ih =>
    rw [List.mapM_cons] at hdone
    intro node hturn
    cases hturn with
    | first =>
      obtain ⟨base, finish, hrun⟩ := hf element
      have hfirst := hdone.first
      rw [hrun] at hfirst
      exact hp _ base s hs hfirst.first
    | next hanswered hturn =>
      obtain ⟨b, t, hgives⟩ := hf.gives hanswered hs hdone.first
      have ht : t.registry.types = types :=
        (hf.moves fuel element _ _ _ hgives).grown.types_eq.trans hs
      exact ih ht (hdone.rest hgives).first node hturn

theorem TypesEach.allGiven (hf : TypesEach place opened nodeOf f)
    (h : ∀ node ∈ elements.map nodeOf, Answered place types ⟨opened, node⟩)
    (hs : s.registry.types = types) (hdone : Done (elements.mapM (f fuel)) s) :
    ∃ bs s', Gives (elements.mapM (f fuel)) s bs s' := by
  induction elements generalizing s with
  | nil => exact ⟨[], s, rfl⟩
  | cons element elements ih =>
    rw [List.mapM_cons] at hdone
    obtain ⟨hfirst, hrest⟩ := List.forall_mem_cons.1 h
    obtain ⟨b, t, hgives⟩ := hf.gives hfirst hs hdone.first
    have ht : t.registry.types = types :=
      (hf.moves fuel element _ _ _ hgives).grown.types_eq.trans hs
    obtain ⟨bs, s', hothers⟩ := ih hrest ht (hdone.rest hgives).first
    exact ⟨b :: bs, s', Gives.mapM_cons_iff.2 ⟨b, t, bs, hgives, hothers, rfl⟩⟩

/-- At some fuel, what is not cut short has no endless chain of questions. -/
structure AllEnd (place : Place) (types : Table String) (fuel : Nat) : Prop where
  typeOf : ∀ opened node base, WhenDone types (typeOf place fuel opened node base)
    (Acc (AskedBy place types) ⟨opened, node⟩)
  typesOf : ∀ opened base nodes, WhenDone types (typesOf place fuel opened base nodes)
    (InTurn place types opened nodes (Acc (AskedBy place types)))
  dictOf : ∀ opened name properties, WhenDone types (dictOf place fuel opened name properties)
    (InTurn place types opened (properties.map (·.node)) (Acc (AskedBy place types)))
  hoist : ∀ opened properties base, WhenDone types (hoist place fuel opened properties base)
    (InTurn place types opened (properties.map (·.node)) (Acc (AskedBy place types)))
  intersect : ∀ opened path branches base,
    WhenDone types (intersect place fuel opened path branches base)
      (InTurn place types opened (branches.filter (!·.isUnknown)) (Acc (AskedBy place types)))

variable {origin : Origin}

theorem acc_of_parts (hallOf : ∀ origin branches, node ≠ .combinator origin .allOf branches)
    (href : ∀ origin target, node ≠ .ref origin target)
    (h : InTurn place types opened node.typedParts (Acc (AskedBy place types))) :
    Acc (AskedBy place types) ⟨opened, node⟩ := by
  refine ⟨_, fun ⟨_, inner⟩ ⟨nodes, hasks, hturn⟩ => ?_⟩
  cases hasks with
  | parts => exact h inner hturn
  | merged => exact (hallOf _ _ rfl).elim
  | branches => exact (hallOf _ _ rfl).elim
  | expansion => exact (href _ _ rfl).elim

theorem acc_of_allOf {α : Type} {branches : List Node}
    {f : Option (List (Property Node)) → Compile α} (hs : s.registry.types = types)
    (hdone : Done (merge place fuel opened branches >>= f) s)
    (hmerged : ∀ properties, WhenDone types (f (some properties))
      (InTurn place types opened (properties.map (·.node)) (Acc (AskedBy place types))))
    (hbranches : WhenDone types (f none)
      (InTurn place types opened (branches.filter (!·.isUnknown)) (Acc (AskedBy place types)))) :
    Acc (AskedBy place types) ⟨opened, .combinator origin .allOf branches⟩ := by
  have hmoves := (allMove place fuel).merge opened branches
  refine ⟨_, fun ⟨_, inner⟩ ⟨nodes, hasks, hturn⟩ => ?_⟩
  cases hasks with
  | parts => cases hturn
  | merged hmerges =>
    obtain ⟨t, hgives⟩ := hmerges.gives hdone.first
    exact hmerged _ t ((hmoves _ _ _ hgives).grown.types_eq.trans hs)
      (hdone.rest hgives) inner hturn
  | branches hmerges =>
    obtain ⟨t, hgives⟩ := hmerges.gives hdone.first
    exact hbranches t ((hmoves _ _ _ hgives).grown.types_eq.trans hs)
      (hdone.rest hgives) inner hturn

theorem typesOf_given {nodes : List Node} (h : ∀ node ∈ nodes, Answered place types ⟨opened, node⟩)
    (hs : s.registry.types = types) (hdone : Done (typesOf place fuel opened base nodes) s) :
    ∃ found s', Gives (typesOf place fuel opened base nodes) s found s' := by
  cases fuel with
  | zero => exact (hdone rfl).elim
  | succ fuel =>
    rw [← List.zipIdx_map_fst 0 nodes] at h
    exact (typesOf_each place opened base).allGiven h hs hdone

theorem AllEnd.array (ih : AllEnd place types fuel) {items : Items Node}
    {leading : Option (List Node)} {limits : ArrayLimits} (hs : s.registry.types = types)
    (hdone : Done (TypeDecl.typeOf place (fuel + 1) opened
      (.array origin items leading limits) base) s) :
    Acc (AskedBy place types) ⟨opened, .array origin items leading limits⟩ := by
  refine acc_of_parts nofun nofun fun node hturn => ?_
  cases items with
  | all item =>
    cases leading with
    | some nodes =>
      rcases hturn.of_append with hturn | ⟨hanswered, hturn⟩
      · exact ih.typesOf _ _ _ s hs hdone.first node hturn
      · obtain rfl := List.mem_singleton.1 hturn.mem
        obtain ⟨found, t, hgives⟩ := typesOf_given hanswered hs hdone.first
        have ht := ((allMove place fuel).typesOf _ _ _ _ _ _ hgives).grown.types_eq.trans hs
        exact ih.typeOf _ _ _ t ht (hdone.rest hgives).first
    | none =>
      obtain rfl := List.mem_singleton.1 hturn.mem
      exact ih.typeOf _ _ _ s hs hdone.first
  | absent =>
    cases leading with
    | some nodes =>
      rcases hturn.of_append with hturn | ⟨_, hturn⟩
      · exact ih.typesOf _ _ _ s hs hdone.first node hturn
      · cases hturn
    | none => cases hturn
  | each listed =>
    rcases hturn.of_append with hturn | ⟨_, hturn⟩
    · cases leading with
      | some nodes => exact ih.typesOf _ _ _ s hs hdone.first node hturn
      | none => exact ih.typesOf _ _ _ s hs hdone.first node hturn
    · cases hturn

theorem AllEnd.ref {fuel : Nat} (ih : AllEnd place types fuel) {origin : Origin}
    {target base : String} {s : Progress} (hs : s.registry.types = types)
    (hdone : Done (TypeDecl.typeOf place (fuel + 1) opened (.ref origin target) base) s) :
    Acc (AskedBy place types) ⟨opened, .ref origin target⟩ := by
  refine ⟨_, fun ⟨_, inner⟩ ⟨nodes, hasks, hturn⟩ => ?_⟩
  cases hasks with
  | parts => cases hturn
  | expansion hname hnew hleads =>
    obtain rfl := List.mem_singleton.1 hturn.mem
    have hlookup : s.registry.typeName? target = none := by rw [Registry.typeName?, hs, hname]
    have hrest := Done.rest (a := s) (t := s) hdone rfl
    rw [hlookup] at hrest
    obtain ⟨t, hgives⟩ := expand_of_leadsTo hnew hleads origin.path s
    have ht := (Moves.expand _ _ _ _ _ _ _ hgives).grown.types_eq.trans hs
    exact ih.typeOf _ _ _ t ht (hrest.rest hgives)

theorem AllEnd.succ (ih : AllEnd place types fuel) :
    AllEnd place types (fuel + 1) where
  typeOf opened node base s hs hdone := by
    cases node with
    | unknown | const | enum | primitive | union => exact acc_of_parts nofun nofun nofun
    | combinator origin kind branches =>
      cases kind with
      | allOf =>
        exact acc_of_allOf hs hdone (fun properties => ih.hoist opened properties base)
          (ih.intersect opened origin.path branches base)
      | oneOf => exact acc_of_parts nofun nofun (ih.typesOf _ _ _ s hs hdone.first)
      | anyOf => exact acc_of_parts nofun nofun (ih.typesOf _ _ _ s hs hdone.first)
    | ref origin target => exact ih.ref hs hdone
    | array origin items leading limits => exact ih.array hs hdone
    | object origin properties required additional limits =>
      cases properties with
      | some properties => exact acc_of_parts nofun nofun (ih.hoist _ _ _ s hs hdone)
      | none =>
        cases additional with
        | schema node =>
          refine acc_of_parts nofun nofun fun inner hturn => ?_
          obtain rfl := List.mem_singleton.1 hturn.mem
          exact ih.typeOf _ _ _ s hs hdone.first
        | value raw => exact acc_of_parts nofun nofun nofun
  typesOf opened base nodes s hs hdone := by
    have hnodes := (typesOf_each place opened base).inTurn (ih.typeOf opened) hs hdone
    rw [List.zipIdx_map_fst] at hnodes
    exact hnodes
  dictOf opened name properties s hs hdone :=
    (dictOf_each place opened name).inTurn (ih.typeOf opened) hs hdone.first
  hoist opened properties base s hs hdone := by
    have hfresh : Gives (freshName place base) s (s.registry.freeName base)
        { s with registry := (s.registry.claimUnique base place.pointer).2 } := rfl
    have ht := ((Moves.freshName place base _ _ _ hfresh).grown.types_eq).trans hs
    exact ih.dictOf opened _ properties _ ht (hdone.rest hfresh).first
  intersect opened path branches base s hs hdone := by
    have hnodes := (typesOf_each place opened (base ++ "Part")).inTurn (ih.typeOf opened)
      hs hdone.first
    rw [map_fst_known] at hnodes
    exact hnodes

theorem allEnd (place : Place) (types : Table String) (fuel : Nat) : AllEnd place types fuel := by
  induction fuel with
  | zero => exact ⟨fun _ _ _ _ _ hdone => (hdone rfl).elim, fun _ _ _ _ _ hdone => (hdone rfl).elim,
      fun _ _ _ _ _ hdone => (hdone rfl).elim, fun _ _ _ _ _ hdone => (hdone rfl).elim,
      fun _ _ _ _ _ _ hdone => (hdone rfl).elim⟩
  | succ fuel ih => exact ih.succ

/-- **A declaration that is not cut short has no endless chain of questions.** -/
theorem acc_of_done {name : String} (hs : s.registry.types = types)
    (hdone : Done (declare place fuel opened node name) s) :
    Acc (AskedBy place types) ⟨opened, node⟩ := by
  cases fuel with
  | zero => exact (hdone rfl).elim
  | succ fuel =>
    have ih := allEnd place types fuel
    cases node with
    | combinator origin kind branches =>
      cases kind with
      | allOf =>
        exact acc_of_allOf hs hdone (fun properties => ih.dictOf opened name properties)
          fun t ht hrest =>
          ih.intersect opened origin.path branches name t ht hrest.first
      | oneOf => exact ih.typeOf _ _ _ s hs hdone.first
      | anyOf => exact ih.typeOf _ _ _ s hs hdone.first
    | object origin properties required additional limits =>
      cases properties with
      | some properties => exact acc_of_parts nofun nofun (ih.dictOf _ _ _ s hs hdone)
      | none => exact ih.typeOf _ _ _ s hs hdone.first
    | unknown | const | enum | ref | primitive | union | array =>
      exact ih.typeOf _ _ _ s hs hdone.first

end Answers

end SchemaGuard.TypeDecl
