import SchemaGuard.Proofs.Mentions

/-!
# Fuel

Fuel bounds how many calls that compile types may be inside each other. It is a bound and nothing
else: a result other than `tooDeep` is the result with all fuel beyond (`allFinish`).

A computation *settles* if there is such a result. One lemma for each way of putting computations
together carries this through the functions that compile types.
-/

namespace SchemaGuard.TypeDecl

/-! ## Runs that are not cut short -/

/-- A computation is not cut short. -/
def Done {α : Type} (x : Compile α) (s : Progress) : Prop := (x.run.run s).1 ≠ .error .tooDeep

section Done

variable {α β : Type} {x : Compile α} {f : α → Compile β} {s t : Progress}

theorem Done.first (h : Done (x >>= f) s) : Done x s := by
  intro hcut
  refine h ?_
  rw [Gives.run_bind]
  generalize x.run.run s = outcome at hcut ⊢
  obtain ⟨_, t⟩ := outcome
  cases hcut
  rfl

theorem Done.rest {a : α} (h : Done (x >>= f) s) (hx : Gives x s a t) : Done (f a) t := by
  unfold Done at h
  rw [Gives.run_bind, show x.run.run s = (.ok a, t) from hx] at h
  exact h

end Done

/-! ## More fuel changes no result -/

/-- A computation gives what another one gives, unless that was cut short. -/
def Finishes {α : Type} (x y : Compile α) : Prop := ∀ s, Done x s → y.run.run s = x.run.run s

namespace Finishes

variable {α β : Type} {x y : Compile α} {f g : α → Compile β}

theorem refl (x : Compile α) : Finishes x x := fun _ _ => rfl

theorem tooDeep (x : Compile α) : Finishes (throw .tooDeep) x := fun _ h => (h rfl).elim

theorem gives (h : Finishes x y) {s s' : Progress} {a : α} (hgives : Gives x s a s') :
    Gives y s a s' := by
  have hrun : x.run.run s = (.ok a, s') := hgives
  have hdone : Done x s := by
    unfold Done
    rw [hrun]
    exact nofun
  exact (h s hdone).trans hrun

theorem bind (hx : Finishes x y) (hf : ∀ a, Finishes (f a) (g a)) :
    Finishes (x >>= f) (y >>= g) := by
  intro s hdone
  rw [Gives.run_bind, Gives.run_bind, hx s hdone.first]
  cases hrun : x.run.run s with
  | mk outcome t =>
    cases outcome with
    | error error => rfl
    | ok a => exact hf a t (hdone.rest hrun)

theorem mapM (h : ∀ a, Finishes (f a) (g a)) (elements : List α) :
    Finishes (elements.mapM f) (elements.mapM g) := by
  induction elements with
  | nil => exact .refl _
  | cons a elements ih =>
    rw [List.mapM_cons, List.mapM_cons]
    exact .bind (h a) fun _ => .bind ih fun _ => .refl _

theorem foldlM {f g : β → α → Compile β} (h : ∀ b a, Finishes (f b a) (g b a)) (elements : List α)
    (start : β) : Finishes (elements.foldlM f start) (elements.foldlM g start) := by
  induction elements generalizing start with
  | nil => exact .refl _
  | cons a elements ih =>
    rw [List.foldlM_cons, List.foldlM_cons]
    exact .bind (h start a) ih

end Finishes

/-- All functions that compile types finish with more fuel what they began with less. -/
structure AllFinish (place : Place) (fuel more : Nat) : Prop where
  declare : ∀ opened node name, Finishes (declare place fuel opened node name)
    (declare place more opened node name)
  hoist : ∀ opened properties base,
    Finishes (hoist place fuel opened properties base) (hoist place more opened properties base)
  dictOf : ∀ opened name properties,
    Finishes (dictOf place fuel opened name properties) (dictOf place more opened name properties)
  typeOf : ∀ opened node base, Finishes (typeOf place fuel opened node base)
    (typeOf place more opened node base)
  typesOf : ∀ opened base nodes, Finishes (typesOf place fuel opened base nodes)
    (typesOf place more opened base nodes)
  propertiesOf : ∀ opened node, Finishes (propertiesOf place fuel opened node)
    (propertiesOf place more opened node)
  merge : ∀ opened branches, Finishes (merge place fuel opened branches)
    (merge place more opened branches)
  intersect : ∀ opened path branches base,
    Finishes (intersect place fuel opened path branches base)
      (intersect place more opened path branches base)

variable {fuel more : Nat}

theorem AllFinish.succ {place : Place} (ih : AllFinish place fuel more) :
    AllFinish place (fuel + 1) (more + 1) where
  declare opened node name := by
    rw [TypeDecl.declare.eq_def, TypeDecl.declare.eq_def]
    dsimp only
    split
    · exact ih.dictOf _ _ _
    · refine .bind (ih.merge _ _) fun merged => ?_
      split
      · exact ih.dictOf _ _ _
      · exact .bind (ih.intersect _ _ _ _) fun _ => .refl _
    · exact .bind (ih.typeOf _ _ _) fun _ => .refl _
  hoist opened properties base := by
    unfold TypeDecl.hoist
    exact .bind (.refl _) fun name => .bind (ih.dictOf _ _ _) fun _ => .refl _
  dictOf opened name properties := by
    unfold TypeDecl.dictOf
    exact .bind (.mapM (fun _ => .bind (ih.typeOf _ _ _) fun _ => .refl _) _) fun _ => .refl _
  typeOf opened node base := by
    unfold TypeDecl.typeOf
    split
    · exact .refl _
    · exact .refl _
    · exact .refl _
    · refine .bind (ih.merge _ _) fun merged => ?_
      split
      · exact ih.hoist _ _ _
      · exact ih.intersect _ _ _ _
    · exact .bind (ih.typesOf _ _ _) fun _ => .refl _
    · refine .bind (.refl _) fun progress => ?_
      split
      · exact .refl _
      · refine .bind (.refl _) fun resolved => ?_
        split
        · exact .refl _
        · exact ih.typeOf _ _ _
    · exact .refl _
    · exact .refl _
    · dsimp only
      split
      · refine .bind (ih.typesOf _ _ _) fun elements => ?_
        split
        · exact .refl _
        · exact .bind (ih.typeOf _ _ _) fun _ => .refl _
      · split
        · exact .bind (ih.typeOf _ _ _) fun _ => .refl _
        · exact .refl _
    · exact ih.hoist _ _ _
    · exact .bind (ih.typeOf _ _ _) fun _ => .refl _
    · exact .refl _
  typesOf opened base nodes := by
    unfold TypeDecl.typesOf
    exact .mapM (fun _ => ih.typeOf _ _ _) _
  propertiesOf opened node := by
    cases node with
    | combinator origin kind branches =>
      cases kind with
      | allOf => exact ih.merge _ _
      | oneOf => exact .refl _
      | anyOf => exact .refl _
    | ref origin target =>
      rw [propertiesOf_ref, propertiesOf_ref]
      split
      · exact .refl _
      · split
        · exact ih.propertiesOf _ _
        · exact .refl _
        · exact .refl _
        · exact .refl _
    | unknown | const | enum | primitive | union | array | object => exact .refl _
  merge opened branches := by
    unfold TypeDecl.merge
    refine .bind (.foldlM (fun merged branch => ?_) branches none) fun _ => .refl _
    exact .bind (ih.propertiesOf _ _) fun properties => .refl _
  intersect opened path branches base := by
    unfold TypeDecl.intersect
    exact .bind (.mapM (fun _ => ih.typeOf _ _ _) _) fun types => .refl _

theorem allFinish (place : Place) (h : fuel ≤ more) : AllFinish place fuel more := by
  induction fuel generalizing more with
  | zero =>
    constructor
    all_goals
      intros
      exact .tooDeep _
  | succ fuel ih =>
    obtain ⟨more, rfl⟩ := Nat.exists_eq_add_of_le' (Nat.le_of_add_left_le h)
    exact (ih (by omega)).succ

/-! ## Computations that settle -/

/-- Beyond some fuel a computation gives one result, from each state with the given names of
pointers, and leaves these as they are. -/
def Settles {α : Type} (types : Table String) (x : Nat → Compile α) : Prop :=
  ∀ s, s.registry.types = types → ∃ fuel result, result.1 ≠ .error .tooDeep ∧
    result.2.registry.types = types ∧ ∀ more ≥ fuel, (x more).run.run s = result

namespace Settles

variable {α β : Type} {types : Table String} {x : Nat → Compile α}

/-- What takes one unit of fuel itself settles if the rest of it does. -/
theorem of_succ (h : Settles types fun fuel => x (fuel + 1)) : Settles types x := by
  intro s hs
  obtain ⟨fuel, result, hresult, htypes, hsame⟩ := h s hs
  refine ⟨fuel + 1, result, hresult, htypes, fun more hmore => ?_⟩
  obtain ⟨rest, rfl⟩ := Nat.exists_eq_add_of_le' (Nat.le_of_add_left_le hmore)
  exact hsame rest (by omega)

/-- What needs no fuel and always has a result settles. -/
theorem of_gives {x : Compile α}
    (h : ∀ s, ∃ a s', Gives x s a s' ∧ s'.registry.types = s.registry.types) :
    Settles types fun _ => x := by
  intro s hs
  obtain ⟨a, s', hgives, htypes⟩ := h s
  exact ⟨0, (.ok a, s'), fun heq => (by cases heq), htypes.trans hs, fun _ _ => hgives⟩

theorem pure (a : α) : Settles types fun _ => (Pure.pure a : Compile α) :=
  of_gives fun s => ⟨a, s, rfl, rfl⟩

theorem throw {error : EmitError} (h : error ≠ .tooDeep) :
    Settles types fun _ => (MonadExcept.throw error : Compile α) :=
  fun s hs => ⟨0, (.error error, s), fun heq => h (Except.error.inj heq), hs, fun _ _ => rfl⟩

theorem note (notice : Notice) : Settles types fun _ => note notice :=
  of_gives fun _ => ⟨_, _, rfl, rfl⟩

theorem notes (notices : List Notice) : Settles types fun _ => notices.forM TypeDecl.note := by
  refine of_gives fun s => ?_
  induction notices generalizing s with
  | nil => exact ⟨_, s, rfl, rfl⟩
  | cons notice notices ih => exact ih _

/-- A sequence settles if its first part does and, for each result of that, its second part does. -/
theorem bind {f : Nat → α → Compile β} (hx : Settles types x)
    (hf : ∀ a, (∃ fuel s s', s.registry.types = types ∧ Gives (x fuel) s a s') →
      Settles types fun fuel => f fuel a) : Settles types fun fuel => x fuel >>= f fuel := by
  intro s hs
  obtain ⟨fuel, ⟨outcome, t⟩, hresult, htypes, hsame⟩ := hx s hs
  cases outcome with
  | error error =>
    refine ⟨fuel, (.error error, t), fun heq => hresult (congrArg Except.error
      (Except.error.inj heq)), htypes, fun more hmore => ?_⟩
    rw [Gives.run_bind, hsame more hmore]
  | ok a =>
    obtain ⟨fuel', result, hresult', htypes', hsame'⟩ :=
      hf a ⟨fuel, s, t, hs, hsame fuel (Nat.le_refl _)⟩ t htypes
    refine ⟨max fuel fuel', result, hresult', htypes', fun more hmore => ?_⟩
    rw [Gives.run_bind, hsame more (by omega)]
    exact hsame' more (by omega)

theorem map {g : α → β} (hx : Settles types x) :
    Settles types fun fuel => x fuel >>= fun a => Pure.pure (g a) :=
  hx.bind fun _ _ => .pure _

theorem foldlM {f : Nat → β → α → Compile β} {elements : List α}
    (h : ∀ a ∈ elements, ∀ b, Settles types fun fuel => f fuel b a) (start : β) :
    Settles types fun fuel => elements.foldlM (f fuel) start := by
  induction elements generalizing start with
  | nil => exact .pure start
  | cons a elements ih =>
    simp only [List.foldlM_cons]
    exact .bind (h a (by simp) start) fun next _ => ih (fun a' ha' => h a' (by simp [ha'])) next

end Settles

end SchemaGuard.TypeDecl
