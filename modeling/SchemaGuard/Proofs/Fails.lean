import SchemaGuard.Proofs.Gives

/-!
# Computations that fail

`Fails x s e s'` says that `x`, run from `s`, fails with `e` and leaves `s'`. A sequence fails where
the first of its parts fails that does; the lemmas of this file follow a failure back to the step
that it comes from. `Throws errors x` says of all failures of `x` that they are among some errors, and
`Keeps inv errors x` also that `x` keeps an invariant of the state, whether or not it fails.
-/

namespace SchemaGuard

variable {ε σ α β : Type}

/-! ## Without a state -/

variable {e : ε}

theorem bind_eq_error {x : Except ε α} {f : α → Except ε β} :
    (x >>= f) = .error e ↔ x = .error e ∨ ∃ a, x = .ok a ∧ f a = .error e := by
  cases x with
  | error e' =>
    constructor
    · intro h
      cases h
      exact .inl rfl
    · rintro (h | ⟨a, h, -⟩)
      · cases h
        rfl
      · cases h
  | ok a =>
    constructor
    · intro h
      exact .inr ⟨a, rfl, h⟩
    · rintro (h | ⟨a', h, hf⟩)
      · cases h
      · cases h
        exact hf

theorem map_eq_error {x : Except ε α} {f : α → β} :
    f <$> x = .error e ↔ x = .error e := by
  cases x with
  | error e' => simp [Functor.map, Except.map]
  | ok a => simp [Functor.map, Except.map]

/-- The error of a result, if it has one. -/
def faultOf? : Except ε α → Option ε
  | .ok _ => none
  | .error e => some e

theorem eq_error_of_faultOf? {result : Except ε α} (h : faultOf? result = some e) :
    result = .error e := by
  cases result with
  | error found => exact congrArg _ (Option.some.inj h)
  | ok found => cases h

/-- A fold fails at one of its elements. -/
theorem foldlM_eq_error {f : β → α → Except ε β} {elements : List α} {start : β}
    (h : elements.foldlM f start = .error e) : ∃ a ∈ elements, ∃ b, f b a = .error e := by
  induction elements generalizing start with
  | nil => cases h
  | cons a elements ih =>
    rw [List.foldlM_cons, bind_eq_error] at h
    rcases h with h | ⟨next, -, h⟩
    · exact ⟨a, List.mem_cons_self, start, h⟩
    · obtain ⟨a', hmem, found⟩ := ih h
      exact ⟨a', List.mem_cons_of_mem _ hmem, found⟩

/-! ## With a state -/

/-- A computation, run from a state, fails with an error and leaves a state. -/
def Fails (x : ExceptT ε (StateM σ) α) (s : σ) (e : ε) (s' : σ) : Prop :=
  x.run.run s = (.error e, s')

/-- A run that has a result gives it. -/
theorem Gives.of_isSome {x : ExceptT ε (StateM σ) α} {s : σ}
    (h : (x.run.run s).1.toOption.isSome = true) : ∃ a s', Gives x s a s' := by
  rcases hrun : x.run.run s with ⟨e | a, s'⟩
  · rw [hrun] at h
    cases h
  · exact ⟨a, s', hrun⟩

namespace Fails

variable {s s' : σ} {e : ε}

/-- **A sequence fails exactly if its first part does, or gives what its second part fails on.** -/
@[simp] theorem bind_iff {x : ExceptT ε (StateM σ) α} {f : α → ExceptT ε (StateM σ) β} {s'' : σ} :
    Fails (x >>= f) s e s'' ↔
      Fails x s e s'' ∨ ∃ a s', Gives x s a s' ∧ Fails (f a) s' e s'' := by
  unfold Fails Gives
  rw [Gives.run_bind]
  rcases x.run.run s with ⟨e' | a, s'⟩
  · constructor
    · intro h
      cases h
      exact .inl rfl
    · rintro (h | ⟨_, _, h, -⟩)
      · cases h
        rfl
      · cases h
  · constructor
    · intro h
      exact .inr ⟨a, s', rfl, h⟩
    · rintro (h | ⟨_, _, h, hf⟩)
      · cases h
      · cases h
        exact hf

@[simp] theorem pure_iff {a : α} :
    Fails (pure a : ExceptT ε (StateM σ) α) s e s' ↔ False := by
  constructor
  · intro h
    cases h
  · exact False.elim

@[simp] theorem throw_iff {e' : ε} :
    Fails (throw e : ExceptT ε (StateM σ) α) s e' s' ↔ e' = e ∧ s' = s := by
  constructor
  · intro h
    cases h
    exact ⟨rfl, rfl⟩
  · rintro ⟨rfl, rfl⟩
    rfl

@[simp] theorem get_iff :
    Fails (get : ExceptT ε (StateM σ) σ) s e s' ↔ False := by
  constructor
  · intro h
    cases h
  · exact False.elim

@[simp] theorem set_iff {t : σ} :
    Fails (set t : ExceptT ε (StateM σ) PUnit) s e s' ↔ False := by
  constructor
  · intro h
    cases h
  · exact False.elim

@[simp] theorem modify_iff {f : σ → σ} :
    Fails (modify f : ExceptT ε (StateM σ) PUnit) s e s' ↔ False := by
  constructor
  · intro h
    cases h
  · exact False.elim

/-- A computation without a state, inside one with a state. -/
@[simp] theorem lift_iff {x : Except ε α} :
    Fails (liftM x : ExceptT ε (StateM σ) α) s e s' ↔ x = .error e ∧ s' = s := by
  cases x with
  | error e' =>
    constructor
    · intro h
      cases h
      exact ⟨rfl, rfl⟩
    · rintro ⟨h, rfl⟩
      cases h
      rfl
  | ok b =>
    constructor
    · intro h
      cases h
    · rintro ⟨h, -⟩
      cases h

/-- A run that has no result fails. -/
theorem of_isNone {x : ExceptT ε (StateM σ) α} (h : (x.run.run s).1.toOption.isNone = true) :
    ∃ e s', Fails x s e s' := by
  rcases hrun : x.run.run s with ⟨e | a, s'⟩
  · exact ⟨e, s', hrun⟩
  · rw [hrun] at h
    cases h

end Fails

/-! ## The errors of a computation -/

/-- Whatever a computation fails with is among some errors. -/
def Throws (errors : ε → Prop) (x : ExceptT ε (StateM σ) α) : Prop :=
  ∀ s e s', Fails x s e s' → errors e

/-- A computation keeps an invariant of the state, whether or not it fails, and whatever it fails
with is among some errors. -/
def Keeps (inv : σ → Prop) (errors : ε → Prop) (x : ExceptT ε (StateM σ) α) : Prop :=
  ∀ s, inv s → inv (x.run.run s).2 ∧ ∀ e s', Fails x s e s' → errors e

namespace Keeps

variable {inv : σ → Prop} {errors : ε → Prop}

variable {x : ExceptT ε (StateM σ) α} {f : α → ExceptT ε (StateM σ) β} {elements : List α}

protected theorem pure (a : α) : Keeps inv errors (Pure.pure a : ExceptT ε (StateM σ) α) :=
  fun _ hs => ⟨hs, fun _ _ h => (Fails.pure_iff.1 h).elim⟩

protected theorem throw {e : ε} (he : errors e) :
    Keeps inv errors (MonadExcept.throw e : ExceptT ε (StateM σ) α) := by
  refine fun _ hs => ⟨hs, fun _ _ h => ?_⟩
  rw [(Fails.throw_iff.1 h).1]
  exact he

protected theorem get : Keeps inv errors (MonadState.get : ExceptT ε (StateM σ) σ) :=
  fun _ hs => ⟨hs, fun _ _ h => (Fails.get_iff.1 h).elim⟩

protected theorem set {t : σ} (ht : inv t) :
    Keeps inv errors (MonadStateOf.set t : ExceptT ε (StateM σ) PUnit) :=
  fun _ _ => ⟨ht, fun _ _ h => (Fails.set_iff.1 h).elim⟩

protected theorem modify {f : σ → σ} (hf : ∀ s, inv s → inv (f s)) :
    Keeps inv errors (modify f : ExceptT ε (StateM σ) PUnit) :=
  fun s hs => ⟨hf s hs, fun _ _ h => (Fails.modify_iff.1 h).elim⟩

protected theorem lift {x : Except ε α} (h : ∀ e, x = .error e → errors e) :
    Keeps inv errors (liftM x : ExceptT ε (StateM σ) α) := by
  refine fun s hs => ⟨?_, fun e _ hfails => h e (Fails.lift_iff.1 hfails).1⟩
  cases x <;> exact hs

/-- The second part of a sequence runs on what the first gives, in a state with the invariant. -/
theorem bind_gives (hx : Keeps inv errors x)
    (hf : ∀ s a s', inv s → Gives x s a s' → Keeps inv errors (f a)) :
    Keeps inv errors (x >>= f) := by
  intro s hs
  obtain ⟨hinv, herrors⟩ := hx s hs
  refine ⟨?_, fun e s'' h => ?_⟩
  · rw [Gives.run_bind]
    rcases hrun : x.run.run s with ⟨e | a, s'⟩
    · rw [hrun] at hinv
      exact hinv
    · rw [hrun] at hinv
      exact (hf s a s' hs hrun s' hinv).1
  · rcases Fails.bind_iff.1 h with h | ⟨a, s', hgives, h⟩
    · exact herrors e s'' h
    · have hgiven : x.run.run s = (.ok a, s') := hgives
      rw [hgiven] at hinv
      exact (hf s a s' hs hgives s' hinv).2 e s'' h

protected theorem bind (hx : Keeps inv errors x) (hf : ∀ a, Keeps inv errors (f a)) :
    Keeps inv errors (x >>= f) :=
  bind_gives hx fun _ a _ _ _ => hf a

/-- What is made of what a computation gives. -/
protected theorem map {g : α → β} (hx : Keeps inv errors x) :
    Keeps inv errors (x >>= fun a => Pure.pure (g a)) :=
  hx.bind fun _ => .pure _

/-- The state may be looked at before going on. -/
theorem get_bind {f : σ → ExceptT ε (StateM σ) β} (hf : ∀ s, inv s → Keeps inv errors (f s)) :
    Keeps inv errors (MonadState.get >>= f) := by
  refine bind_gives .get fun s a s' hs hget => ?_
  rw [(Gives.get_iff.1 hget).1]
  exact hf s hs

theorem mapM (h : ∀ a ∈ elements, Keeps inv errors (f a)) : Keeps inv errors (elements.mapM f) := by
  induction elements with
  | nil => exact .pure _
  | cons a elements ih =>
    rw [List.mapM_cons]
    exact .bind (h a (by simp)) fun _ => .bind (ih fun b hb => h b (by simp [hb])) fun _ => .pure _

theorem foldlM {f : β → α → ExceptT ε (StateM σ) β} {start : β}
    (h : ∀ b, ∀ a ∈ elements, Keeps inv errors (f b a)) :
    Keeps inv errors (elements.foldlM f start) := by
  induction elements generalizing start with
  | nil => exact .pure _
  | cons a elements ih =>
    rw [List.foldlM_cons]
    exact .bind (h start a (by simp)) fun _ => ih fun b c hc => h b c (by simp [hc])

theorem forM {f : α → ExceptT ε (StateM σ) PUnit} (h : ∀ a ∈ elements, Keeps inv errors (f a)) :
    Keeps inv errors (elements.forM f) := by
  induction elements with
  | nil => exact .pure _
  | cons a elements ih => exact .bind (h a (by simp)) fun _ => ih fun b hb => h b (by simp [hb])

theorem gives (h : Keeps inv errors x) {s s' : σ} {a : α} (hs : inv s) (hgives : Gives x s a s') :
    inv s' := by
  have hinv := (h s hs).1
  rw [show x.run.run s = (.ok a, s') from hgives] at hinv
  exact hinv

/-- An invariant that always holds says nothing but which errors there are. -/
theorem throws (h : Keeps inv errors x) (hinv : ∀ s, inv s) :
    Throws errors x :=
  fun s e s' hfails => (h s (hinv s)).2 e s' hfails

end Keeps

end SchemaGuard
