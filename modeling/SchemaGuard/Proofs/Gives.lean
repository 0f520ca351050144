import SchemaGuard.Emit

/-!
# Computations that give a result

Running checks may fail, and compiling also keeps a state. `Gives x s a s'` says that `x`, run from
`s`, succeeds with `a` and leaves `s'`. The lemmas of this file take such a statement apart along
the way the computation is put together, so that no proof has to open the monad again.
-/

namespace SchemaGuard

variable {ε σ α β : Type}

/-! ## Without a state -/

variable {x : Except ε α} {b start result : β} {a : α} {f : β → α → Except ε β} {elements : List α}

theorem bind_eq_ok {f : α → Except ε β} : (x >>= f) = .ok b ↔ ∃ a, x = .ok a ∧ f a = .ok b := by
  cases x with
  | error e =>
    constructor
    · intro h
      cases h
    · rintro ⟨a, h, _⟩
      cases h
  | ok a =>
    constructor
    · intro h
      exact ⟨a, rfl, h⟩
    · rintro ⟨a', h, hf⟩
      cases h
      exact hf

theorem map_eq_ok {f : α → β} : f <$> x = .ok b ↔ ∃ a, x = .ok a ∧ f a = b := by
  cases x with
  | error e => simp [Functor.map, Except.map]
  | ok a => simp [Functor.map, Except.map]

@[simp] theorem pure_eq_ok {b : α} : (pure a : Except ε α) = .ok b ↔ a = b := by
  constructor
  · intro h
    cases h
    rfl
  · rintro rfl
    rfl

/-- A test of a result holds: there is a result, and the test holds of it. -/
theorem exists_ok_of_any {result : Except ε α} {test : α → Bool}
    (h : result.toOption.any test = true) : ∃ found, result = .ok found ∧ test found = true := by
  cases result with
  | error fault => cases h
  | ok found => exact ⟨found, rfl, h⟩

/-- What every step of a fold preserves, the fold preserves. -/
theorem foldlM_preserves {P : β → Prop}
    (hstep : ∀ b, ∀ a ∈ elements, ∀ b', P b → f b a = .ok b' → P b') (hstart : P start)
    (h : elements.foldlM f start = .ok result) : P result := by
  induction elements generalizing start with
  | nil =>
    cases h
    exact hstart
  | cons a elements ih =>
    rw [List.foldlM_cons, bind_eq_ok] at h
    obtain ⟨next, hnext, h⟩ := h
    exact ih (fun b a' hmem => hstep b a' (by simp [hmem])) (hstep _ a (by simp) _ hstart hnext) h

/-- What a step of a fold brings about and no other step undoes holds of all elements in the end. -/
theorem foldlM_brings {Q : α → β → Prop} (hstep : ∀ b a b', f b a = .ok b' → Q a b')
    (hkept : ∀ b a b', f b a = .ok b' → ∀ other, Q other b → Q other b')
    (h : elements.foldlM f start = .ok result) : ∀ a ∈ elements, Q a result := by
  induction elements generalizing start with
  | nil => exact fun a hmem => (List.not_mem_nil hmem).elim
  | cons a elements ih =>
    rw [List.foldlM_cons, bind_eq_ok] at h
    obtain ⟨next, hnext, h⟩ := h
    intro other hmem
    rcases List.mem_cons.1 hmem with rfl | hmem
    · exact foldlM_preserves (P := Q other) (fun b a _ b' hb hstep => hkept b a b' hstep other hb)
        (hstep _ _ _ hnext) h
    · exact ih h other hmem

/-! ## With a state -/

/-- A computation, run from a state, succeeds with a result and leaves a state. -/
def Gives (x : ExceptT ε (StateM σ) α) (s : σ) (a : α) (s' : σ) : Prop := x.run.run s = (.ok a, s')

namespace Gives

variable {a : α} {s s' : σ} {f : α → ExceptT ε (StateM σ) β} {x : ExceptT ε (StateM σ) α} {s'' : σ}
  {b : β} {u : PUnit} {bs : List β}

@[simp] theorem pure_iff {b : α} :
    Gives (pure a : ExceptT ε (StateM σ) α) s b s' ↔ b = a ∧ s' = s := by
  constructor
  · intro h
    cases h
    exact ⟨rfl, rfl⟩
  · rintro ⟨rfl, rfl⟩
    rfl

theorem run_bind (x : ExceptT ε (StateM σ) α) (f : α → ExceptT ε (StateM σ) β) (s : σ) :
    (x >>= f).run.run s = match x.run.run s with
      | (.ok a, s') => (f a).run.run s'
      | (.error e, s') => (.error e, s') := by
  rw [ExceptT.run_bind, StateT.run_bind]
  rcases x.run.run s with ⟨_ | _, _⟩ <;> rfl

/-- **A sequence gives a result exactly when both of its parts do.** -/
@[simp] theorem bind_iff : Gives (x >>= f) s b s'' ↔ ∃ a s', Gives x s a s' ∧ Gives (f a) s' b s'' := by
  unfold Gives
  rw [run_bind]
  rcases x.run.run s with ⟨e | a, s'⟩
  · constructor
    · intro h
      cases h
    · rintro ⟨_, _, heq, _⟩
      cases heq
  · constructor
    · intro h
      exact ⟨a, s', rfl, h⟩
    · rintro ⟨_, _, heq, h⟩
      cases heq
      exact h

@[simp] theorem throw_iff {e : ε} :
    Gives (throw e : ExceptT ε (StateM σ) α) s a s' ↔ False := by
  constructor
  · intro h
    cases h
  · exact False.elim

@[simp] theorem get_iff {a : σ} :
    Gives (get : ExceptT ε (StateM σ) σ) s a s' ↔ a = s ∧ s' = s := by
  constructor
  · intro h
    cases h
    exact ⟨rfl, rfl⟩
  · rintro ⟨rfl, rfl⟩
    rfl

@[simp] theorem set_iff {t : σ} : Gives (set t : ExceptT ε (StateM σ) PUnit) s u s' ↔ s' = t := by
  constructor
  · intro h
    cases h
    rfl
  · rintro rfl
    rfl

@[simp] theorem modify_iff {f : σ → σ} :
    Gives (modify f : ExceptT ε (StateM σ) PUnit) s u s' ↔ s' = f s := by
  constructor
  · intro h
    cases h
    rfl
  · rintro rfl
    rfl

theorem mapM_nil_iff : Gives (List.mapM f []) s bs s' ↔ bs = [] ∧ s' = s := by
  rw [List.mapM_nil, pure_iff]

theorem mapM_cons_iff {as : List α} :
    Gives ((a :: as).mapM f) s bs s'' ↔
      ∃ b s' bs', Gives (f a) s b s' ∧ Gives (as.mapM f) s' bs' s'' ∧ bs = b :: bs' := by
  simp only [List.mapM_cons, bind_iff, pure_iff]
  constructor
  · rintro ⟨b, s', hb, bs', t, hbs, rfl, rfl⟩
    exact ⟨b, s', bs', hb, hbs, rfl⟩
  · rintro ⟨b, s', bs', hb, hbs, rfl⟩
    exact ⟨b, s', hb, bs', s'', hbs, rfl, rfl⟩

/-- A computation without a state, inside one with a state. -/
@[simp] theorem lift_iff {x : Except ε α} :
    Gives (liftM x : ExceptT ε (StateM σ) α) s a s' ↔ x = .ok a ∧ s' = s := by
  cases x with
  | error e =>
    constructor
    · intro h
      cases h
    · rintro ⟨h, _⟩
      cases h
  | ok b =>
    constructor
    · intro h
      cases h
      exact ⟨rfl, rfl⟩
    · rintro ⟨h, rfl⟩
      cases h
      rfl

end Gives

end SchemaGuard
