import SchemaGuard.Proofs.Meaning
import SchemaGuard.Proofs.Naming
import SchemaGuard.TypeDecl.OfNode

/-!
# What compiling types leaves behind

Compiling a type claims fresh names and hoists declarations under them. `Later s s'` says what may
have happened between two states: names were added to those in use, nothing else in the registry
changed, and the declarations hoisted in between have names that were not in use before and are all
different.

Only the hoisting of an object needs an argument (`Later.hoist`): its name is claimed before its parts
are compiled, and its declaration follows those of its parts.
-/

namespace SchemaGuard.TypeDecl

/-- What may have happened between two states of a compilation. -/
structure Later (s s' : Progress) : Prop where
  grown : s.registry.Grown s'.registry
  sound : s.registry.Sound → s'.registry.Sound
  hoisted : ∃ added, s'.hoisted = s.hoisted ++ added ∧ (added.map name).Nodup ∧
    ∀ declaration ∈ added, s.registry.used.get? declaration.name = none ∧
      ∃ owner, s'.registry.used.get? declaration.name = some owner

namespace Later

theorem refl (s : Progress) : Later s s :=
  ⟨.refl _, id, [], by simp, by simp, by simp⟩

theorem trans {s t u : Progress} (h : Later s t) (h' : Later t u) : Later s u := by
  obtain ⟨added, hadded, hnodup, hnew⟩ := h.hoisted
  obtain ⟨added', hadded', hnodup', hnew'⟩ := h'.hoisted
  refine ⟨h.grown.trans h'.grown, h'.sound ∘ h.sound, added ++ added', ?_, ?_, ?_⟩
  · rw [hadded', hadded, List.append_assoc]
  · rw [List.map_append]
    refine hnodup.append hnodup' ?_
    intro name hfirst hsecond
    obtain ⟨declaration, hmem, rfl⟩ := List.mem_map.1 hfirst
    obtain ⟨declaration', hmem', heq⟩ := List.mem_map.1 hsecond
    -- A name that came in first is in use by the time of the second part, and was not used there.
    obtain ⟨owner, howner⟩ := (hnew declaration hmem).2
    have hunused := (hnew' declaration' hmem').1
    rw [heq, howner] at hunused
    cases hunused
  · intro declaration hmem
    rcases List.mem_append.1 hmem with hmem | hmem
    · obtain ⟨hunused, owner, howner⟩ := hnew declaration hmem
      exact ⟨hunused, owner, h'.grown.used_kept _ _ howner⟩
    · obtain ⟨hunused, hused⟩ := hnew' declaration hmem
      refine ⟨?_, hused⟩
      rw [Option.eq_none_iff_forall_ne_some]
      intro owner howner
      rw [h.grown.used_kept _ _ howner] at hunused
      cases hunused

/-- Notices leave everything else as it is. -/
theorem notices (s : Progress) (notices : List Notice) : Later s { s with notices } :=
  ⟨.refl _, id, [], by simp, by simp, by simp⟩

end Later

/-! ## Computations that only move on -/

/-- Every result of a computation comes with a later state. -/
def Moves {α : Type} (x : Compile α) : Prop := ∀ s a s', Gives x s a s' → Later s s'

namespace Moves

variable {α β : Type} {f : α → Compile β} {elements : List α}

theorem pure (a : α) : Moves (Pure.pure a : Compile α) := by
  intro s b s' h
  obtain ⟨-, rfl⟩ := Gives.pure_iff.1 h
  exact .refl _

theorem throw (error : EmitError) : Moves (MonadExcept.throw error : Compile α) := by
  intro s a s' h
  exact (Gives.throw_iff.1 h).elim

theorem bind {x : Compile α} (hx : Moves x) (hf : ∀ a, Moves (f a)) : Moves (x >>= f) := by
  intro s b s'' h
  obtain ⟨a, s', ha, hb⟩ := Gives.bind_iff.1 h
  exact (hx _ _ _ ha).trans (hf a _ _ _ hb)

theorem mapM (hf : ∀ a, Moves (f a)) : Moves (elements.mapM f) := by
  induction elements with
  | nil => exact .pure []
  | cons a elements ih =>
    rw [List.mapM_cons]
    exact .bind (hf a) fun _ => .bind ih fun _ => .pure _

theorem foldlM {f : β → α → Compile β} (hf : ∀ b a, Moves (f b a)) (start : β) :
    Moves (elements.foldlM f start) := by
  induction elements generalizing start with
  | nil => exact .pure start
  | cons a elements ih =>
    rw [List.foldlM_cons]
    exact .bind (hf start a) fun next => ih next

theorem note (notice : Notice) : Moves (note notice) := by
  intro s a s' h
  rw [Gives.modify_iff.1 h]
  exact .notices s _

theorem notes (notices : List Notice) : Moves (notices.forM TypeDecl.note) := by
  induction notices with
  | nil => exact .pure _
  | cons notice notices ih =>
    exact Moves.bind (.note notice) fun _ => ih

theorem freshName (place : Place) (base : String) : Moves (freshName place base) := by
  intro s name s' h
  simp only [TypeDecl.freshName, Gives.bind_iff, Gives.pure_iff, Gives.get_iff, Gives.set_iff] at h
  obtain ⟨_, _, ⟨rfl, rfl⟩, _, _, rfl, _, rfl⟩ := h
  exact ⟨Registry.claimUnique_grown _ _ _, fun hsound => Registry.claimUnique_sound hsound _ _,
    [], by simp, by simp, by simp⟩

theorem expand (place : Place) (opened : List String) (ref path : String) :
    Moves (expand place opened ref path) := by
  unfold TypeDecl.expand
  refine .bind (.notes _) fun _ => ?_
  split
  · exact .pure _
  · exact .throw _

end Moves

variable {place : Place} {opened : List String} {s s' : Progress} {ref : String}

/-- A reference is expanded to the node it leads to, and not inside its own expansion. -/
theorem expand_gives {path : String} {node : Option Node}
    (h : Gives (expand place opened ref path) s node s') :
    leadsTo place.document ref = node ∧ ref ∉ opened := by
  simp only [expand, Gives.bind_iff] at h
  obtain ⟨_, _, _, h⟩ := h
  split at h
  · rename_i hresolve
    obtain ⟨rfl, -⟩ := Gives.pure_iff.1 h
    refine ⟨leadsTo_of_resolve hresolve, fun hmem => ?_⟩
    rw [Emit.resolve, if_pos (List.contains_iff_mem.2 hmem)] at hresolve
    cases hresolve
  · exact (Gives.throw_iff.1 h).elim

theorem notes_give (notices : List Notice) (s : Progress) :
    ∃ s', Gives (notices.forM note) s () s' := by
  induction notices generalizing s with
  | nil => exact ⟨s, rfl⟩
  | cons notice notices ih => exact ih _

theorem expand_of_leadsTo {node : Node} (hnew : ref ∉ opened)
    (h : leadsTo place.document ref = some node) (path : String) (s : Progress) :
    ∃ s', Gives (expand place opened ref path) s (some node) s' := by
  have hresolve : (Emit.resolve .types place.document opened ref path).outcome = .ok (some node) :=
    resolve_of_leadsTo hnew h
  obtain ⟨s', hnotes⟩ := notes_give (Emit.resolve .types place.document opened ref path).notices s
  refine ⟨s', Gives.bind_iff.2 ⟨(), s', hnotes, ?_⟩⟩
  rw [hresolve]
  rfl

/-! ## What results ensure -/

/-- A property of states that held before if it holds later. -/
structure Condition where
  holds : Progress → Prop
  earlier : ∀ {s s' : Progress}, Later s s' → holds s' → holds s

/-- Every result with which a computation ends under a condition has a property. -/
def Ensures {α : Type} (condition : Condition) (x : Compile α) (p : α → Prop) : Prop :=
  ∀ s a s', Gives x s a s' → condition.holds s' → p a

namespace Ensures

variable {α β : Type} {condition : Condition} {p : α → Prop} {q : β → Prop} {x : Compile α}
  {f : α → Compile β} {elements : List α}

theorem pure {a : α} (h : p a) : Ensures condition (Pure.pure a : Compile α) p := by
  intro s b s' hgives _
  obtain ⟨rfl, -⟩ := Gives.pure_iff.1 hgives
  exact h

theorem throw (error : EmitError) : Ensures condition (MonadExcept.throw error : Compile α) p := by
  intro s a s' hgives
  exact (Gives.throw_iff.1 hgives).elim

theorem of_gives (h : ∀ s a s', Gives x s a s' → p a) : Ensures condition x p :=
  fun s a s' hgives _ => h s a s' hgives

theorem get : Ensures condition (MonadState.get : Compile Progress) condition.holds := by
  intro s a s' hgives hholds
  obtain ⟨rfl, rfl⟩ := Gives.get_iff.1 hgives
  exact hholds

theorem bind (hx : Ensures condition x p) (hmoves : ∀ a, Moves (f a))
    (hf : ∀ a, p a → Ensures condition (f a) q) : Ensures condition (x >>= f) q := by
  intro s b s'' hgives hholds
  obtain ⟨a, s', ha, hb⟩ := Gives.bind_iff.1 hgives
  exact hf a (hx _ _ _ ha (condition.earlier (hmoves a _ _ _ hb) hholds)) _ _ _ hb hholds

theorem map {g : α → β} (hx : Ensures condition x p) (hg : ∀ a, p a → q (g a)) :
    Ensures condition (x >>= fun a => Pure.pure (g a)) q :=
  hx.bind (fun _ => .pure _) fun a ha => .pure (hg a ha)

theorem mapM {p : α → β → Prop} (hmoves : ∀ a, Moves (f a))
    (h : ∀ a ∈ elements, Ensures condition (f a) (p a)) :
    Ensures condition (elements.mapM f) (List.Forall₂ p elements) := by
  induction elements with
  | nil => exact .pure .nil
  | cons a elements ih =>
    rw [List.mapM_cons]
    refine .bind (h a (by simp)) (fun _ => .bind (.mapM hmoves) fun _ => .pure _) fun b hb => ?_
    exact .map (ih fun a' ha' => h a' (by simp [ha'])) fun bs hbs => .cons hb hbs

theorem foldlM {f : β → α → Compile β} {start : β} (hmoves : ∀ b a, Moves (f b a))
    (hstart : q start) (h : ∀ a ∈ elements, ∀ b, q b → Ensures condition (f b a) q) :
    Ensures condition (elements.foldlM f start) q := by
  induction elements generalizing start with
  | nil => exact .pure hstart
  | cons a elements ih =>
    rw [List.foldlM_cons]
    refine .bind (h a (by simp) start hstart) (fun next => .foldlM hmoves next) fun next hnext => ?_
    exact ih hnext fun a' ha' => h a' (by simp [ha'])

end Ensures

/-! ## Hoisting -/

variable {fuel : Nat} {properties : List (Property Node)}

/-- Claiming a fresh name, going on from there, and adding a declaration of that name. -/
theorem Later.hoist (base pointer : String) (fields : List Field)
    (h : Later { s with registry := (s.registry.claimUnique base pointer).2 } s') :
    Later s { s' with hoisted := s'.hoisted ++ [.dict (s.registry.freeName base) fields] } := by
  obtain ⟨hunused, -⟩ := Registry.freeName_fresh s.registry base
  have hclaimed : (s.registry.claimUnique base pointer).2.used.get? (s.registry.freeName base) =
      some pointer := (Table.get?_put ..).trans (if_pos rfl)
  have hgrown := Registry.claimUnique_grown s.registry base pointer
  obtain ⟨added, hadded, hnodup, hnew⟩ := h.hoisted
  refine ⟨hgrown.trans h.grown,
    fun hsound => h.sound (Registry.claimUnique_sound hsound base pointer),
    added ++ [.dict (s.registry.freeName base) fields], ?_, ?_, ?_⟩
  · simp only [hadded, List.append_assoc]
  · rw [List.map_append]
    refine hnodup.append (List.nodup_singleton _) ?_
    intro name hadded hname
    obtain ⟨declaration, hmem, rfl⟩ := List.mem_map.1 hadded
    have heq : declaration.name = s.registry.freeName base := List.mem_singleton.1 hname
    have hfresh := (hnew declaration hmem).1
    rw [heq, hclaimed] at hfresh
    cases hfresh
  · intro declaration hmem
    rcases List.mem_append.1 hmem with hmem | hmem
    · obtain ⟨hfresh, hused⟩ := hnew declaration hmem
      refine ⟨?_, hused⟩
      rw [Option.eq_none_iff_forall_ne_some]
      intro owner howner
      rw [hgrown.used_kept _ _ howner] at hfresh
      cases hfresh
    · obtain rfl := List.mem_singleton.1 hmem
      exact ⟨hunused, pointer, h.grown.used_kept _ _ hclaimed⟩

/-- What hoisting an object does, taken apart. -/
theorem hoist_gives {base : String} {type : TypeExpr}
    (h : Gives (hoist place (fuel + 1) opened properties base) s type s') :
    ∃ declaration t, Gives (dictOf place fuel opened (s.registry.freeName base) properties)
        { s with registry := (s.registry.claimUnique base place.pointer).2 } declaration t ∧
      type = .name (s.registry.freeName base) ∧
      s' = { t with hoisted := t.hoisted ++ [declaration] } := by
  simp only [hoist, freshName, addHoisted, Gives.bind_iff, Gives.pure_iff, Gives.get_iff,
    Gives.set_iff, Gives.modify_iff] at h
  obtain ⟨_, _, ⟨_, _, ⟨rfl, rfl⟩, _, _, rfl, rfl, rfl⟩, declaration, t, hdict, _, _, rfl,
    rfl, rfl⟩ := h
  exact ⟨declaration, t, hdict, rfl, rfl⟩

theorem dictOf_gives {name : String} {declaration : TypeDecl}
    (h : Gives (dictOf place fuel opened name properties) s declaration s') :
    ∃ fields, declaration = .dict name fields := by
  cases fuel with
  | zero => simp [dictOf] at h
  | succ fuel =>
    simp only [dictOf, Gives.bind_iff, Gives.pure_iff] at h
    obtain ⟨fields, _, _, rfl, _⟩ := h
    exact ⟨fields, rfl⟩

/-- Collecting the properties that a reference leads to. -/
theorem propertiesOf_ref (place : Place) (fuel : Nat) (opened : List String) (origin : Origin)
    (target : String) :
    propertiesOf place (fuel + 1) opened (.ref origin target) =
      if opened.contains target then
        throw (.cyclicAllOf target origin.path)
      else
        match Schema.nodeAt place.document target with
        | .ok resolved => propertiesOf place fuel (target :: opened) resolved
        | .error (.lookup (.pointer _)) => return none
        | .error (.lookup (.index error)) => throw (.index error)
        | .error (.type error) => throw (.type error) := by
  simp only [propertiesOf]
  split
  · rfl
  · rfl

end SchemaGuard.TypeDecl
