import SchemaGuard.Proofs.CheckParts

/-!
# The text of checks

`Emitted place inBranch known s checks s'` describes the checks that were written between two states
of the compiler, statement by statement: every issue is reported together with the abort of the
function the report stands in, only registered validators are called, the compiler asks for pattern
matching when a pattern is written, names are drawn in the order of the text, and what a statement
reads is among the names known to it. A name is known from the statement that binds it to the end of
the block, the names of a loop inside of the loop alone, and a branch knows what is known where it
is defined.

**Theorem (`validatorOf_emitted`).** The body of every validator is emitted, knowing nothing. The
order of checks, what they use and how their names are bound all follow from this one description.
-/

namespace SchemaGuard.Check

/-! ## The names that are read -/

def Operand.locals : Operand → List Local
  | value => []
  | item name => [name]
  | position operand _ => operand.locals
  | member operand _ => operand.locals
  | memberAt operand key => key :: operand.locals

def Step.locals : Step → List Local
  | bound name => [name]
  | _ => []

def Test.locals : Test → List Local
  | notConst operand _ | notEnum operand _ | notType operand _ | noType operand _
  | notInteger operand | length operand _ _ | number operand _ _ | noMatch operand _
  | notUnique operand | missing operand _ | present operand _ => operand.locals
  | unknownKey name _ | notOneMatch name | failed name => [name]
  | noBranch branches => branches

def Received.locals : Received → List Local
  | typeName operand | shown operand | itself operand | length _ operand => operand.locals
  | fixed _ => []
  | key name | matchCount name => [name]

/-- The local names that a statement reads itself; those that statements inside of it read are
theirs. -/
def Stmt.reads : Stmt → List Local
  | report _ path _ received => path.flatMap Step.locals ++ received.locals
  | ifElse test _ _ => test.locals
  | forItems _ _ operand _ _ | forKeys _ operand _ | call _ _ operand => operand.locals
  | takeOver result path => result :: path.flatMap Step.locals
  | countMatches _ branches => branches
  | abort _ | branch _ _ => []

/-- A test that matches a pattern. -/
def Test.isMatch : Test → Bool
  | noMatch _ _ => true
  | _ => false

/-! ## Steps of the compiler -/

variable {place : Place} {inBranch : Bool} {known : List Local} {s t u : Progress}

/-- Nothing is written. Numbers may have been drawn for names that are not used. -/
def Passes (s t : Progress) : Prop :=
  s.counter ≤ t.counter ∧ t.needsPatterns = s.needsPatterns

/-- A name is drawn. -/
def Draws (s : Progress) (name : Local) (t : Progress) : Prop :=
  s.counter < name.number ∧ t.counter = name.number ∧ t.needsPatterns = s.needsPatterns

/-- A test is written, and pattern matching asked for if it needs that. -/
def Asks (s : Progress) (test : Test) (t : Progress) : Prop :=
  s.counter ≤ t.counter ∧ t.needsPatterns = (s.needsPatterns || test.isMatch)

variable {name : Local} {test : Test} {a : Unit}

theorem Passes.refl (s : Progress) : Passes s s := ⟨Nat.le_refl _, rfl⟩

theorem Passes.trans (h : Passes s t) (h' : Passes t u) : Passes s u :=
  ⟨Nat.le_trans h.1 h'.1, h'.2.trans h.2⟩

theorem Draws.passes (h : Draws s name t) : Passes s t :=
  ⟨by rw [h.2.1]; exact Nat.le_of_lt h.1, h.2.2⟩

theorem Draws.of_passes (h : Draws t name u) (hs : Passes s t) : Draws s name u :=
  ⟨Nat.lt_of_le_of_lt hs.1 h.1, h.2.1, h.2.2.trans hs.2⟩

theorem Asks.of_passes (h : Asks t test u) (hs : Passes s t) : Asks s test u :=
  ⟨Nat.le_trans hs.1 h.1, by rw [h.2, hs.2]⟩

theorem Asks.plain (h : test.isMatch = false) (s : Progress) : Asks s test s :=
  ⟨Nat.le_refl _, by rw [h, Bool.or_false]⟩

theorem fresh_draws {kind : LocalKind} (h : Gives (fresh kind) s name t) : Draws s name t := by
  obtain ⟨rfl, rfl⟩ := fresh_gives.1 h
  exact ⟨Nat.lt_succ_self _, rfl, rfl⟩

theorem note_passes {notice : Notice} (h : Gives (note notice) s a t) : Passes s t := by
  rw [Gives.modify_iff.1 h]
  exact ⟨Nat.le_refl _, rfl⟩

theorem notes_passes {notices : List Notice} (h : Gives (notices.forM note) s a t) :
    Passes s t := by
  induction notices generalizing s with
  | nil =>
    obtain ⟨-, rfl⟩ := Gives.pure_iff.1 h
    exact .refl _
  | cons notice notices ih =>
    obtain ⟨_, _, hnote, hnotes⟩ := Gives.bind_iff.1 h
    exact (note_passes hnote).trans (ih hnotes)

/-! ## Emitted checks -/

/-- Checks as the compiler writes them between two states, in a branch or outside, where some names
are known. -/
inductive Emitted (place : Place) :
    Bool → List Local → Progress → List Stmt → Progress → Prop
  | done {inBranch known s s'} (hs : Passes s s') : Emitted place inBranch known s [] s'
  | report {inBranch known s s' code path expected received rest}
      (hreads : (Stmt.report code path expected received).reads ⊆ known)
      (hrest : Emitted place inBranch known s rest s') :
      Emitted place inBranch known s
        (.report code path expected received :: .abort inBranch :: rest) s'
  | takeOver {inBranch known s s' result path rest}
      (hreads : (Stmt.takeOver result path).reads ⊆ known)
      (hrest : Emitted place inBranch known s rest s') :
      Emitted place inBranch known s
        (.ifElse (.failed result) [.takeOver result path, .abort inBranch] [] :: rest) s'
  | ifElse {inBranch known s t u v s' test body orelse rest} (hasks : Asks s test t)
      (hreads : test.locals ⊆ known) (hbody : Emitted place inBranch known t body u)
      (horelse : Emitted place inBranch known u orelse v)
      (hrest : Emitted place inBranch known v rest s') :
      Emitted place inBranch known s (.ifElse test body orelse :: rest) s'
  | forItems {inBranch known s t u v s' index item operand start body rest}
      (hindex : Draws s index t) (hitem : Draws t item u) (hreads : operand.locals ⊆ known)
      (hbody : Emitted place inBranch (item :: index :: known) u body v)
      (hrest : Emitted place inBranch known v rest s') :
      Emitted place inBranch known s (.forItems index item operand start body :: rest) s'
  | forKeys {inBranch known s t u s' key operand body rest} (hkey : Draws s key t)
      (hreads : operand.locals ⊆ known) (hbody : Emitted place inBranch (key :: known) t body u)
      (hrest : Emitted place inBranch known u rest s') :
      Emitted place inBranch known s (.forKeys key operand body :: rest) s'
  | call {inBranch known s t s' result validator pointer operand rest} (hresult : Draws s result t)
      (hreads : operand.locals ⊆ known)
      (hname : place.registry.validatorName? pointer = some validator)
      (hrest : Emitted place inBranch (result :: known) t rest s') :
      Emitted place inBranch known s (.call result validator operand :: rest) s'
  | branch {inBranch known s t u s' name body rest} (hname : Draws s name t)
      (hbody : Emitted place true known t body u)
      (hrest : Emitted place inBranch (name :: known) u rest s') :
      Emitted place inBranch known s (.branch name body :: rest) s'
  | countMatches {inBranch known s t s' matchCount branches rest} (hcount : Draws s matchCount t)
      (hreads : branches ⊆ known) (hrest : Emitted place inBranch (matchCount :: known) t rest s') :
      Emitted place inBranch known s (.countMatches matchCount branches :: rest) s'

namespace Emitted

variable {first second checks rest : List Stmt} {scope : Scope} {test : Test}

theorem nil : Emitted place inBranch known s [] s := .done (.refl s)

theorem passes_of_nil (h : Emitted place inBranch known s [] t) : Passes s t := by
  cases h with
  | done hs => exact hs

/-- More may be known. -/
theorem mono {more : List Local} (h : Emitted place inBranch known s checks t)
    (hknown : known ⊆ more) : Emitted place inBranch more s checks t := by
  induction h generalizing more with
  | done hs => exact .done hs
  | report hreads _ ih => exact .report (List.Subset.trans hreads hknown) (ih hknown)
  | takeOver hreads _ ih => exact .takeOver (List.Subset.trans hreads hknown) (ih hknown)
  | ifElse hasks hreads _ _ _ ihbody ihorelse ih =>
    exact .ifElse hasks (List.Subset.trans hreads hknown) (ihbody hknown) (ihorelse hknown)
      (ih hknown)
  | forItems hindex hitem hreads _ _ ihbody ih =>
    exact .forItems hindex hitem (List.Subset.trans hreads hknown)
      (ihbody (List.cons_subset_cons _ (List.cons_subset_cons _ hknown))) (ih hknown)
  | forKeys hkey hreads _ _ ihbody ih =>
    exact .forKeys hkey (List.Subset.trans hreads hknown) (ihbody (List.cons_subset_cons _ hknown))
      (ih hknown)
  | call hresult hreads hname _ ih =>
    exact .call hresult (List.Subset.trans hreads hknown) hname
      (ih (List.cons_subset_cons _ hknown))
  | branch hname _ _ ihbody ih =>
    exact .branch hname (ihbody hknown) (ih (List.cons_subset_cons _ hknown))
  | countMatches hcount hreads _ ih =>
    exact .countMatches hcount (List.Subset.trans hreads hknown)
      (ih (List.cons_subset_cons _ hknown))

/-- The compiler may have passed something before. -/
theorem of_passes (h : Emitted place inBranch known t checks u) (hs : Passes s t) :
    Emitted place inBranch known s checks u := by
  induction h with
  | done ht => exact .done (hs.trans ht)
  | report hreads _ ih => exact .report hreads (ih hs)
  | takeOver hreads _ ih => exact .takeOver hreads (ih hs)
  | ifElse hasks hreads hbody horelse hrest =>
    exact .ifElse (hasks.of_passes hs) hreads hbody horelse hrest
  | forItems hindex hitem hreads hbody hrest =>
    exact .forItems (hindex.of_passes hs) hitem hreads hbody hrest
  | forKeys hkey hreads hbody hrest => exact .forKeys (hkey.of_passes hs) hreads hbody hrest
  | call hresult hreads hname hrest => exact .call (hresult.of_passes hs) hreads hname hrest
  | branch hname hbody hrest => exact .branch (hname.of_passes hs) hbody hrest
  | countMatches hcount hreads hrest => exact .countMatches (hcount.of_passes hs) hreads hrest

theorem append (h : Emitted place inBranch known s first t)
    (h' : Emitted place inBranch known t second u) :
    Emitted place inBranch known s (first ++ second) u := by
  induction h with
  | done hs => exact h'.of_passes hs
  | report hreads _ ih => exact .report hreads (ih h')
  | takeOver hreads _ ih => exact .takeOver hreads (ih h')
  | ifElse hasks hreads hbody horelse _ _ _ ih =>
    exact .ifElse hasks hreads hbody horelse (ih h')
  | forItems hindex hitem hreads hbody _ _ ih => exact .forItems hindex hitem hreads hbody (ih h')
  | forKeys hkey hreads hbody _ _ ih => exact .forKeys hkey hreads hbody (ih h')
  | call hresult hreads hname _ ih =>
    exact .call hresult hreads hname (ih (h'.mono (List.subset_cons_self _ _)))
  | branch hname hbody _ _ ih =>
    exact .branch hname hbody (ih (h'.mono (List.subset_cons_self _ _)))
  | countMatches hcount hreads _ ih =>
    exact .countMatches hcount hreads (ih (h'.mono (List.subset_cons_self _ _)))

/-- Checks behind a condition, and others after them. -/
theorem guarded (hplain : test.isMatch = false) (htest : test.locals ⊆ known)
    (h : Emitted place inBranch known s first t) (h' : Emitted place inBranch known t second u) :
    Emitted place inBranch known s (guarded test first ++ second) u := by
  unfold Check.guarded
  split
  · rename_i hempty
    rw [List.isEmpty_iff.1 hempty] at h
    exact h'.of_passes h.passes_of_nil
  · exact .ifElse (.plain hplain s) htest h nil h'

end Emitted

/-- Compiling gives emitted checks, where some names are known. -/
def Writes (place : Place) (inBranch : Bool) (known : List Local) (x : Compile (List Stmt)) :
    Prop :=
  ∀ s checks s', Gives x s checks s' → Emitted place inBranch known s checks s'

namespace Writes

variable {x y : Compile (List Stmt)} {checks : List Stmt}

theorem pure (h : ∀ s, Emitted place inBranch known s checks s) :
    Writes place inBranch known (Pure.pure checks) := by
  intro s _ _ hgives
  obtain ⟨rfl, rfl⟩ := Gives.pure_iff.1 hgives
  exact h _

theorem nil : Writes place inBranch known (Pure.pure []) := pure fun _ => .nil

theorem note (notice : Notice) : Writes place inBranch known (do Check.note notice; return []) := by
  intro s _ _ hgives
  simp only [Gives.bind_iff, Gives.pure_iff] at hgives
  obtain ⟨_, _, hnote, rfl, rfl⟩ := hgives
  exact .done (note_passes hnote)

theorem throw (error : EmitError) : Writes place inBranch known (MonadExcept.throw error) :=
  fun _ _ _ hgives => (Gives.throw_iff.1 hgives).elim

theorem map {f : List Stmt → List Stmt} (hx : Writes place inBranch known x)
    (hf : ∀ {s checks t}, Emitted place inBranch known s checks t →
      Emitted place inBranch known s (f checks) t) :
    Writes place inBranch known (x >>= fun checks => Pure.pure (f checks)) := by
  intro s _ _ hgives
  simp only [Gives.bind_iff, Gives.pure_iff] at hgives
  obtain ⟨_, _, hchecks, rfl, rfl⟩ := hgives
  exact hf (hx _ _ _ hchecks)

theorem map₂ {f : List Stmt → List Stmt → List Stmt} (hx : Writes place inBranch known x)
    (hy : Writes place inBranch known y)
    (hf : ∀ {s first t second u}, Emitted place inBranch known s first t →
      Emitted place inBranch known t second u → Emitted place inBranch known s (f first second) u) :
    Writes place inBranch known
      (x >>= fun first => y >>= fun second => Pure.pure (f first second)) := by
  intro s _ _ hgives
  simp only [Gives.bind_iff, Gives.pure_iff] at hgives
  obtain ⟨_, _, hfirst, _, _, hsecond, rfl, rfl⟩ := hgives
  exact hf (hx _ _ _ hfirst) (hy _ _ _ hsecond)

end Writes

/-- What checks in a scope may read is known. -/
structure Scope.Known (scope : Scope) (known : List Local) : Prop where
  operand : scope.operand.locals ⊆ known
  path : scope.path.flatMap Step.locals ⊆ known

namespace Scope.Known

variable {scope : Scope}

theorem mono {more : List Local} (h : scope.Known known) (hknown : known ⊆ more) :
    scope.Known more := ⟨List.Subset.trans h.operand hknown, List.Subset.trans h.path hknown⟩

theorem inner {operand : Operand} {step : Step} (h : scope.Known known)
    (hoperand : operand.locals ⊆ known) (hstep : step.locals ⊆ known) :
    (scope.inner operand step).Known known := by
  refine ⟨hoperand, ?_⟩
  rw [Scope.inner, List.flatMap_append, List.flatMap_singleton]
  exact List.append_subset.2 ⟨h.path, hstep⟩

end Scope.Known

section Parts

variable {scope : Scope} {checks rest : List Stmt} {test : Test} {code : Code} {expected : String}
  {received : Received} {s' : Progress}

theorem Emitted.reportAt {path : List Step} (hpath : path.flatMap Step.locals ⊆ known)
    (hreceived : received.locals ⊆ known) :
    Emitted place scope.inBranch known s (scope.reportAt path code expected received) s :=
  .report (List.append_subset.2 ⟨hpath, hreceived⟩) .nil

variable (hscope : scope.Known known)
include hscope

theorem Emitted.reportIf (htest : test.locals ⊆ known) (hreceived : received.locals ⊆ known)
    (hasks : Asks s test t) (hrest : Emitted place scope.inBranch known t rest u) :
    Emitted place scope.inBranch known s (scope.reportIf test code expected received :: rest) u :=
  .ifElse hasks htest (reportAt hscope.path hreceived) .nil hrest

/-- A conditional report about the value looked at, in front of emitted checks. -/
theorem Emitted.reportValue (htest : test.locals = scope.operand.locals)
    (hplain : test.isMatch = false) (hreceived : received.locals ⊆ scope.operand.locals)
    (hrest : Emitted place scope.inBranch known s rest t) :
    Emitted place scope.inBranch known s (scope.reportIf test code expected received :: rest) t :=
  reportIf hscope (htest ▸ hscope.operand) (List.Subset.trans hreceived hscope.operand)
    (.plain hplain s) hrest

theorem Emitted.typeCheck {type : TypeTest} {typeName : String}
    (h : Emitted place scope.inBranch known s checks t) :
    Emitted place scope.inBranch known s (typeCheck scope type typeName checks) t :=
  .ifElse (.plain rfl s) hscope.operand (reportAt hscope.path hscope.operand) h .nil

/-! ## Checks without parts -/

variable {path : String}

theorem countChecks_emitted (least most : Option Json) (atLeast atMost : Count → String)
    (counted : Counted) : Emitted place scope.inBranch known s
      (countChecks scope least most atLeast atMost counted) s := by
  unfold countChecks
  refine .append (t := s) ?_ ?_ <;> split
  · exact .reportValue hscope rfl rfl (List.Subset.refl _) .nil
  · exact .nil
  · exact .reportValue hscope rfl rfl (List.Subset.refl _) .nil
  · exact .nil

theorem boundChecks_emitted (bounds : Bounds) :
    Emitted place scope.inBranch known s (boundChecks scope bounds) s := by
  have hcheck : ∀ code comparison sign bound, Emitted place scope.inBranch known s
      [boundCheck scope code comparison sign bound] s :=
    fun _ _ _ _ => .reportValue hscope rfl rfl (List.Subset.refl _) .nil
  unfold boundChecks
  refine .append (t := s) (.append (t := s) (.append (t := s) ?_ ?_) ?_) ?_
  · split
    · split <;> exact hcheck ..
    · exact .nil
  · split
    · exact hcheck ..
    · exact .nil
  · split
    · split <;> exact hcheck ..
    · exact .nil
  · split
    · exact hcheck ..
    · exact .nil

theorem patternCheck_emitted (path : String) (pattern : Option Json) :
    Writes place scope.inBranch known (patternCheck scope path pattern) := by
  unfold patternCheck
  split
  · exact .nil
  · rename_i pattern
    split
    · intro s checks s' h
      simp only [Gives.bind_iff, Gives.pure_iff, Gives.modify_iff] at h
      obtain ⟨_, _, rfl, rfl, rfl⟩ := h
      have hasks : Asks s (.noMatch scope.operand pattern) { s with needsPatterns := true } :=
        ⟨Nat.le_refl _, (Bool.or_true _).symm⟩
      exact .reportIf hscope hscope.operand hscope.operand hasks .nil
    · exact .note _
    · exact .throw _
  · exact .note _

theorem ofPrimitive_emitted (path : String) (type : Primitive) :
    Writes place scope.inBranch known (ofPrimitive scope path type) := by
  cases type with
  | string minLength maxLength pattern =>
    exact .map (.map (patternCheck_emitted hscope path pattern)
      (.append (countChecks_emitted hscope ..))) (.typeCheck hscope)
  | integer bounds =>
    exact .pure fun _ => .typeCheck hscope
      (.reportValue hscope rfl rfl (List.Subset.refl _) (boundChecks_emitted hscope bounds))
  | number bounds => exact .pure fun _ => .typeCheck hscope (boundChecks_emitted hscope bounds)
  | boolean | null => exact .pure fun _ => .typeCheck hscope .nil

theorem ofUnion_emitted (types : List String) :
    Emitted place scope.inBranch known s (ofUnion scope types) s := by
  unfold ofUnion
  split
  · exact .nil
  · exact .reportValue hscope rfl rfl (List.Subset.refl _) .nil

theorem arrayLimitChecks_emitted (limits : ArrayLimits) :
    Emitted place scope.inBranch known s (arrayLimitChecks scope limits) s := by
  refine .append (countChecks_emitted hscope ..) ?_
  split
  · exact .reportValue hscope rfl rfl (List.nil_subset _) .nil
  · exact .nil

theorem tupleLengthCheck_emitted (count : Nat) (isClosed : Bool) :
    Emitted place scope.inBranch known s (tupleLengthCheck scope count isClosed) s := by
  unfold tupleLengthCheck
  split
  · exact .reportValue hscope rfl rfl (List.Subset.refl _) .nil
  · split
    · exact .nil
    · exact .reportValue hscope rfl rfl (List.Subset.refl _) .nil

theorem requiredChecks_emitted (required : List String) :
    Emitted place scope.inBranch known s (required.map (requiredCheck scope)) s := by
  induction required with
  | nil => exact .nil
  | cons key required ih => exact .reportValue hscope rfl rfl (List.nil_subset _) ih

/-! ## Checks with parts -/

theorem branchCheck_emitted {kind : Combinator} {branches : List Local}
    (hbranches : branches ⊆ known) :
    Writes place scope.inBranch known (branchCheck scope kind branches) := by
  unfold branchCheck
  split
  · intro s checks s' h
    simp only [Gives.bind_iff, Gives.pure_iff] at h
    obtain ⟨matchCount, _, hcount, rfl, rfl⟩ := h
    have hmem : [matchCount] ⊆ matchCount :: known := by simp
    exact .countMatches (fresh_draws hcount) hbranches
      (.reportIf (hscope.mono (List.subset_cons_self _ _)) hmem hmem (.plain rfl _) .nil)
  · exact .pure fun _ => .reportIf hscope hbranches (List.nil_subset _) (.plain rfl _) .nil

end Parts

/-- Compiling gives emitted checks, in every scope whose names are known. -/
def Emits (place : Place) (compile : Scope → Compile (List Stmt)) : Prop :=
  ∀ scope known, scope.Known known → Writes place scope.inBranch known (compile scope)

variable {scope : Scope} {onRef : OnRef} (hscope : scope.Known known)
include hscope

variable {nodes : List Node} {origin : Origin} {properties : Option (List (Property Node))}
  {required : List String} {additional : Additional Node} {limits : ObjectLimits}

theorem itemsLoop_emitted (start : Option Nat) {inner : Scope → Compile (List Stmt)}
    (hinner : Emits place inner) :
    Writes place scope.inBranch known (itemsLoop scope start inner) := by
  intro s checks s' h
  simp only [itemsLoop, Gives.bind_iff, Gives.pure_iff] at h
  obtain ⟨index, _, hindex, item, _, hitem, body, _, hbody, rfl, rfl⟩ := h
  have hindex := fresh_draws hindex
  have hitem := fresh_draws hitem
  have hknown := hscope.mono
    (List.Subset.trans (List.subset_cons_self index _) (List.subset_cons_self item _))
  have hbody := hinner _ _ (hknown.inner (List.cons_subset.2 ⟨by simp, List.nil_subset _⟩)
    (List.cons_subset.2 ⟨by simp, List.nil_subset _⟩)) _ _ _ hbody
  split
  · rename_i hempty
    rw [List.isEmpty_iff.1 hempty] at hbody
    exact .done ((hindex.passes.trans hitem.passes).trans hbody.passes_of_nil)
  · exact .forItems hindex hitem hscope.operand hbody .nil

theorem keysLoop_emitted (declared : List String) {inner : Local → Scope → Compile (List Stmt)}
    (hinner : ∀ key inside known, inside.Known known → inside.inBranch = scope.inBranch →
      key ∈ known → Writes place scope.inBranch known (inner key inside)) :
    Writes place scope.inBranch known (keysLoop scope declared inner) := by
  intro s checks s' h
  simp only [keysLoop, Gives.bind_iff] at h
  obtain ⟨key, _, hkey, body, _, hbody, h⟩ := h
  have hkey := fresh_draws hkey
  have hknown := hscope.mono (List.subset_cons_self key _)
  have hmem : key ∈ key :: known := List.mem_cons_self
  have hinside : (scope.inner (.memberAt scope.operand key) (.bound key)).Known (key :: known) :=
    hknown.inner (List.cons_subset.2 ⟨hmem, hknown.operand⟩)
      (List.cons_subset.2 ⟨hmem, List.nil_subset _⟩)
  have hbody := hinner _ _ _ hinside rfl hmem _ _ _ hbody
  split at h
  · rename_i hempty
    obtain ⟨rfl, rfl⟩ := Gives.pure_iff.1 h
    rw [List.isEmpty_iff.1 hempty] at hbody
    exact .done (hkey.passes.trans hbody.passes_of_nil)
  · obtain ⟨rfl, rfl⟩ := Gives.pure_iff.1 h
    refine .forKeys hkey hscope.operand ?_ .nil
    split
    · exact hbody
    · exact .ifElse (.plain rfl _) (List.cons_subset.2 ⟨hmem, List.nil_subset _⟩) hbody .nil .nil

/-- Branches are defined one after the other; all are known to the checks after them. -/
theorem ofBranches_emitted {defined : List (Local × List Stmt)} {rest : List Stmt}
    (hnodes : ∀ node ∈ nodes, Emits place (ofNode onRef node)) (hin : scope.inBranch = true)
    (h : Gives (ofBranches onRef nodes scope) s defined t)
    (hrest : ∀ more, known ⊆ more → defined.map (·.1) ⊆ more →
      Emitted place inBranch more t rest u) :
    Emitted place inBranch known s
      (defined.map (fun branch => .branch branch.1 branch.2) ++ rest) u := by
  induction nodes generalizing known s defined with
  | nil =>
    obtain ⟨rfl, rfl⟩ := Gives.pure_iff.1 h
    exact hrest known (List.Subset.refl _) (List.nil_subset _)
  | cons node nodes ih =>
    simp only [ofBranches, Gives.bind_iff, Gives.pure_iff] at h
    obtain ⟨name, _, hname, body, _, hbody, others, _, hothers, rfl, rfl⟩ := h
    have hbody := hnodes node (by simp) _ _ hscope _ _ _ hbody
    rw [hin] at hbody
    refine .branch (fresh_draws hname) hbody (ih (hscope.mono (List.subset_cons_self _ _))
      (fun n hn => hnodes n (by simp [hn])) hothers fun more hmore hothers => ?_)
    obtain ⟨hmem, hknown⟩ := List.cons_subset.1 hmore
    exact hrest more hknown (List.cons_subset.2 ⟨hmem, hothers⟩)

theorem ofPositions_emitted (hnodes : ∀ node ∈ nodes, Emits place (ofNode onRef node))
    (position : Nat) : Writes place scope.inBranch known (ofPositions onRef nodes position scope) := by
  induction nodes generalizing position with
  | nil => exact .nil
  | cons node nodes ih =>
    exact .map₂ (hnodes node (by simp) _ _ (hscope.inner hscope.operand (List.nil_subset _)))
      (ih (fun n hn => hnodes n (by simp [hn])) _) (.guarded rfl hscope.operand)

theorem ofProperties_emitted {properties : List (Property Node)}
    (hproperties : ∀ property ∈ properties, Emits place (ofNode onRef property.node)) :
    Writes place scope.inBranch known (ofProperties onRef properties scope) := by
  induction properties with
  | nil => exact .nil
  | cons property properties ih =>
    exact .map₂ (hproperties property (by simp) _ _
      (hscope.inner hscope.operand (List.nil_subset _)))
      (ih fun p hp => hproperties p (by simp [hp])) (.guarded rfl hscope.operand)

theorem ofItems_emitted {items : Items Node} {leading : Option (List Node)} {limits : ArrayLimits}
    (h : ∀ node, Node.HasPart (.array origin items leading limits) node →
      Emits place (ofNode onRef node)) :
    Writes place scope.inBranch known (ofItems onRef items leading scope) := by
  unfold ofItems
  split
  · exact .map₂ (ofPositions_emitted hscope (fun node hmem => h node (.leading hmem)) _)
      (itemsLoop_emitted hscope _ (h _ .item)) fun hpositions =>
        .append (.append (tupleLengthCheck_emitted hscope ..) hpositions)
  · exact .map (ofPositions_emitted hscope (fun node hmem => h node (.leading hmem)) _)
      (.append (tupleLengthCheck_emitted hscope ..))
  · exact .map (ofPositions_emitted hscope (fun node hmem => h node (.listed hmem)) _)
      (.append (tupleLengthCheck_emitted hscope ..))
  · exact itemsLoop_emitted hscope _ (h _ .item)
  · exact .nil

theorem ofDeclared_emitted
    (h : ∀ node, Node.HasPart (.object origin properties required additional limits) node →
      Emits place (ofNode onRef node)) :
    Writes place scope.inBranch known (ofDeclared onRef properties scope) := by
  cases properties with
  | some listed => exact ofProperties_emitted hscope fun _ hmem => h _ (.property hmem)
  | none => exact .nil

theorem ofOthers_emitted
    (h : ∀ node, Node.HasPart (.object origin properties required additional limits) node →
      Emits place (ofNode onRef node)) :
    Writes place scope.inBranch known (ofOthers onRef properties additional scope) := by
  unfold ofOthers
  split
  · refine keysLoop_emitted hscope _ fun key inner more hinner hin _ => ?_
    rw [← hin]
    exact h _ .additional _ _ hinner
  · split
    · exact .nil
    · exact keysLoop_emitted hscope _ fun key inner more hinner _ hkey =>
        .pure fun _ => .reportAt hinner.path (List.cons_subset.2 ⟨hkey, List.nil_subset _⟩)
  · exact .nil

omit hscope in
/-- **The checks of a node are emitted**, if those of its references are. -/
theorem ofNode_emitted (hrefs : ∀ target path, Emits place (onRef target path)) (node : Node) :
    Emits place (ofNode onRef node) := by
  induction node using Node.induction with
  | step node ih =>
    cases node with
    | unknown origin => exact fun _ _ _ => .nil
    | const origin value =>
      exact fun _ _ hscope => .pure fun _ =>
        .reportValue hscope rfl rfl (List.Subset.refl _) .nil
    | enum origin values =>
      exact fun _ _ hscope => .pure fun _ =>
        .reportValue hscope rfl rfl (List.Subset.refl _) .nil
    | combinator origin kind branches =>
      intro scope known hscope
      unfold ofNode
      split
      · exact .note _
      · dsimp only
        split
        · exact .note _
        · intro s checks s' h
          simp only [Gives.bind_iff, Gives.pure_iff] at h
          obtain ⟨defined, _, hdefined, check, _, hcheck, rfl, rfl⟩ := h
          have hinner : Scope.Known { scope with inBranch := true } known := ⟨hscope.1, hscope.2⟩
          exact ofBranches_emitted hinner (fun branch hmem => ih branch (.branch hmem)) rfl hdefined
            fun more hmore hbranches =>
              branchCheck_emitted (hscope.mono hmore) hbranches _ _ _ hcheck
    | ref origin target => exact hrefs _ _
    | primitive origin type => exact fun _ _ hscope => ofPrimitive_emitted hscope _ _
    | union origin types => exact fun _ _ hscope => .pure fun _ => ofUnion_emitted hscope types
    | array origin items leading limits =>
      intro scope known hscope
      rw [ofNode_array]
      exact .map (ofItems_emitted hscope ih) fun hparts =>
        .typeCheck hscope (.append hparts (arrayLimitChecks_emitted hscope limits))
    | object origin properties required additional limits =>
      intro scope known hscope
      rw [ofNode_object]
      exact .map₂ (ofDeclared_emitted hscope ih) (ofOthers_emitted hscope ih)
        fun hdeclared hothers => .typeCheck hscope (.append (.append
          (.append (countChecks_emitted hscope ..) (requiredChecks_emitted hscope required))
            hdeclared) hothers)

/-! ## References -/

theorem callValidator_emitted {validator pointer : String}
    (hname : place.registry.validatorName? pointer = some validator) :
    Writes place scope.inBranch known (callValidator validator scope) := by
  intro s checks s' h
  simp only [callValidator, Gives.bind_iff, Gives.pure_iff] at h
  obtain ⟨result, _, hresult, rfl, rfl⟩ := h
  exact .call (fresh_draws hresult) hscope.operand hname
    (.takeOver (List.cons_subset_cons _ hscope.path) .nil)

omit hscope in
theorem ofRef_emitted (place : Place) (fuel : Nat) (opened : List String) (target path : String) :
    Emits place (ofRef place fuel opened target path) := by
  induction fuel generalizing opened target path with
  | zero => exact fun _ _ _ => .throw _
  | succ fuel ih =>
    intro scope known hscope
    unfold ofRef
    split
    · exact callValidator_emitted hscope ‹_›
    · intro s checks s' h
      obtain ⟨_, _, hnotes, h⟩ := Gives.bind_iff.1 h
      refine Emitted.of_passes ?_ (notes_passes hnotes)
      split at h
      · exact (Gives.throw_iff.1 h).elim
      · exact Writes.nil _ _ _ h
      · exact ofNode_emitted (ih _) _ _ _ hscope _ _ _ h

omit hscope in
/-- **The body of every validator is emitted**, with numbers from one on and knowing no names. -/
theorem validatorOf_emitted {node : Node} {name typeName : String} {validator : Validator}
    {s' : Progress} (h : Gives (validatorOf place node name typeName) s validator s') :
    Emitted place false [] { s with counter := 0 } validator.body s' := by
  simp only [validatorOf, Gives.bind_iff, Gives.pure_iff, Gives.modify_iff] at h
  obtain ⟨_, _, rfl, body, _, hbody, rfl, rfl⟩ := h
  exact ofNode_emitted (ofRef_emitted place _ _) node _ _ ⟨List.nil_subset _, List.nil_subset _⟩
    _ _ _ hbody

end SchemaGuard.Check
