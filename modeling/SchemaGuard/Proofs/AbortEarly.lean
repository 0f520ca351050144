import SchemaGuard.Proofs.Calls
import SchemaGuard.Proofs.Emitted

/-!
# Stopping at the first issue

A validator that stops at the first issue runs the same statements as one that collects them all.

**Theorem (`runAs_cut`).** If a validator returns when it collects all issues, it also returns when
it stops at the first one, with the same success or with a failure cut down to its first issue.

The two runs go in lockstep (`Alike`) as long as nothing is reported: they see the same values under
the same names, a call whose outcome the one holds in full the other holds cut (`BoundCut`), and a
branch that gives a verdict in the one gives it in the other. At the first report the second run
returns. The first goes on, but what it has reported stays in front (`Emitted.run_grows`), so the
issue the second run returned is the first one in the end. Inside a branch both runs end at the
first report.

Nothing here depends on what the names of helpers stand for, so the theorem holds for every `Names`.
-/

namespace SchemaGuard.Check

/-! ## Outcomes and frames -/

/-- What stopping at the first issue makes of an outcome. -/
inductive Cut : Outcome → Outcome → Prop
  | success (value : Value) : Cut (.success value) (.success value)
  | failure (first : Issue) (others : List Issue) :
      Cut (.failure (first :: others)) (.failure [first])

theorem Cut.isFailure_eq {full short : Outcome} (h : Cut full short) :
    short.isFailure = full.isFailure := by
  cases h <;> rfl

/-- What one computation gives, the other one gives. -/
def Keeps {α : Type} (x y : Except Fault α) : Prop := ∀ a, x = .ok a → y = .ok a

namespace Keeps

variable {α β : Type} {x y : Except Fault α} {f g : α → Except Fault β}

theorem refl (x : Except Fault α) : Keeps x x := fun _ h => h

theorem bind (h : Keeps x y) (hf : ∀ a, Keeps (f a) (g a)) : Keeps (x >>= f) (y >>= g) := by
  intro b hb
  obtain ⟨a, ha, hb⟩ := bind_eq_ok.1 hb
  exact bind_eq_ok.2 ⟨a, h a ha, hf a b hb⟩

/-- Both go on in the same way. -/
theorem then_same (h : Keeps x y) : Keeps (x >>= f) (y >>= f) := h.bind fun _ => .refl _

theorem mapM (h : ∀ a, Keeps (f a) (g a)) (elements : List α) :
    Keeps (elements.mapM f) (elements.mapM g) := by
  induction elements with
  | nil => exact .refl _
  | cons a elements ih =>
    rw [List.mapM_cons, List.mapM_cons]
    exact .bind (h a) fun _ => ih.then_same

end Keeps

/-- What stopping at the first issue makes of what a name is bound to. -/
inductive BoundCut : Bound → Bound → Prop
  | item (value : Value) : BoundCut (.item value) (.item value)
  | index (position : Nat) : BoundCut (.index position) (.index position)
  | key (name : String) : BoundCut (.key name) (.key name)
  | result {full short : Outcome} (h : Cut full short) : BoundCut (.result full) (.result short)
  | matchCount (count : Nat) : BoundCut (.matchCount count) (.matchCount count)
  | branch {full short : Unit → Except Fault Bool} (h : Keeps (full ()) (short ())) :
      BoundCut (.branch full) (.branch short)

/-- Two frames of the same function, of which the second stops at the first issue. -/
structure Alike (full short : Frame) : Prop where
  value_eq : short.value = full.value
  lookup_cut : ∀ name bound, full.lookup name = .ok bound →
    ∃ bound', short.lookup name = .ok bound' ∧ BoundCut bound bound'

variable {full short : Frame} {bound bound' : Bound}

section Alike

variable (h : Alike full short)

include h

theorem Alike.bind (name : Local) (hb : BoundCut bound bound') :
    Alike (full.bind name bound) (short.bind name bound') := by
  refine ⟨h.value_eq, fun other found hfound => ?_⟩
  rw [Frame.lookup_bind] at hfound ⊢
  split at hfound
  · cases hfound
    exact ⟨bound', by simp_all, hb⟩
  · rename_i hne
    simpa [hne] using h.lookup_cut other found hfound

theorem Alike.issues (issues issues' : List Issue) :
    Alike { full with issues } { short with issues := issues' } :=
  ⟨h.value_eq, h.lookup_cut⟩

/-- What goes on with what a name is bound to, and does the same with what stopping makes of it. -/
theorem Alike.lookup {α : Type} {f : Bound → Except Fault α} (name : Local)
    (hf : ∀ bound bound', BoundCut bound bound' → Keeps (f bound) (f bound')) :
    Keeps (full.lookup name >>= f) (short.lookup name >>= f) := by
  intro a ha
  obtain ⟨bound, hbound, ha⟩ := bind_eq_ok.1 ha
  obtain ⟨bound', hbound', hcut⟩ := h.lookup_cut _ _ hbound
  exact bind_eq_ok.2 ⟨bound', hbound', hf _ _ hcut a ha⟩

/-! ## Looking at values -/

theorem Alike.keyOf (name : Local) : Keeps (keyOf full name) (keyOf short name) :=
  h.lookup name fun _ _ hcut => by cases hcut <;> exact .refl _

theorem Alike.operand (operand : Operand) : Keeps (operand.eval full) (operand.eval short) := by
  induction operand with
  | value =>
    rw [Operand.eval, Operand.eval, h.value_eq]
    exact .refl _
  | item name => exact h.lookup name fun _ _ hcut => by cases hcut <;> exact .refl _
  | position operand index ih => exact ih.then_same
  | member operand key ih => exact ih.then_same
  | memberAt operand name ih => exact ih.bind fun _ => (h.keyOf name).then_same

theorem Alike.step (step : Step) : Keeps (step.eval full) (step.eval short) := by
  cases step with
  | key | index => exact .refl _
  | bound name => exact h.lookup name fun _ _ hcut => by cases hcut <;> exact .refl _

/-! ## Tests and descriptions -/

theorem Alike.callBranch (name : Local) : Keeps (callBranch full name) (callBranch short name) := by
  refine h.lookup name fun _ _ hcut => ?_
  cases hcut with
  | branch hverdict => exact hverdict
  | item | index | key | result | matchCount => exact .refl _

theorem Alike.callUntil (names : List Local) :
    Keeps (callUntil full names) (callUntil short names) := by
  induction names with
  | nil => exact .refl _
  | cons name names ih =>
    refine (h.callBranch name).bind fun passes => ?_
    cases passes with
    | true => exact .refl _
    | false => exact ih

theorem Alike.matchCountOf (name : Local) :
    Keeps (matchCountOf full name) (matchCountOf short name) :=
  h.lookup name fun _ _ hcut => by cases hcut <;> exact .refl _

theorem Alike.resultOf {name : Local} {outcome : Outcome} (hresult : resultOf full name = .ok outcome) :
    ∃ outcome', resultOf short name = .ok outcome' ∧ Cut outcome outcome' := by
  simp only [Check.resultOf, bind_eq_ok] at hresult ⊢
  obtain ⟨bound, hbound, hresult⟩ := hresult
  obtain ⟨bound', hbound', hcut⟩ := h.lookup_cut _ _ hbound
  cases hcut with
  | result hcut =>
    cases hresult
    exact ⟨_, ⟨_, hbound', rfl⟩, hcut⟩
  | item | index | key | branch | matchCount => cases hresult

theorem Alike.test (names : Names) (test : Test) :
    Keeps (test.eval names full) (test.eval names short) := by
  cases test with
  | notConst operand | notEnum operand | notType operand | noType operand | notInteger operand
  | length operand | number operand | notUnique operand | missing operand | present operand =>
    exact (h.operand operand).then_same
  | noMatch operand => exact (Keeps.refl _).bind fun _ => (h.operand operand).then_same
  | unknownKey name => exact (h.keyOf name).then_same
  | notOneMatch name => exact (h.matchCountOf name).then_same
  | noBranch branches => exact (h.callUntil branches).then_same
  | failed name =>
    -- What the call returned may have been cut, which leaves it a failure or none.
    intro holds heval
    obtain ⟨outcome, houtcome, heval⟩ := bind_eq_ok.1 heval
    obtain ⟨outcome', houtcome', hcut⟩ := h.resultOf houtcome
    exact bind_eq_ok.2 ⟨outcome', houtcome', hcut.isFailure_eq ▸ heval⟩

theorem Alike.received (names : Names) (received : Received) :
    Keeps (received.eval names full) (received.eval names short) := by
  cases received with
  | typeName operand | shown operand | itself operand => exact (h.operand operand).then_same
  | length counted operand => exact (h.operand operand).then_same
  | fixed text => exact .refl _
  | key name => exact (h.keyOf name).then_same
  | matchCount name => exact (h.matchCountOf name).then_same

end Alike

/-! ## Statements -/

/-- A later frame of the same function, with no issue dropped. -/
structure Frame.Grown (frame later : Frame) : Prop where
  value_eq : later.value = frame.value
  issues_kept : frame.issues <+: later.issues

theorem Frame.Grown.refl (frame : Frame) : frame.Grown frame := ⟨rfl, List.prefix_refl _⟩

theorem Frame.Grown.append (frame : Frame) (issues : List Issue) :
    frame.Grown { frame with issues := frame.issues ++ issues } :=
  ⟨rfl, List.prefix_append _ _⟩

/-- What is run gets to its end and only adds to the issues. -/
def Grows (run : Frame → Except Fault Flow) : Prop :=
  ∀ frame flow, run frame = .ok flow → ∃ later, flow = .next later ∧ frame.Grown later

variable {names : Names} {name : Local} {value : Value} {flow flow' : Flow} {call : Call}
  {inBranch : Bool} {place : Place} {known : List Local} {s s' : Progress} {frame : Frame}
  {run : Frame → Except Fault Flow} {α : Type}
  {body : α → Frame → Except Fault Flow} {elements : List α} {statement : Stmt}
  {statements checks : List Stmt}

theorem Grows.andThen (h : ∃ later, flow = .next later ∧ frame.Grown later) (hrun : Grows run)
    (heval : flow.andThen run = .ok flow') : ∃ later, flow' = .next later ∧ frame.Grown later := by
  obtain ⟨later, rfl, hgrown⟩ := h
  obtain ⟨later', rfl, hgrown'⟩ := hrun _ _ heval
  exact ⟨later', rfl, hgrown'.value_eq.trans hgrown.value_eq,
    hgrown.issues_kept.trans hgrown'.issues_kept⟩

/-- New names change neither the value nor the issues. -/
theorem Grows.of_bind (hrun : Grows run) {inner : Frame} (h : run inner = .ok flow)
    (hvalue : inner.value = frame.value) (hissues : inner.issues = frame.issues) :
    ∃ later, flow = .next later ∧ frame.Grown later := by
  obtain ⟨later, rfl, hgrown⟩ := hrun _ _ h
  exact ⟨later, rfl, hgrown.value_eq.trans hvalue, hissues ▸ hgrown.issues_kept⟩

theorem loop_grows (hbody : ∀ element, Grows (body element)) : Grows (loop body elements) := by
  induction elements with
  | nil =>
    intro frame flow h
    cases h
    exact ⟨frame, rfl, .refl _⟩
  | cons element elements ih =>
    intro frame flow h
    simp only [loop, bind_eq_ok] at h
    obtain ⟨first, hfirst, h⟩ := h
    exact Grows.andThen (hbody _ _ _ hfirst) ih h

theorem of_runAll_cons {abortEarly : Bool}
    (h : runAll names call abortEarly (statement :: statements) frame = .ok flow) :
    ∃ first, statement.run names call abortEarly frame = .ok first ∧
      first.andThen (runAll names call abortEarly statements) = .ok flow :=
  bind_eq_ok.1 (runAll_cons names call abortEarly statement statements frame ▸ h)

theorem Grows.cons (hstatement : Grows (statement.run names call false))
    (hstatements : Grows (runAll names call false statements)) :
    Grows (runAll names call false (statement :: statements)) := by
  intro frame flow hrun
  obtain ⟨first, hfirst, hrun⟩ := of_runAll_cons hrun
  exact Grows.andThen (hstatement _ _ hfirst) hstatements hrun

theorem rounds_grow (index item : Local) (hbody : Grows (runAll names call false checks))
    (round : Except Fault Round) : Grows (fun frame => do
      let round ← round
      runAll names call false checks ((frame.bind index round.index).bind item round.item)) := by
  intro frame flow h
  obtain ⟨_, _, h⟩ := bind_eq_ok.1 h
  exact hbody.of_bind h rfl rfl

theorem keys_grow (key : Local) (hbody : Grows (runAll names call false checks)) (name : String) :
    Grows fun frame => runAll names call false checks (frame.bind key (.key name)) :=
  fun _ _ h => hbody.of_bind h rfl rfl

/-- Outside of branches, collecting all issues never ends the checks and never drops an issue. -/
theorem Emitted.run_grows (h : Emitted place inBranch known s checks s') (hout : inBranch = false) :
    Grows (runAll names call false checks) := by
  induction h with
  | done =>
    intro frame flow hrun
    cases hrun
    exact ⟨frame, rfl, .refl _⟩
  | report _ _ ih =>
    subst hout
    refine Grows.cons (fun frame flow hrun => ?_) (Grows.cons (fun frame flow hrun => ?_) (ih rfl))
    · simp only [Stmt.run, bind_eq_ok, pure_eq_ok] at hrun
      obtain ⟨_, _, _, _, _, _, rfl⟩ := hrun
      exact ⟨_, rfl, .append _ _⟩
    · cases hrun
      exact ⟨frame, rfl, .refl _⟩
  | takeOver _ _ ih =>
    subst hout
    refine Grows.cons (fun frame flow hrun => ?_) (ih rfl)
    simp only [Stmt.run, bind_eq_ok] at hrun
    obtain ⟨failed, _, hrun⟩ := hrun
    cases failed with
    | false =>
      cases hrun
      exact ⟨frame, rfl, .refl _⟩
    | true =>
      obtain ⟨_, hover, hrun⟩ := of_runAll_cons hrun
      simp only [Stmt.run, bind_eq_ok, pure_eq_ok] at hover
      obtain ⟨_, _, _, _, rfl⟩ := hover
      cases hrun
      exact ⟨_, rfl, .append _ _⟩
  | ifElse _ _ _ _ _ ihbody ihorelse ih =>
    refine Grows.cons (fun frame flow hrun => ?_) (ih hout)
    simp only [Stmt.run, bind_eq_ok] at hrun
    obtain ⟨_, _, hrun⟩ := hrun
    split at hrun
    · exact ihbody hout _ _ hrun
    · exact ihorelse hout _ _ hrun
  | forItems _ _ _ _ _ ihbody ih =>
    refine Grows.cons (fun frame flow hrun => ?_) (ih hout)
    simp only [Stmt.run, bind_eq_ok] at hrun
    obtain ⟨_, _, _, _, hrun⟩ := hrun
    exact loop_grows (rounds_grow _ _ (ihbody hout)) _ _ hrun
  | forKeys _ _ _ _ ihbody ih =>
    refine Grows.cons (fun frame flow hrun => ?_) (ih hout)
    simp only [Stmt.run, bind_eq_ok] at hrun
    obtain ⟨_, _, _, _, hrun⟩ := hrun
    exact loop_grows (keys_grow _ (ihbody hout)) _ _ hrun
  | call _ _ _ _ ih =>
    refine Grows.cons (fun frame flow hrun => ?_) (ih hout)
    simp only [Stmt.run, bind_eq_ok, pure_eq_ok] at hrun
    obtain ⟨_, _, _, _, rfl⟩ := hrun
    exact ⟨_, rfl, rfl, List.prefix_refl _⟩
  | branch _ _ _ _ ih =>
    refine Grows.cons (fun frame flow hrun => ?_) (ih hout)
    cases hrun
    exact ⟨_, rfl, rfl, List.prefix_refl _⟩
  | countMatches _ _ _ ih =>
    refine Grows.cons (fun frame flow hrun => ?_) (ih hout)
    simp only [Stmt.run, bind_eq_ok, pure_eq_ok] at hrun
    obtain ⟨_, _, rfl⟩ := hrun
    exact ⟨_, rfl, rfl, List.prefix_refl _⟩

/-! ## Two runs in lockstep -/

/-- Alike frames of functions that have not reported anything. -/
structure Lockstep (full short : Frame) : Prop extends Alike full short where
  full_issues : full.issues = []
  short_issues : short.issues = []

theorem Lockstep.bind (h : Lockstep full short) (name : Local) (hb : BoundCut bound bound') :
    Lockstep (full.bind name bound) (short.bind name bound') :=
  ⟨h.toAlike.bind name hb, h.full_issues, h.short_issues⟩

/-- How the run that stops at the first issue ends, given how the other one does: it goes on, or it
has failed with the first issue of the other, or the value is refused in both. -/
inductive FlowCut (names : Names) (inBranch : Bool) : Flow → Except Fault Flow → Prop
  | next {full short : Frame} (h : Lockstep full short) :
      FlowCut names inBranch (.next full) (.ok (.next short))
  | stopped {frame : Frame} {first : Issue} {others : List Issue} (hout : inBranch = false)
      (hissues : frame.issues = first :: others) :
      FlowCut names inBranch (.next frame) (do names.fail; return .failed [first])
  | refused (hin : inBranch = true) : FlowCut names inBranch .refused (.ok .refused)

/-- From frames in lockstep a run that stops at the first issue ends as the other one lets it. -/
def Cuts (names : Names) (inBranch : Bool) (run run' : Frame → Except Fault Flow) : Prop :=
  ∀ full short flow, Lockstep full short → run full = .ok flow →
    FlowCut names inBranch flow (run' short)

/-- One run after the other: the second part of a run in lockstep is in lockstep, or the first part
has stopped. -/
theorem FlowCut.andThen {run' : Frame → Except Fault Flow} {stopping : Except Fault Flow}
    (h : FlowCut names inBranch flow stopping) (hgrows : inBranch = false → Grows run)
    (hrun : Cuts names inBranch run run') (heval : flow.andThen run = .ok flow') :
    FlowCut names inBranch flow' (do (← stopping).andThen run') := by
  cases h with
  | next h => exact hrun _ _ _ h heval
  | @stopped frame first others hout hissues =>
    obtain ⟨later, rfl, hgrown⟩ := hgrows hout _ _ heval
    have hkept := hgrown.issues_kept
    rw [hissues] at hkept
    obtain ⟨others', hissues'⟩ := hkept
    have hsame : (names.fail >>= fun _ => pure (Flow.failed [first])) >>= (·.andThen run') =
        names.fail >>= fun _ => pure (Flow.failed [first]) := by
      cases names.fail <;> rfl
    rw [hsame]
    exact .stopped hout hissues'.symm
  | refused hin =>
    cases heval
    exact .refused hin

theorem loop_cut {body' : α → Frame → Except Fault Flow}
    (hgrows : inBranch = false → ∀ element, Grows (body element))
    (hbody : ∀ element ∈ elements, Cuts names inBranch (body element) (body' element)) :
    Cuts names inBranch (loop body elements) (loop body' elements) := by
  induction elements with
  | nil =>
    intro full short flow h hrun
    cases hrun
    exact .next h
  | cons element elements ih =>
    intro full short flow h hrun
    simp only [loop, bind_eq_ok] at hrun
    obtain ⟨first, hfirst, hrun⟩ := hrun
    exact (hbody element (by simp) _ _ _ h hfirst).andThen (fun hout => loop_grows (hgrows hout))
      (ih fun e he => hbody e (by simp [he])) hrun

/-- What a round of a loop binds is the same in both runs. -/
theorem roundsOf_cut {start : Option Nat} {rounds : List (Except Fault Round)}
    (h : roundsOf names value start = .ok rounds) :
    ∀ round, .ok round ∈ rounds →
      BoundCut round.index round.index ∧ BoundCut round.item round.item := by
  unfold roundsOf at h
  split at h
  · simp only [bind_eq_ok, pure_eq_ok] at h
    obtain ⟨items, _, rfl⟩ := h
    intro round hround
    simp only [List.mem_map, Except.ok.injEq] at hround
    obtain ⟨_, _, rfl⟩ := hround
    exact ⟨.index _, .item _⟩
  · simp only [bind_eq_ok, pure_eq_ok] at h
    obtain ⟨table, _, rfl⟩ := h
    intro round hround
    simp only [List.mem_map] at hround
    obtain ⟨entry, _, hround⟩ := hround
    cases hparts : unpack entry.1 with
    | error fault =>
      rw [hparts] at hround
      cases hround
    | ok parts =>
      rw [hparts] at hround
      cases hround
      exact ⟨.item _, .item _⟩
  · cases h

theorem failed_of_isInstance {helper : Helper} {answer : Bool}
    (h : names.isInstance [(helper, answer)] = .ok true) : answer = true := by
  simp only [Names.isInstance, Names.askClasses, bind_eq_ok] at h
  obtain ⟨_, _, h⟩ := h
  cases answer with
  | true => rfl
  | false => split at h <;> simp at h

/-- A validator that stops at the first issue returns what the one that does not returns, cut. -/
def CallCut (call call' : Call) : Prop :=
  ∀ name value outcome, call name value = .ok outcome →
    ∃ outcome', call' name value = .ok outcome' ∧ Cut outcome outcome'

variable {call' : Call}

/-- What stopping makes of some checks and of those after them. -/
theorem cut_append {first second : List Stmt} (hsecond : Emitted place inBranch known s second s')
    (hfirst : Cuts names inBranch (runAll names call false first) (runAll names call' true first))
    (ih : Cuts names inBranch (runAll names call false second) (runAll names call' true second)) :
    Cuts names inBranch (runAll names call false (first ++ second))
      (runAll names call' true (first ++ second)) := by
  intro full short flow h hrun
  rw [runAll_append, bind_eq_ok] at hrun
  obtain ⟨between, hbetween, hrun⟩ := hrun
  rw [runAll_append]
  exact (hfirst _ _ _ h hbetween).andThen (fun hout => hsecond.run_grows hout) ih hrun

/-- The same for one statement. -/
theorem cut_cons (hstatements : Emitted place inBranch known s statements s')
    (hstatement : Cuts names inBranch (statement.run names call false)
      (statement.run names call' true))
    (ih : Cuts names inBranch (runAll names call false statements)
      (runAll names call' true statements)) :
    Cuts names inBranch (runAll names call false (statement :: statements))
      (runAll names call' true (statement :: statements)) := by
  have hfirst : Cuts names inBranch (runAll names call false [statement])
      (runAll names call' true [statement]) := by
    intro full short flow h hrun
    rw [runAll_singleton] at hrun ⊢
    exact hstatement _ _ _ h hrun
  exact cut_append hstatements hfirst ih

/-- The abort after a first report: one run stops here, unless both are refused. -/
theorem abort_cut {first : Issue} {others : List Issue} (hfull : full.issues = first :: others)
    (hshort : short.issues = [first])
    (hrun : (Stmt.abort inBranch).run names call false full = .ok flow) :
    FlowCut names inBranch flow ((Stmt.abort inBranch).run names call' true short) := by
  cases inBranch with
  | true =>
    cases hrun
    exact .refused rfl
  | false =>
    cases hrun
    have hstop : (Stmt.abort false).run names call' true short =
        names.fail >>= fun _ => pure (Flow.failed [first]) := by
      simp [Stmt.run, hshort]
    rw [hstop]
    exact .stopped rfl hfull

theorem report_cut {code : Code} {path : List Step} {expected : String} {received : Received} :
    Cuts names inBranch
      (runAll names call false [.report code path expected received, .abort inBranch])
      (runAll names call' true [.report code path expected received, .abort inBranch]) := by
  intro full short flow h hrun
  obtain ⟨_, hreport, hrun⟩ := of_runAll_cons hrun
  simp only [Stmt.run, bind_eq_ok, pure_eq_ok] at hreport
  obtain ⟨tokens, htokens, text, htext, _, hissue, rfl⟩ := hreport
  have hshort : (Stmt.report code path expected received).run names call' true short =
      .ok (.next (short.report (.report code.name tokens expected text))) := by
    simp only [Stmt.run, Keeps.mapM h.step _ _ htokens, h.received _ _ _ htext, hissue]
    rfl
  rw [Flow.next_andThen, runAll_singleton] at hrun
  rw [runAll_cons, hshort]
  show FlowCut names inBranch flow (runAll names call' true [.abort inBranch] _)
  rw [runAll_singleton]
  let issue := Issue.report code.name tokens expected text
  have hfull : (full.report issue).issues = [issue] := by simp [Frame.report, h.full_issues]
  have hshort : (short.report issue).issues = [issue] := by simp [Frame.report, h.short_issues]
  exact abort_cut hfull hshort hrun

theorem takeOver_cut {result : Local} {path : List Step} :
    Cuts names inBranch
      ((Stmt.ifElse (.failed result) [.takeOver result path, .abort inBranch] []).run names call
        false)
      ((Stmt.ifElse (.failed result) [.takeOver result path, .abort inBranch] []).run names call'
        true) := by
  intro full short flow h hrun
  simp only [Stmt.run, bind_eq_ok] at hrun
  obtain ⟨failed, hfailed, hrun⟩ := hrun
  simp only [Stmt.run, h.test _ _ _ hfailed]
  cases failed with
  | false =>
    cases hrun
    exact .next h
  | true =>
    -- The call has failed, so its outcome has a first issue, which is all that the short run holds.
    obtain ⟨_, htake, hrun⟩ := of_runAll_cons hrun
    simp only [Stmt.run, bind_eq_ok, pure_eq_ok] at htake
    obtain ⟨outcome, houtcome, tokens, htokens, rfl⟩ := htake
    obtain ⟨outcome', houtcome', hcut⟩ := h.resultOf houtcome
    have hfailure : outcome.isFailure = true := by
      simp only [Test.eval, houtcome] at hfailed
      exact failed_of_isInstance hfailed
    cases hcut with
    | success value => cases hfailure
    | failure first others =>
      have hshort : (Stmt.takeOver result path).run names call' true short =
          .ok (.next { short with issues := [first.under tokens] }) := by
        simp only [Stmt.run, houtcome', Keeps.mapM h.step _ _ htokens, h.short_issues]
        rfl
      rw [Flow.next_andThen, runAll_singleton] at hrun
      show FlowCut names inBranch flow
        (runAll names call' true [.takeOver result path, .abort inBranch] short)
      rw [runAll_cons, hshort]
      show FlowCut names inBranch flow (runAll names call' true [.abort inBranch] _)
      rw [runAll_singleton]
      have hfull : full.issues ++ (Outcome.failure (first :: others)).issues.map (·.under tokens) =
          first.under tokens :: others.map (·.under tokens) := by
        simp [h.full_issues, Outcome.issues]
      exact abort_cut hfull rfl hrun

/-- **Compiled checks in lockstep.** The induction is on how the checks are put together; `FlowCut`
is the invariant, and a report is the only place where the runs part. -/
theorem Emitted.run_cut (hcall : CallCut call call')
    (hchecks : Emitted place inBranch known s checks s') :
    Cuts names inBranch (runAll names call false checks) (runAll names call' true checks) := by
  induction hchecks with
  | done =>
    intro full short flow h hrun
    cases hrun
    exact .next h
  | report _ hrest ih => exact cut_append hrest report_cut ih
  | takeOver _ hrest ih => exact cut_cons hrest takeOver_cut ih
  | ifElse _ _ _ _ hrest ihbody ihorelse ih =>
    refine cut_cons hrest (fun full short flow h hrun => ?_) ih
    simp only [Stmt.run, bind_eq_ok] at hrun
    obtain ⟨holds, hholds, hrun⟩ := hrun
    simp only [Stmt.run, h.test _ _ _ hholds]
    cases holds with
    | true => exact ihbody _ _ _ h hrun
    | false => exact ihorelse _ _ _ h hrun
  | @forItems _ _ _ _ _ _ _ index item _ start _ _ _ _ _ hbody hrest ihbody ih =>
    refine cut_cons hrest (fun full short flow h hrun => ?_) ih
    simp only [Stmt.run, bind_eq_ok] at hrun
    obtain ⟨value, hvalue, rounds, hrounds, hrun⟩ := hrun
    simp only [Stmt.run, h.operand _ _ hvalue]
    show FlowCut _ _ flow (roundsOf names value start >>= _)
    rw [hrounds]
    refine loop_cut (fun hout => rounds_grow _ _ (hbody.run_grows hout)) ?_ _ _ _ h hrun
    intro round hmem full short flow h hround
    obtain ⟨round, rfl, hround⟩ := bind_eq_ok.1 hround
    obtain ⟨hindex, hitem⟩ := roundsOf_cut hrounds round hmem
    exact ihbody _ _ _ ((h.bind index hindex).bind item hitem) hround
  | @forKeys _ _ _ _ _ _ key _ _ _ _ _ hbody hrest ihbody ih =>
    refine cut_cons hrest (fun full short flow h hrun => ?_) ih
    simp only [Stmt.run, bind_eq_ok] at hrun
    obtain ⟨value, hvalue, members, hmembers, hrun⟩ := hrun
    simp only [Stmt.run, h.operand _ _ hvalue]
    show FlowCut _ _ flow (membersOf value >>= _)
    rw [hmembers]
    refine loop_cut (fun hout => keys_grow _ (hbody.run_grows hout)) ?_ _ _ _ h hrun
    intro name _ full short flow h hround
    exact ihbody _ _ _ (h.bind key (.key name)) hround
  | call _ _ _ hrest ih =>
    refine cut_cons hrest (fun full short flow h hrun => ?_) ih
    simp only [Stmt.run, bind_eq_ok, pure_eq_ok] at hrun
    obtain ⟨value, hvalue, outcome, houtcome, rfl⟩ := hrun
    obtain ⟨outcome', houtcome', hcut⟩ := hcall _ _ _ houtcome
    simp only [Stmt.run, h.operand _ _ hvalue]
    show FlowCut _ _ _ (call' _ value >>= _)
    rw [houtcome']
    exact .next (h.bind _ (.result hcut))
  | @branch _ _ _ _ _ _ name body _ _ hbody hrest ihbody ih =>
    refine cut_cons hrest (fun full short flow h hrun => ?_) ih
    cases hrun
    refine .next (h.bind name (.branch fun passes hpasses => ?_))
    obtain ⟨end_, hend, hpasses⟩ := bind_eq_ok.1 hpasses
    have hcut := ihbody _ _ _ ⟨h.toAlike.issues [] [], rfl, rfl⟩ hend
    generalize runAll names call' true body { short with issues := [] } = stopping at hcut
    cases hcut with
    | next _ => exact hpasses
    | stopped hout => cases hout
    | refused => exact hpasses
  | countMatches _ _ hrest ih =>
    refine cut_cons hrest (fun full short flow h hrun => ?_) ih
    simp only [Stmt.run, bind_eq_ok, pure_eq_ok] at hrun
    obtain ⟨passed, hpassed, rfl⟩ := hrun
    simp only [Stmt.run, Keeps.mapM h.callBranch _ _ hpassed]
    exact .next (h.bind _ (.matchCount _))

/-! ## Validators -/

variable {validators : List Validator}

theorem Validator.run_cut (hcall : CallCut call call') {validator : Validator}
    (hemitted : Emitted place false known s validator.body s') {result : Outcome}
    (hrun : validator.run names call false value = .ok result) :
    ∃ result', validator.run names call' true value = .ok result' ∧ Cut result result' := by
  obtain ⟨flow, hflow, hresult⟩ := bind_eq_ok.1 hrun
  have hstart : Lockstep ⟨value, [], []⟩ ⟨value, [], []⟩ :=
    ⟨⟨rfl, fun name bound hbound => by cases hbound⟩, rfl, rfl⟩
  have hcut := hemitted.run_cut hcall _ _ _ hstart hflow
  unfold Validator.run
  generalize runAll names call' true validator.body ⟨value, [], []⟩ = stopping at hcut
  cases hcut with
  | @next full short h =>
    simp only [outcome, h.full_issues, List.isEmpty_nil, if_true, bind_eq_ok, pure_eq_ok] at hresult
    obtain ⟨_, hsucceed, rfl⟩ := hresult
    refine ⟨.success full.value, ?_, .success _⟩
    show outcome names (.next short) = _
    simp only [outcome, h.short_issues, List.isEmpty_nil, if_true, h.value_eq, hsucceed]
    rfl
  | @stopped frame first others _ hissues =>
    simp only [outcome, hissues, List.isEmpty_cons, Bool.false_eq_true, if_false, bind_eq_ok,
      pure_eq_ok] at hresult
    obtain ⟨_, hfail, rfl⟩ := hresult
    refine ⟨.failure [first], ?_, .failure _ _⟩
    rw [hfail]
    rfl
  | refused hin => cases hin

/-- **Stopping at the first issue cuts the outcome.** -/
theorem runAs_cut (hcompiled : place.Compiled validators) (fuel : Nat) :
    CallCut (runAs names validators false fuel) (runAs names validators true fuel) := by
  induction fuel with
  | zero =>
    intro name value outcome h
    cases h
  | succ fuel ih =>
    intro name value outcome h
    simp only [runAs] at h ⊢
    split at h
    · rename_i validator hvalidator
      obtain ⟨_, _, _, _, _, hgives⟩ := hcompiled validator (mem_of_validatorNamed? hvalidator).1
      exact validator.run_cut ih (validatorOf_emitted hgives) h
    · cases h

/-- A value that passes is given back as it is. -/
theorem runAs_success (hcompiled : place.Compiled validators) {fuel : Nat} {name : String}
    {passed : Value} (h : runAs names validators false fuel name value = .ok (.success passed)) :
    passed = value := by
  cases fuel with
  | zero => cases h
  | succ fuel =>
    simp only [runAs] at h
    split at h
    · rename_i validator hvalidator
      obtain ⟨_, _, _, _, _, hgives⟩ := hcompiled validator (mem_of_validatorNamed? hvalidator).1
      obtain ⟨flow, hflow, hresult⟩ := bind_eq_ok.1 h
      obtain ⟨later, rfl, hgrown⟩ := (validatorOf_emitted hgives).run_grows rfl _ _ hflow
      simp only [outcome] at hresult
      split at hresult
      · obtain ⟨_, _, hresult⟩ := bind_eq_ok.1 hresult
        cases hresult
        exact hgrown.value_eq
      · obtain ⟨_, _, hresult⟩ := bind_eq_ok.1 hresult
        cases hresult
    · cases h

end SchemaGuard.Check

namespace SchemaGuard.Module

open Check

variable {document : Json} {schemaPath : String} {targets : List Target}
  {module : Module} {run : Run}

/-- The schema of an order. -/
def orderSchema : Json := .object [
  ("type", .string "object"),
  ("properties", .object [
    ("lines", .object [("type", .string "array"),
      ("items", .object [("$ref", .string "#/$defs/line")])]),
    ("note", .object [("anyOf", .array [.object [("type", .string "string")],
      .object [("type", .string "null")]])])]),
  ("$defs", .object [("line", .object [
    ("type", .string "object"),
    ("properties", .object [("quantity", .object [("type", .string "integer")])]),
    ("required", .array [.string "price"])])])]

/-- An order that does not satisfy it. -/
def order : Value := .dict [
  ("lines", .list [.dict [("quantity", .string "two"), ("price", .number (.int 3))],
    .dict [("quantity", .number (.int 1))]]),
  ("note", .bool true)]

end SchemaGuard.Module
