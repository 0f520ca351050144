import SchemaGuard.Proofs.Findings
import SchemaGuard.Proofs.Running

/-!
# Checks that act on findings

`Sim` is the relation between checks and findings: wherever the checks apply, running them ends as
the findings say (`Ends`). If nothing stops the run, it goes on with the issues of all reports, or
ends with the fault; a run that is to stop at the first report ends with that report.

Where checks apply is said by `Located`: the value looked at and the path to it are found from the
frame, and from every later frame that still agrees with it on the names drawn before the checks
were compiled. New names have higher numbers, so checks never disturb the place of what follows
them.
-/

namespace SchemaGuard.Check

/-! ## Helpers that nothing hides -/

namespace Names

variable (helper : Helper)

@[simp] theorem plain_call (arguments : Nat) : plain.call helper arguments = .ok () := rfl

@[simp] theorem plain_apply {α : Type} (value : Value) (proper : Except Fault α)
    (hidden : ValueTable → Except Fault α) : plain.apply helper value proper hidden = proper := rfl

@[simp] theorem plain_operation (name : String) : plain.operation helper name = .ok () := rfl

@[simp] theorem plain_fail : plain.fail = .ok () := rfl

@[simp] theorem plain_succeed (value : Value) : plain.succeed value = .ok () := rfl

@[simp] theorem plain_isInstance (classes : List (Helper × Bool)) :
    plain.isInstance classes = .ok (classes.any (·.2)) := by
  show plain.askClasses classes = _
  induction classes with
  | nil => rfl
  | cons entry classes ih =>
    obtain ⟨helper, answer⟩ := entry
    cases answer with
    | true => rfl
    | false => exact ih

end Names

theorem TypeTest.eval_plain (value : Value) (test : TypeTest) :
    test.eval .plain value = .ok (test.holds value) := by
  cases test <;> simp [TypeTest.eval, TypeTest.holds, Names.test]

theorem anyType_plain (value : Value) (tests : List TypeTest) :
    anyType .plain value tests = .ok (tests.any (·.holds value)) := by
  induction tests with
  | nil => rfl
  | cons test tests ih =>
    rw [anyType, TypeTest.eval_plain]
    show (if test.holds value = true then _ else anyType .plain value tests) = _
    rw [ih]
    cases h : test.holds value <;> simp [h]

/-! ## Later frames -/

/-- A later frame of the same function that agrees on the names numbered up to `low`. -/
structure Frame.Agrees (low : Nat) (frame later : Frame) : Prop where
  value_eq : later.value = frame.value
  lookup_eq : ∀ name : Local, name.number ≤ low → later.lookup name = frame.lookup name

namespace Frame.Agrees

variable {low high : Nat} {frame later last : Frame}

theorem refl (low : Nat) (frame : Frame) : frame.Agrees low frame := ⟨rfl, fun _ _ => rfl⟩

theorem trans (h : frame.Agrees low later) (h' : later.Agrees low last) : frame.Agrees low last :=
  ⟨h'.value_eq.trans h.value_eq,
    fun name hname => (h'.lookup_eq name hname).trans (h.lookup_eq name hname)⟩

theorem mono (hle : low ≤ high) (h : frame.Agrees high later) : frame.Agrees low later :=
  ⟨h.value_eq, fun name hname => h.lookup_eq name (Nat.le_trans hname hle)⟩

/-- Binding a name with a higher number. -/
theorem bind (frame : Frame) {name : Local} (hname : low < name.number) (bound : Bound) :
    frame.Agrees low (frame.bind name bound) := by
  refine ⟨rfl, fun other hother => ?_⟩
  rw [Frame.lookup_bind, if_neg]
  rintro rfl
  omega

/-- Issues are not looked at. -/
theorem issues (frame : Frame) (issues : List Issue) : frame.Agrees low { frame with issues } :=
  ⟨rfl, fun _ _ => rfl⟩

end Frame.Agrees

/-- A scope is at a value, reached by a path: in a frame and in all later ones that agree with it.
-/
structure Located (scope : Scope) (low : Nat) (frame : Frame) (value : Value)
    (tokens : List PathToken) : Prop where
  operand : ∀ later, frame.Agrees low later → scope.operand.eval later = .ok value
  path : ∀ later, frame.Agrees low later → scope.path.mapM (Step.eval later) = .ok tokens

namespace Located

variable {scope : Scope} {low high : Nat} {frame next : Frame} {value : Value}
  {tokens : List PathToken}

theorem operand_eq (h : Located scope low frame value tokens) :
    scope.operand.eval frame = .ok value :=
  h.operand frame (.refl _ _)

theorem path_eq (h : Located scope low frame value tokens) :
    scope.path.mapM (Step.eval frame) = .ok tokens :=
  h.path frame (.refl _ _)

theorem later (h : Located scope low frame value tokens) (hnext : frame.Agrees low next) :
    Located scope low next value tokens :=
  ⟨fun last hlast => h.operand last (hnext.trans hlast),
    fun last hlast => h.path last (hnext.trans hlast)⟩

theorem mono (hle : low ≤ high) (h : Located scope low frame value tokens) :
    Located scope high frame value tokens :=
  ⟨fun last hlast => h.operand last (hlast.mono hle),
    fun last hlast => h.path last (hlast.mono hle)⟩

/-- Further in: at a part of the value, one step along. -/
theorem inner (h : Located scope low frame value tokens) (hle : low ≤ high)
    (hagrees : frame.Agrees low next) {operand : Operand} {step : Step} {part : Value}
    {token : PathToken} (hoperand : ∀ last, next.Agrees high last → operand.eval last = .ok part)
    (hstep : ∀ last, next.Agrees high last → step.eval last = .ok token) :
    Located (scope.inner operand step) high next part (tokens ++ [token]) := by
  refine ⟨hoperand, fun last hlast => ?_⟩
  show (scope.path ++ [step]).mapM (Step.eval last) = _
  rw [List.mapM_append, h.path last (hagrees.trans (hlast.mono hle))]
  simp only [List.mapM_cons, List.mapM_nil, hstep last hlast]
  rfl

end Located

/-! ## Acting on findings -/

/-- How a run from a frame ends on findings. -/
inductive Ends (abortEarly inBranch : Bool) (low : Nat) (frame : Frame) :
    Findings → Except Fault Flow → Prop
  | next {findings : Findings} {later : Frame} (hfault : findings.fault = none)
      (hquiet : (abortEarly || inBranch) = true → findings.reports = [])
      (hagrees : frame.Agrees low later)
      (hissues : later.issues = frame.issues ++ findings.reports.flatten) :
      Ends abortEarly inBranch low frame findings (.ok (.next later))
  | broken {findings : Findings} {fault : Fault} (hfault : findings.fault = some fault)
      (hquiet : (abortEarly || inBranch) = true → findings.reports = []) :
      Ends abortEarly inBranch low frame findings (.error fault)
  | stopped {findings : Findings} {first : List Issue} {others : List (List Issue)}
      (hstops : (abortEarly || inBranch) = true) (hreports : findings.reports = first :: others) :
      Ends abortEarly inBranch low frame findings
        (.ok (if inBranch then .refused else .failed (frame.issues ++ first)))

namespace Ends

variable {abortEarly inBranch : Bool} {low high : Nat} {frame later : Frame}
  {first second : Findings}
  {result : Except Fault Flow}

theorem clear (abortEarly inBranch : Bool) (low : Nat) (frame : Frame) :
    Ends abortEarly inBranch low frame .clear (.ok (.next frame)) :=
  .next rfl (fun _ => rfl) (.refl _ _) (by simp [Findings.clear])

/-- Findings one after another. -/
theorem andThen {rest : Frame → Except Fault Flow}
    (h : Ends abortEarly inBranch low frame first result)
    (hrest : ∀ later, frame.Agrees low later →
      Ends abortEarly inBranch low later second (rest later)) :
    Ends abortEarly inBranch low frame (first.andThen second) (result >>= (·.andThen rest)) := by
  cases h with
  | @next later hfault hquiet hagrees hissues =>
    have hboth : first.andThen second = ⟨first.reports ++ second.reports, second.fault⟩ := by
      simp only [Findings.andThen, hfault]
    rw [hboth]
    show Ends _ _ _ _ _ (rest later)
    have hsecond := hrest later hagrees
    generalize rest later = result' at hsecond
    cases hsecond with
    | next hfault' hquiet' hagrees' hissues' =>
      refine .next hfault' (fun hstops => by simp [hquiet hstops, hquiet' hstops])
        (hagrees.trans hagrees') ?_
      simp [hissues', hissues]
    | broken hfault' hquiet' =>
      exact .broken hfault' fun hstops => by simp [hquiet hstops, hquiet' hstops]
    | @stopped issues others hstops hreports =>
      have hsame : later.issues = frame.issues := by simp [hissues, hquiet hstops]
      rw [hsame]
      exact .stopped hstops (by simp [hquiet hstops, hreports]; rfl)
  | broken hfault hquiet =>
    have hboth : first.andThen second = first := by simp only [Findings.andThen, hfault]
    rw [hboth]
    exact .broken hfault hquiet
  | @stopped issues others hstops hreports =>
    have hboth : ∃ others', (first.andThen second).reports = issues :: others' := by
      unfold Findings.andThen
      split
      · exact ⟨others, hreports⟩
      · exact ⟨others ++ second.reports, by simp [hreports]⟩
    obtain ⟨others', hreports'⟩ := hboth
    have hsame : ((Except.ok (if inBranch then Flow.refused else .failed (frame.issues ++ issues)) :
        Except Fault Flow) >>= (·.andThen rest)) =
        .ok (if inBranch then .refused else .failed (frame.issues ++ issues)) := by
      cases inBranch <;> rfl
    rw [hsame]
    exact .stopped hstops hreports'

/-- A run from a later frame with the same issues is a run from the frame. -/
theorem rebase (hle : low ≤ high) (hagrees : frame.Agrees low later)
    (hissues : later.issues = frame.issues) (h : Ends abortEarly inBranch high later first result) :
    Ends abortEarly inBranch low frame first result := by
  cases h with
  | next hfault hquiet hagrees' hissues' =>
    exact .next hfault hquiet (hagrees.trans (hagrees'.mono hle)) (by rw [hissues', hissues])
  | broken hfault hquiet => exact .broken hfault hquiet
  | stopped hstops hreports =>
    rw [hissues]
    exact .stopped hstops hreports

/-- A loop ends on the findings of its rounds. -/
theorem loop {α : Type} {body : α → Frame → Except Fault Flow} {each : α → Findings}
    {elements : List α}
    (hbody : ∀ element ∈ elements, ∀ later, frame.Agrees low later →
      Ends abortEarly inBranch low later (each element) (body element later)) :
    Ends abortEarly inBranch low frame (.all (elements.map each)) (loop body elements frame) := by
  induction elements generalizing frame with
  | nil => exact .clear _ _ _ _
  | cons element elements ih =>
    refine .andThen (hbody element (by simp) frame (.refl _ _)) fun later hlater => ?_
    exact ih fun other hother last hlast => hbody other (by simp [hother]) last (hlater.trans hlast)

end Ends

/-! ## Findings from further out -/

namespace Findings

variable {path outer : List PathToken}

@[simp] theorem clear_under : clear.under path = clear := rfl

@[simp] theorem when_under (condition : Bool) (issue : Issue) :
    (when condition issue).under path = when condition (issue.under path) := by
  cases condition <;> rfl

theorem andThen_under (first second : Findings) :
    (first.andThen second).under path = (first.under path).andThen (second.under path) := by
  unfold andThen under
  cases hfault : first.fault <;> simp [hfault]

theorem all_under (parts : List Findings) :
    (all parts).under path = all (parts.map (·.under path)) := by
  induction parts with
  | nil => rfl
  | cons first others ih => simp [all, andThen_under, ih]

theorem all_eq_clear {parts : List Findings} (h : ∀ part ∈ parts, part = clear) :
    all parts = clear := by
  induction parts with
  | nil => rfl
  | cons first others ih =>
    rw [all, h first (by simp), ih fun part hpart => h part (by simp [hpart])]
    rfl

theorem under_nil (findings : Findings) : findings.under [] = findings := by
  simp [under, Issue.under]

theorem under_under (findings : Findings) :
    (findings.under path).under outer = findings.under (outer ++ path) := by
  simp [under, Issue.under, Function.comp_def]

end Findings

end SchemaGuard.Check
