import SchemaGuard.Proofs.Simulation

/-!
# Checks of nodes act on their findings

**Theorem (`ofNode_sim`).** The checks compiled from a node, run anywhere, act on the findings of
the node, if those of its references do. The proof is an induction over the node.

Branches are where a run looks ahead: a branch is defined first and called later, from a frame that
has changed. It keeps the frame it was defined in, so it still looks at the same value, and its name
is new, so nothing hides it until it is called (`ofBranches_run`).

`validatorOf_run` closes the circle of references: a validator returns what its findings say, where
a reference to a named pointer is a call and any other reference has the findings of the node it
leads to.
-/

namespace SchemaGuard.Check

/-! ## Branches -/

/-- A branch that ends as its findings say gives their verdict. -/
theorem Ends.verdict_eq {abortEarly : Bool} {low : Nat} {frame : Frame} {findings : Findings}
    {result : Except Fault Flow} (h : Ends abortEarly true low frame findings result) :
    result >>= verdict = findings.verdict := by
  cases h with
  | next hfault hquiet _ _ => simp only [Findings.verdict, hquiet (Bool.or_true _), hfault]; rfl
  | broken hfault hquiet => simp only [Findings.verdict, hquiet (Bool.or_true _), hfault]; rfl
  | stopped _ hreports => simp only [Findings.verdict, hreports]; rfl

@[simp] theorem Findings.verdict_under (findings : Findings) (path : List PathToken) :
    (findings.under path).verdict = findings.verdict := by
  unfold verdict under
  cases findings.reports <;> rfl

section Branches

variable {call : Call} {abortEarly : Bool} {onRef : OnRef} {refs : String → Value → Findings}
  {scope : Scope} {s s' : Progress}

/-- Defining branches changes nothing but their names, and calling them gives the verdicts of their
nodes. -/
theorem ofBranches_run {nodes : List Node}
    (hnodes : ∀ node ∈ nodes, SimAt call abortEarly (ofNode onRef node) (findings refs node))
    (hin : scope.inBranch = true) {defined : List (Local × List Stmt)}
    (h : Gives (ofBranches onRef nodes scope) s defined s') :
    s.counter ≤ s'.counter ∧ ∀ frame value tokens, Located scope s.counter frame value tokens →
      ∃ later, runAll .plain call abortEarly (defined.map fun (name, body) =>
        .branch name body) frame =
          .ok (.next later) ∧
        frame.Agrees s.counter later ∧ later.issues = frame.issues ∧
        ∀ last, later.Agrees s'.counter last →
          (defined.map (·.1)).map (callBranch last) = verdictsOf refs nodes value := by
  induction nodes generalizing s s' defined with
  | nil =>
    obtain ⟨rfl, rfl⟩ := Gives.pure_iff.1 h
    exact ⟨Nat.le_refl _, fun frame value tokens _ =>
      ⟨frame, rfl, .refl _ _, rfl, fun _ _ => by rw [verdictsOf]; rfl⟩⟩
  | cons node nodes ih =>
    simp only [ofBranches, Gives.bind_iff, Gives.pure_iff, fresh_gives] at h
    obtain ⟨_, _, ⟨rfl, rfl⟩, body, t, hbody, others, _, hothers, rfl, rfl⟩ := h
    obtain ⟨hle, hsim⟩ := hnodes node (by simp) _ _ _ _ hbody
    obtain ⟨hle', hrest⟩ := ih (fun n hn => hnodes n (by simp [hn])) hothers
    refine ⟨Nat.le_trans (Nat.le_succ _) (Nat.le_trans hle hle'),
      fun frame value tokens hlocated => ?_⟩
    let name : Local := ⟨.branch, s.counter + 1⟩
    let passes : Unit → Except Fault Bool := fun _ =>
      runAll .plain call abortEarly body { frame with issues := [] } >>= verdict
    have hbind : frame.Agrees s.counter (frame.bind name (.branch passes)) :=
      .bind frame (Nat.lt_succ_self _) _
    obtain ⟨later, hlater, hagrees, hissues, hverdicts⟩ :=
      hrest _ value tokens ((hlocated.later hbind).mono (Nat.le_trans (Nat.le_succ _) hle))
    refine ⟨later, ?_, hbind.trans (hagrees.mono (Nat.le_trans (Nat.le_succ _) hle)), hissues, ?_⟩
    · rw [List.map_cons, runAll_cons]
      exact hlater
    · intro last hlast
      -- The name of this branch is below those of the others, so it still stands for the branch.
      have hlookup : last.lookup name = .ok (.branch passes) := by
        rw [hlast.lookup_eq name (Nat.le_trans hle hle'), hagrees.lookup_eq name hle,
          Frame.lookup_bind, if_pos rfl]
      have hpasses : passes () = (findings refs node value).verdict := by
        have hstart : Located scope (s.counter + 1) { frame with issues := [] } value tokens :=
          (hlocated.later (.issues frame [])).mono (Nat.le_succ _)
        have hends := hsim.run _ value tokens trivial hstart
        rw [hin] at hends
        rw [← Findings.verdict_under _ tokens]
        exact hends.verdict_eq
      have hcall : callBranch last name = (findings refs node value).verdict := by
        simp only [callBranch, hlookup]
        exact hpasses
      rw [verdictsOf, ← hcall, ← hverdicts last hlast]
      rfl

theorem callUntil_eq (frame : Frame) (names : List Local) :
    callUntil frame names = anyVerdict (names.map (callBranch frame)) := by
  induction names with
  | nil => rfl
  | cons name names ih => simp only [callUntil, List.map_cons, anyVerdict, ih]

theorem callAll_eq (frame : Frame) (names : List Local) :
    names.mapM (callBranch frame) = (names.map (callBranch frame)).mapM id := by
  induction names with
  | nil => rfl
  | cons name names ih =>
    rw [List.map_cons, List.mapM_cons, List.mapM_cons, ih]
    rfl

/-- The check of branches that have been defined. -/
theorem branchCheck_run (call : Call) (abortEarly : Bool) {kind : Combinator}
    {branches : List Local} {checks : List Stmt}
    (h : Gives (branchCheck scope kind branches) s checks s') :
    s.counter ≤ s'.counter ∧ checks ≠ [] ∧
      ∀ frame value tokens verdicts, Located scope s.counter frame value tokens →
        branches.map (callBranch frame) = verdicts →
        Ends abortEarly scope.inBranch s.counter frame ((branchFindings kind verdicts).under tokens)
          (runAll .plain call abortEarly checks frame) := by
  cases kind with
  | oneOf =>
    simp only [branchCheck, Gives.bind_iff, Gives.pure_iff, fresh_gives] at h
    obtain ⟨_, _, ⟨rfl, rfl⟩, rfl, rfl⟩ := h
    refine ⟨Nat.le_succ _, List.cons_ne_nil _ _,
      fun frame value tokens verdicts hlocated hverdicts => ?_⟩
    rw [runAll_cons]
    simp only [Stmt.run, callAll_eq, hverdicts, branchFindings]
    cases hpassed : verdicts.mapM id with
    | error fault => exact .broken rfl fun _ => rfl
    | ok passed =>
      let counted := frame.bind ⟨.matchCount, s.counter + 1⟩ (.matchCount (passed.count true))
      have hbind : frame.Agrees s.counter counted := .bind frame (Nat.lt_succ_self _) _
      have hcount : matchCountOf counted ⟨.matchCount, s.counter + 1⟩ =
          .ok (passed.count true) := by
        simp only [matchCountOf, counted, Frame.lookup_bind]
        rfl
      refine Ends.rebase (Nat.le_refl _) hbind rfl ?_
      refine Sim.reportIf_ends (hlocated.later hbind).path_eq ?_ ?_
      · simp only [Test.eval, hcount]
        rfl
      · simp only [Received.eval, hcount]
        rfl
  | anyOf | allOf =>
    obtain ⟨rfl, rfl⟩ := Gives.pure_iff.1 h
    refine ⟨Nat.le_refl _, List.cons_ne_nil _ _,
      fun frame value tokens verdicts hlocated hverdicts => ?_⟩
    simp only [branchFindings]
    cases hpasses : anyVerdict verdicts with
    | error fault =>
      have hrun : runAll .plain call abortEarly [scope.reportIf (.noBranch branches) .invalidType
          "value matching at least one schema" (.fixed "value matching no schemas")] frame =
          .error fault := by
        rw [runAll_singleton]
        simp only [Scope.reportIf, Stmt.run, Test.eval, callUntil_eq, hverdicts, hpasses]
        rfl
      rw [hrun]
      exact .broken rfl fun _ => rfl
    | ok passes =>
      refine Sim.reportIf_ends hlocated.path_eq ?_ rfl
      simp only [Test.eval, callUntil_eq, hverdicts, hpasses]
      rfl

end Branches

/-! ## Parts of arrays and objects -/

section Nodes

variable {call : Call} {abortEarly : Bool} {onRef : OnRef} {refs : String → Value → Findings}
  {scope : Scope} {properties : Option (List (Property Node))}

theorem ofPositions_sim {nodes : List Node}
    (hnodes : ∀ node ∈ nodes, SimAt call abortEarly (ofNode onRef node) (findings refs node))
    (position : Nat) :
    Acts call abortEarly (OfType .array) scope (ofPositions onRef nodes position scope)
      (eachFindings refs nodes position) := by
  induction nodes generalizing position with
  | nil => exact Acts.nil.congr fun _ => by rw [eachFindings]
  | cons node nodes ih =>
    refine Acts.congr (fun _ => by rw [eachFindings]) ?_
    exact .map₂ (hnodes node (by simp) _) (ih (fun n hn => hnodes n (by simp [hn])) _)
      fun hfirst hothers => (position_sim position hfirst).append hothers

theorem ofProperties_sim {properties : List (Property Node)}
    (hproperties : ∀ property ∈ properties,
      SimAt call abortEarly (ofNode onRef property.node) (findings refs property.node)) :
    Acts call abortEarly (OfType .object) scope (ofProperties onRef properties scope)
      (declaredFindings refs properties) := by
  induction properties with
  | nil => exact Acts.nil.congr fun _ => by rw [declaredFindings]
  | cons property properties ih =>
    refine Acts.congr (fun _ => by rw [declaredFindings]) ?_
    exact .map₂ (hproperties property (by simp) _) (ih fun p hp => hproperties p (by simp [hp]))
      fun hfirst hothers => (member_sim property.name hfirst).append hothers

theorem ofItems_sim {origin : Origin} {items : Items Node} {leading : Option (List Node)}
    {limits : ArrayLimits}
    (hnodes : ∀ node, Node.HasPart (.array origin items leading limits) node →
      SimAt call abortEarly (ofNode onRef node) (findings refs node)) :
    Acts call abortEarly (OfType .array) scope (ofItems onRef items leading scope)
      (layoutFindings refs items leading) := by
  unfold ofItems layoutFindings
  cases leading with
  | some nodes =>
    have hpositions : Acts call abortEarly (OfType .array) scope (ofPositions onRef nodes 0 scope)
        (eachFindings refs nodes 0) :=
      ofPositions_sim (fun node hmem => hnodes node (.leading hmem)) 0
    cases items with
    | all rest =>
      exact .map₂ hpositions (itemsLoop_sim (hnodes _ .item)) fun hfirst hrest =>
        ((tupleLengthCheck_sim ..).append hfirst).append hrest
    | absent | each => exact .map hpositions (.append (tupleLengthCheck_sim ..))
  | none =>
    cases items with
    | all node => exact itemsLoop_sim (hnodes _ .item)
    | each nodes =>
      exact .map (ofPositions_sim (fun node hmem => hnodes node (.listed hmem)) 0)
        (.append (tupleLengthCheck_sim ..))
    | absent => exact .nil

theorem ofDeclared_sim {origin : Origin} {required : List String} {additional : Additional Node}
    {limits : ObjectLimits}
    (hnodes : ∀ node, Node.HasPart (.object origin properties required additional limits) node →
      SimAt call abortEarly (ofNode onRef node) (findings refs node)) :
    Acts call abortEarly (OfType .object) scope (ofDeclared onRef properties scope)
      (propertiesFindings refs properties) := by
  cases properties with
  | none => exact .nil
  | some properties => exact ofProperties_sim fun _ hmem => hnodes _ (.property hmem)

theorem ofOthers_sim {origin : Origin} {required : List String} {additional : Additional Node}
    {limits : ObjectLimits}
    (hnodes : ∀ node, Node.HasPart (.object origin properties required additional limits) node →
      SimAt call abortEarly (ofNode onRef node) (findings refs node)) :
    Acts call abortEarly (OfType .object) scope (ofOthers onRef properties additional scope)
      (additionalFindings refs properties additional) := by
  cases additional with
  | schema node => exact keysLoop_sim (hnodes _ .additional)
  | value raw =>
    by_cases hraw : raw = some (.bool false)
    · subst hraw
      cases properties with
      | none => exact .nil
      | some properties => exact unrecognized_sim
    · rw [ofOthers_open hraw]
      exact Acts.nil.congr fun value => additionalFindings_open refs hraw value

/-! ## Nodes -/

theorem combinator_sim {origin : Origin} {kind : Combinator} {branches : List Node}
    (hbranches : ∀ branch ∈ branches,
      SimAt call abortEarly (ofNode onRef branch) (findings refs branch)) :
    SimAt call abortEarly (ofNode onRef (.combinator origin kind branches))
      (findings refs (.combinator origin kind branches)) := by
  intro scope
  unfold ofNode
  split
  · rename_i hall
    exact (Acts.note _).congr fun _ => by rw [findings, if_pos (by simp [hall])]
  · rename_i hall
    dsimp only
    split
    · rename_i hempty
      exact (Acts.note _).congr fun _ => by rw [findings, if_pos (by simp [hempty])]
    · rename_i hempty
      intro s checks s' h
      simp only [Gives.bind_iff, Gives.pure_iff] at h
      obtain ⟨defined, t, hdefined, check, _, hcheck, rfl, rfl⟩ := h
      obtain ⟨hle, hrun⟩ := ofBranches_run hbranches rfl hdefined
      obtain ⟨hle', hne, hcheckRun⟩ := branchCheck_run call abortEarly hcheck
      refine ⟨Nat.le_trans hle hle', fun hnil => ?_, fun frame value tokens _ hlocated => ?_⟩
      · exact (hne (List.append_eq_nil_iff.1 hnil).2).elim
      · obtain ⟨later, hlater, hagrees, hissues, hverdicts⟩ :=
          hrun frame value tokens ⟨hlocated.operand, hlocated.path⟩
        rw [runAll_append, hlater, findings, if_neg (by simp [hall, hempty])]
        refine Ends.rebase hle hagrees hissues ?_
        exact hcheckRun later value tokens _ ((hlocated.later hagrees).mono hle)
          (hverdicts later (.refl _ _))

/-- What is done about references acts on findings. -/
def OnRef.Sim (call : Call) (abortEarly : Bool) (onRef : OnRef) (refs : String → Value → Findings) :
    Prop :=
  ∀ target path, SimAt call abortEarly (onRef target path) (refs target)

/-- **The checks of a node act on its findings**, if what is done about references does. -/
theorem ofNode_sim (hrefs : onRef.Sim call abortEarly refs) (node : Node) :
    SimAt call abortEarly (ofNode onRef node) (findings refs node) := by
  induction node using Node.induction with
  | step node ih =>
    cases node with
    | unknown origin => exact fun _ => Acts.nil.congr fun _ => by rw [findings]
    | const origin expected =>
      exact fun _ => (Acts.pure fun _ => ofConst_sim ..).congr fun _ => by rw [findings]
    | enum origin allowed =>
      exact fun _ => (Acts.pure fun _ => ofEnum_sim ..).congr fun _ => by rw [findings]
    | combinator origin kind branches =>
      exact combinator_sim fun branch hmem => ih branch (.branch hmem)
    | ref origin target =>
      exact fun scope => (hrefs target origin.path scope).congr fun _ => by rw [findings]
    | primitive origin type =>
      exact fun _ => (ofPrimitive_sim call abortEarly _ _ type).congr fun _ => by rw [findings]
    | union origin types =>
      exact fun _ => (Acts.pure fun _ => ofUnion_sim ..).congr fun _ => by rw [findings]
    | array origin items leading limits =>
      intro scope
      rw [ofNode_array, findings_array]
      exact .map (ofItems_sim ih) fun hsim => .typeCheck (hsim.append (arrayLimitChecks_sim ..))
    | object origin properties required additional limits =>
      intro scope
      rw [ofNode_object, findings_object]
      exact .map₂ (ofDeclared_sim ih) (ofOthers_sim ih) fun hdeclared hothers =>
        .typeCheck ((((objectLimitChecks_sim ..).append (requiredChecks_sim ..)).append
          hdeclared).append hothers)

end Nodes

/-! ## References -/

/-- The findings of references: those of a call, or of the node a reference leads to. `fuel` more
references may be expanded inside each other. -/
def refFindings (place : Place) (call : Call) : Nat → String → Value → Findings
  | 0, _, _ => .broken .tooDeep
  | fuel + 1, target, value =>
    match place.registry.validatorName? target with
    | some validator => .ofCall (call validator value)
    | none =>
      match leadsTo place.document target with
      | some node => findings (refFindings place call fuel) node value
      | none => .clear

section References

variable {call : Call} {abortEarly : Bool} {scope : Scope} {s s' : Progress} {value : Value}

/-- A call hands over the issues it returns. -/
theorem callValidator_sim (validator : String) :
    Acts call abortEarly (fun _ => True) scope (callValidator validator scope)
      fun value => .ofCall (call validator value) := by
  intro s checks s' h
  simp only [callValidator, Gives.bind_iff, Gives.pure_iff, fresh_gives] at h
  obtain ⟨_, _, ⟨rfl, rfl⟩, rfl, rfl⟩ := h
  refine ⟨Nat.le_succ _, fun hnil => absurd hnil (List.cons_ne_nil _ _),
    fun frame value tokens _ hlocated => ?_⟩
  rw [runAll_cons]
  simp only [Stmt.run, hlocated.operand_eq]
  show Ends _ _ _ _ _ ((call validator value >>= _) >>= _)
  cases hcall : call validator value with
  | error fault => exact .broken rfl fun _ => rfl
  | ok outcome =>
    let result : Local := ⟨.result, s.counter + 1⟩
    let returned := frame.bind result (.result outcome)
    have hbind : frame.Agrees s.counter returned := .bind frame (Nat.lt_succ_self _) _
    have hresult : resultOf returned result = .ok outcome := by
      simp only [resultOf, returned, Frame.lookup_bind, if_true]
      rfl
    have htest : (Test.failed result).eval .plain returned = .ok outcome.isFailure := by
      simp only [Test.eval, hresult, Names.plain_isInstance]
      simp [bind, Except.bind]
    refine Ends.rebase (Nat.le_refl _) hbind rfl ?_
    refine ifElse_ends htest (fun hsuccess => ?_) fun hfailure => ?_
    · cases outcome with
      | success passed => rfl
      | failure issues => cases hsuccess
    · cases outcome with
      | success passed => cases hfailure
      | failure issues =>
        have htake : (Stmt.takeOver result scope.path).run .plain call abortEarly returned =
            .ok (.next { returned with issues :=
              returned.issues ++ issues.map (·.under tokens) }) := by
          simp only [Stmt.run, hresult, (hlocated.later hbind).path_eq]
          rfl
        rw [runAll_cons, htake]
        exact Sim.abort_ends rfl rfl

theorem notes_counter {notices : List Notice} {u : Unit} (h : Gives (notices.forM note) s u s') :
    s'.counter = s.counter := by
  induction notices generalizing s with
  | nil =>
    obtain ⟨-, rfl⟩ := Gives.pure_iff.1 h
    rfl
  | cons notice notices ih =>
    obtain ⟨_, t, hnote, hrest⟩ := Gives.bind_iff.1 h
    rw [ih hrest, Gives.modify_iff.1 hnote]

theorem ofRef_sim (call : Call) (abortEarly : Bool) (place : Place) (fuel : Nat)
    (opened : List String) :
    (ofRef place fuel opened).Sim call abortEarly (refFindings place call fuel) := by
  induction fuel generalizing opened with
  | zero => exact fun _ _ _ _ _ _ h => (Gives.throw_iff.1 h).elim
  | succ fuel ih =>
    intro target path scope
    unfold ofRef
    cases hname : place.registry.validatorName? target with
    | some validator =>
      exact (callValidator_sim validator).congr fun value => by simp only [refFindings, hname]
    | none =>
      intro s checks s' h
      obtain ⟨_, t, hnotes, h⟩ := Gives.bind_iff.1 h
      have hcounter := notes_counter hnotes
      split at h
      · exact (Gives.throw_iff.1 h).elim
      · rename_i hresolve
        obtain ⟨rfl, rfl⟩ := Gives.pure_iff.1 h
        refine ⟨Nat.le_of_eq hcounter.symm, (Sim.nil ..).congr fun value => ?_⟩
        simp only [refFindings, hname, leadsTo_of_resolve hresolve]
      · rename_i node hresolve
        obtain ⟨hle, hsim⟩ := ofNode_sim (ih _) node scope t checks s' h
        rw [hcounter] at hle hsim
        refine ⟨hle, hsim.congr fun value => ?_⟩
        simp only [refFindings, hname, leadsTo_of_resolve hresolve]

theorem Findings.outcome_quiet {stopping : Bool} {findings : Findings}
    (h : stopping = true → findings.reports = []) :
    findings.outcome stopping value = match findings.fault with
      | some fault => .error fault
      | none => .ok (if findings.reports.flatten.isEmpty then .success value
          else .failure findings.reports.flatten) := by
  unfold outcome
  cases stopping with
  | false => cases findings.reports <;> rfl
  | true =>
    have hnone := h rfl
    generalize findings.reports = reports at hnone ⊢
    subst hnone
    rfl

/-- A validator that ends as its findings say returns what they say. -/
theorem Ends.outcome_eq {low : Nat} {findings : Findings} {result : Except Fault Flow}
    (h : Ends abortEarly false low ⟨value, [], []⟩ findings result) :
    result >>= outcome .plain = findings.outcome abortEarly value := by
  cases h with
  | @next later hfault hquiet hagrees hissues =>
    have hend : outcome .plain (.next later) = .ok (if findings.reports.flatten.isEmpty then
        .success value else .failure findings.reports.flatten) := by
      simp only [outcome, Names.plain_succeed, Names.plain_fail]
      rw [hissues, hagrees.value_eq]
      simp only [List.nil_append]
      split <;> rfl
    show outcome .plain (.next later) = _
    rw [hend, Findings.outcome_quiet fun hstops => hquiet (by rw [hstops]; rfl), hfault]
  | broken hfault hquiet =>
    rw [Findings.outcome_quiet fun hstops => hquiet (by rw [hstops]; rfl), hfault]
    rfl
  | @stopped first others hstops hreports =>
    rw [Bool.or_false] at hstops
    subst hstops
    simp only [Findings.outcome, hreports]
    rfl

/-- **A validator returns what its findings say.** -/
theorem validatorOf_run (call : Call) (abortEarly : Bool) {place : Place} {node : Node}
    {name typeName : String} {validator : Validator}
    (h : Gives (validatorOf place node name typeName) s validator s') (value : Value) :
    validator.run .plain call abortEarly value =
      (findings (refFindings place call (fuelFor place.document)) node value).outcome
        abortEarly value := by
  simp only [validatorOf, Gives.bind_iff, Gives.pure_iff, Gives.modify_iff] at h
  obtain ⟨_, _, rfl, body, _, hbody, rfl, rfl⟩ := h
  obtain ⟨-, hsim⟩ := ofNode_sim (ofRef_sim call abortEarly place _ []) node _ _ _ _ hbody
  have hlocated : Located ⟨.value, [], false⟩ 0 ⟨value, [], []⟩ value [] :=
    ⟨fun later hlater => congrArg Except.ok hlater.value_eq, fun _ _ => rfl⟩
  have hends := hsim.run ⟨value, [], []⟩ value [] trivial hlocated
  rw [Findings.under_nil] at hends
  exact hends.outcome_eq

end References

end SchemaGuard.Check
