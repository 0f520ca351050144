import SchemaGuard.Proofs.CheckParts
import SchemaGuard.Proofs.Counts
import SchemaGuard.Proofs.Located
import SchemaGuard.Proofs.Tables

/-!
# How checks are put together

`Sim` relates checks to findings: wherever the checks apply, running them ends as the findings say.
One lemma for each way in which checks are put together says what comes of the findings: reports and
type tests, bounds and limits, positions, members and loops. Loops draw new names, and the counter
of the compilation says which names their checks may not touch.
-/

namespace SchemaGuard.Check

/-- Checks act on findings about values with a property, wherever their scope is located. -/
structure Sim (call : Call) (abortEarly : Bool) (P : Value → Prop) (scope : Scope) (low : Nat)
    (checks : List Stmt) (found : Value → Findings) : Prop where
  clear_of_nil : checks = [] → ∀ value, P value → found value = .clear
  run : ∀ frame value tokens, P value → Located scope low frame value tokens →
    Ends abortEarly scope.inBranch low frame ((found value).under tokens)
      (runAll .plain call abortEarly checks frame)

/-- A value is of a type, as far as a check can tell. -/
def OfType (test : TypeTest) (value : Value) : Prop := test.holds value = true

namespace Sim

variable {call : Call} {abortEarly : Bool} {P : Value → Prop} {scope : Scope} {low high : Nat}
  {checks others : List Stmt} {found found' : Value → Findings}

theorem nil (call : Call) (abortEarly : Bool) (P : Value → Prop) (scope : Scope) (low : Nat) :
    Sim call abortEarly P scope low [] fun _ => .clear :=
  ⟨fun _ _ _ => rfl, fun frame _ _ _ _ => .clear _ _ _ frame⟩

theorem congr (heq : ∀ value, found' value = found value)
    (h : Sim call abortEarly P scope low checks found) :
    Sim call abortEarly P scope low checks found' :=
  (funext heq : found' = found) ▸ h

/-- Checks compiled later keep out of the way of names drawn before. -/
theorem mono (hle : low ≤ high) (h : Sim call abortEarly P scope high checks found) :
    Sim call abortEarly P scope low checks found :=
  ⟨h.clear_of_nil, fun frame value tokens hvalue hlocated =>
    (h.run frame value tokens hvalue (hlocated.mono hle)).rebase hle (.refl _ _) rfl⟩

theorem append (h : Sim call abortEarly P scope low checks found)
    (h' : Sim call abortEarly P scope low others found') :
    Sim call abortEarly P scope low (checks ++ others) fun value =>
      (found value).andThen (found' value) := by
  refine ⟨fun hnil value hvalue => ?_, fun frame value tokens hvalue hlocated => ?_⟩
  · obtain ⟨hchecks, hothers⟩ := List.append_eq_nil_iff.1 hnil
    rw [h.clear_of_nil hchecks value hvalue, h'.clear_of_nil hothers value hvalue]
    rfl
  · rw [runAll_append, Findings.andThen_under]
    exact (h.run frame value tokens hvalue hlocated).andThen fun later hlater =>
      h'.run later value tokens hvalue (hlocated.later hlater)

theorem cons {check : Stmt} (h : Sim call abortEarly P scope low [check] found)
    (h' : Sim call abortEarly P scope low others found') :
    Sim call abortEarly P scope low (check :: others) fun value =>
      (found value).andThen (found' value) :=
  h.append h'

/-! ## Reports -/

variable {code : Code} {expected : String} {received : Received} {frame : Frame}
  {tokens : List PathToken} {text : String} {test : Test}

/-- The abort after issues that have been reported. -/
theorem abort_ends {findings : Findings} {issues : List Issue}
    (hreports : findings.reports = [issues]) (hfault : findings.fault = none) :
    Ends abortEarly scope.inBranch low frame findings
      (runAll .plain call abortEarly [.abort scope.inBranch]
        { frame with issues := frame.issues ++ issues }) := by
  rw [runAll_singleton]
  cases hin : scope.inBranch with
  | true => exact .stopped (by simp) hreports
  | false =>
    cases hearly : abortEarly with
    | true => exact .stopped (by simp) hreports
    | false => exact .next hfault (by simp) (.issues frame _) (by simp [hreports])

/-- A report and the abort after it. -/
theorem reportAt_ends {path : List Step} (hpath : path.mapM (Step.eval frame) = .ok tokens)
    (hreceived : received.eval .plain frame = .ok text) :
    Ends abortEarly scope.inBranch low frame (.report ((issueOf code expected text).under tokens))
      (runAll .plain call abortEarly (scope.reportAt path code expected received) frame) := by
  let issue := Issue.report code.name tokens expected text
  have hissue : (issueOf code expected text).under tokens = issue := by
    simp [issue, issueOf, Issue.under, Issue.report]
  have hreport : (Stmt.report code path expected received).run .plain call abortEarly frame =
      .ok (.next (frame.report issue)) := by
    simp only [Stmt.run, hpath, hreceived, Names.plain_call]
    rfl
  rw [hissue]
  unfold Scope.reportAt
  rw [runAll_cons, hreport]
  exact abort_ends rfl rfl

/-- A report under a condition. -/
theorem reportIf_ends {condition : Bool} (hpath : scope.path.mapM (Step.eval frame) = .ok tokens)
    (htest : test.eval .plain frame = .ok condition)
    (hreceived : received.eval .plain frame = .ok text) :
    Ends abortEarly scope.inBranch low frame
      ((Findings.when condition (issueOf code expected text)).under tokens)
      (runAll .plain call abortEarly [scope.reportIf test code expected received] frame) := by
  rw [runAll_singleton, Findings.when_under]
  simp only [Scope.reportIf, Stmt.run, htest]
  show Ends _ _ _ _ _ (if condition = true then runAll .plain call abortEarly _ frame
    else runAll .plain call abortEarly [] frame)
  cases condition with
  | true => exact reportAt_ends hpath hreceived
  | false => exact .clear _ _ _ frame

theorem reportIf {condition : Value → Bool} {text : Value → String}
    (htest : ∀ frame value, P value → scope.operand.eval frame = .ok value →
      test.eval .plain frame = .ok (condition value))
    (hreceived : ∀ frame value, P value → scope.operand.eval frame = .ok value →
      received.eval .plain frame = .ok (text value)) :
    Sim call abortEarly P scope low [scope.reportIf test code expected received] fun value =>
      .when (condition value) (issueOf code expected (text value)) :=
  ⟨fun hnil => absurd hnil (List.cons_ne_nil _ _), fun frame value _ hvalue hlocated =>
    reportIf_ends hlocated.path_eq (htest frame value hvalue hlocated.operand_eq)
      (hreceived frame value hvalue hlocated.operand_eq)⟩

/-- The check of a type, and further checks of values of the type. -/
theorem typeCheck {test : TypeTest} {typeName : String}
    (h : Sim call abortEarly (OfType test) scope low checks found) :
    Sim call abortEarly (fun _ => True) scope low (typeCheck scope test typeName checks)
      (typeFindings test typeName found) := by
  refine ⟨fun hnil => absurd hnil (List.cons_ne_nil _ _), fun frame value tokens _ hlocated => ?_⟩
  have htest : (Test.notType scope.operand test).eval .plain frame = .ok !test.holds value := by
    simp only [Test.eval, hlocated.operand_eq]
    show (do return !(← test.eval .plain value)) = _
    rw [TypeTest.eval_plain]
    rfl
  unfold Check.typeCheck typeFindings
  rw [runAll_singleton]
  simp only [Stmt.run, htest]
  show Ends _ _ _ _ _ (if (!test.holds value) = true then runAll .plain call abortEarly _ frame
    else runAll .plain call abortEarly checks frame)
  cases hholds : test.holds value with
  | true => exact h.run frame value tokens hholds hlocated
  | false =>
    refine reportAt_ends hlocated.path_eq ?_
    simp only [Received.eval, hlocated.operand_eq]
    rfl

end Sim

/-- Compiling gives checks that act on findings; it may draw names. -/
def Acts (call : Call) (abortEarly : Bool) (P : Value → Prop) (scope : Scope)
    (x : Compile (List Stmt)) (found : Value → Findings) : Prop :=
  ∀ s checks s', Gives x s checks s' →
    s.counter ≤ s'.counter ∧ Sim call abortEarly P scope s.counter checks found

namespace Acts

variable {call : Call} {abortEarly : Bool} {P P' Q : Value → Prop} {scope inner inner' : Scope}
  {x y : Compile (List Stmt)} {found found' result : Value → Findings} {checks : List Stmt}

theorem pure (h : ∀ low, Sim call abortEarly P scope low checks found) :
    Acts call abortEarly P scope (Pure.pure checks) found := by
  intro s _ _ hgives
  obtain ⟨rfl, rfl⟩ := Gives.pure_iff.1 hgives
  exact ⟨Nat.le_refl _, h _⟩

theorem nil : Acts call abortEarly P scope (Pure.pure []) fun _ => .clear := .pure fun _ => .nil ..

theorem note (notice : Notice) :
    Acts call abortEarly P scope (do Check.note notice; return []) fun _ => .clear := by
  intro s _ _ hgives
  simp only [Check.note, Gives.bind_iff, Gives.pure_iff, Gives.modify_iff] at hgives
  obtain ⟨_, _, rfl, rfl, rfl⟩ := hgives
  exact ⟨Nat.le_refl _, .nil ..⟩

theorem congr (heq : ∀ value, found' value = found value)
    (h : Acts call abortEarly P scope x found) : Acts call abortEarly P scope x found' :=
  (funext heq : found' = found) ▸ h

theorem map {f : List Stmt → List Stmt} (hx : Acts call abortEarly P inner x found)
    (hf : ∀ {low checks}, Sim call abortEarly P inner low checks found →
      Sim call abortEarly Q scope low (f checks) result) :
    Acts call abortEarly Q scope (x >>= fun checks => Pure.pure (f checks)) result := by
  intro s _ _ hgives
  simp only [Gives.bind_iff, Gives.pure_iff] at hgives
  obtain ⟨_, _, hchecks, rfl, rfl⟩ := hgives
  obtain ⟨hle, hsim⟩ := hx _ _ _ hchecks
  exact ⟨hle, hf hsim⟩

theorem map₂ {f : List Stmt → List Stmt → List Stmt} (hx : Acts call abortEarly P inner x found)
    (hy : Acts call abortEarly P' inner' y found')
    (hf : ∀ {low first second}, Sim call abortEarly P inner low first found →
      Sim call abortEarly P' inner' low second found' →
      Sim call abortEarly Q scope low (f first second) result) :
    Acts call abortEarly Q scope
      (x >>= fun first => y >>= fun second => Pure.pure (f first second)) result := by
  intro s _ _ hgives
  simp only [Gives.bind_iff, Gives.pure_iff] at hgives
  obtain ⟨_, _, hfirst, _, _, hsecond, rfl, rfl⟩ := hgives
  obtain ⟨hle, hsim⟩ := hx _ _ _ hfirst
  obtain ⟨hle', hsim'⟩ := hy _ _ _ hsecond
  exact ⟨Nat.le_trans hle hle', hf hsim (hsim'.mono hle)⟩

end Acts

/-! ## Checks without parts -/

section Leaves

variable (call : Call) (abortEarly : Bool) (scope : Scope) (low : Nat) {frame : Frame}
  {value : Value} {count : Nat} {P : Value → Prop}

theorem shown_plain (h : scope.operand.eval frame = .ok value) :
    (Received.shown scope.operand).eval .plain frame = .ok value.describe := by
  simp only [Received.eval, h]
  rfl

theorem ofConst_sim (expected : Json) :
    Sim call abortEarly (fun _ => True) scope low (ofConst scope expected)
      (constFindings expected) := by
  refine Sim.reportIf (fun frame value _ h => ?_) (fun frame value _ h => shown_plain scope h)
  simp only [Test.eval, h, Names.plain_call]
  rfl

theorem ofEnum_sim (allowed : List Json) :
    Sim call abortEarly (fun _ => True) scope low (ofEnum scope allowed)
      (enumFindings allowed) := by
  refine Sim.reportIf (fun frame value _ h => ?_) (fun frame value _ h => shown_plain scope h)
  simp only [Test.eval, h, Names.plain_call]
  rfl

theorem ofUnion_sim (types : List String) :
    Sim call abortEarly (fun _ => True) scope low (ofUnion scope types) (unionFindings types) := by
  unfold ofUnion unionFindings
  cases types.filterMap typeTest? with
  | nil => exact .nil ..
  | cons test tests =>
    refine Sim.reportIf (fun frame value _ h => ?_) (fun frame value _ h => ?_)
    · simp only [Test.eval, h]
      show (do return !(← anyType .plain value _)) = _
      rw [anyType_plain]
      rfl
    · simp only [Received.eval, h]
      rfl

/-- The length of a value is compared with a bound. -/
theorem length_plain (h : scope.operand.eval frame = .ok value)
    (hlength : lengthOf value = .ok count) (comparison : Comparison) (bound : Count) :
    (Test.length scope.operand comparison bound).eval .plain frame =
      .ok (comparison.ofNumbers (.int count) (.int bound.toInt)) := by
  simp only [Test.eval, h]
  show compareLength .plain value comparison bound = _
  simp only [compareLength, Names.plain_apply, hlength]
  rfl

theorem lengthText_plain (h : scope.operand.eval frame = .ok value)
    (hlength : lengthOf value = .ok count) (counted : Counted) :
    (Received.length counted scope.operand).eval .plain frame =
      .ok (between counted.affixes (toString count)) := by
  simp only [Received.eval, h]
  show (do return between counted.affixes (← lengthText .plain value)) = _
  simp only [lengthText, Names.plain_apply, hlength]
  rfl

/-- A check that compares a length with a bound. -/
theorem length_sim {count : Value → Nat}
    (hlength : ∀ value, P value → lengthOf value = .ok (count value)) (comparison : Comparison)
    (bound : Count) (code : Code) (expected : String) (counted : Counted) :
    Sim call abortEarly P scope low
      [scope.reportIf (.length scope.operand comparison bound) code expected
        (.length counted scope.operand)]
      fun value => .when (comparison.ofNumbers (.int (count value)) (.int bound.toInt))
        (issueOf code expected (between counted.affixes (toString (count value)))) :=
  Sim.reportIf (fun _ value hvalue h => length_plain scope h (hlength value hvalue)
    comparison bound)
    fun _ value hvalue h => lengthText_plain scope h (hlength value hvalue) counted

theorem countChecks_sim {count : Value → Nat}
    (hlength : ∀ value, P value → lengthOf value = .ok (count value)) (least most : Option Json)
    (atLeast atMost : Count → String) (counted : Counted) :
    Sim call abortEarly P scope low (countChecks scope least most atLeast atMost counted)
      fun value => countFindings least most atLeast atMost counted (count value) := by
  unfold countChecks countFindings boundFindings
  refine .append ?_ ?_
  · cases least.bind Count.ofJson? with
    | none => exact .nil ..
    | some bound => exact length_sim call abortEarly scope low hlength ..
  · cases most.bind Count.ofJson? with
    | none => exact .nil ..
    | some bound => exact length_sim call abortEarly scope low hlength ..

theorem exists_of_isString (h : OfType .string value) :
    ∃ text, value = .string text := by
  cases value <;> first | exact ⟨_, rfl⟩ | cases h

theorem lengthOf_string (h : OfType .string value) :
    lengthOf value = .ok (textOf value).length := by
  obtain ⟨text, rfl⟩ := exists_of_isString h
  rfl

theorem patternCheck_sim (path : String) (pattern : Option Json) :
    Acts call abortEarly (OfType .string) scope (patternCheck scope path pattern)
      fun value => patternFindings pattern (textOf value) := by
  cases pattern with
  | none => exact .nil
  | some pattern =>
    cases pattern with
    | string source =>
      unfold patternCheck patternFindings
      dsimp only
      split
      · rename_i expr hexpr
        intro s checks s' h
        simp only [Gives.bind_iff, Gives.pure_iff, Gives.modify_iff] at h
        obtain ⟨_, _, rfl, rfl, rfl⟩ := h
        simp only [hexpr]
        refine ⟨Nat.le_refl _,
          Sim.reportIf (fun frame value hvalue h => ?_) (fun frame value hvalue h => ?_)⟩
        · obtain ⟨text, rfl⟩ := exists_of_isString hvalue
          simp only [Test.eval, h, Names.plain_operation, hexpr]
          rfl
        · obtain ⟨text, rfl⟩ := exists_of_isString hvalue
          simp only [Received.eval, h]
          rfl
      · rename_i hexpr
        simp only [hexpr]
        exact .note _
      · exact fun _ _ _ h => (Gives.throw_iff.1 h).elim
    | null | bool | number | array | object => exact .note _

/-! ### Numbers -/

theorem exists_of_isNumber (h : OfType .number value) :
    ∃ number, value = .number number := by
  cases value <;> first | exact ⟨_, rfl⟩ | cases h

theorem boundCheck_sim (code : Code) (comparison : Comparison) (sign : String) (bound : Number) :
    Sim call abortEarly (OfType .number) scope low
      [boundCheck scope code comparison sign bound] (limitFindings code comparison sign bound) := by
  refine Sim.reportIf (fun frame value hvalue h => ?_) (fun frame value _ h => shown_plain scope h)
  obtain ⟨number, rfl⟩ := exists_of_isNumber hvalue
  simp only [Test.eval, h]
  rfl

theorem boundChecks_sim (bounds : Bounds) :
    Sim call abortEarly (OfType .number) scope low
      (boundChecks scope bounds) (boundsFindings bounds) := by
  unfold boundChecks boundsFindings
  refine .append (.append (.append ?_ ?_) ?_) ?_
  · cases number? bounds.minimum with
    | none => exact .nil ..
    | some bound => dsimp only; split <;> exact boundCheck_sim ..
  · cases number? bounds.exclusiveMinimum with
    | none => exact .nil ..
    | some bound => exact boundCheck_sim ..
  · cases number? bounds.maximum with
    | none => exact .nil ..
    | some bound => dsimp only; split <;> exact boundCheck_sim ..
  · cases number? bounds.exclusiveMaximum with
    | none => exact .nil ..
    | some bound => exact boundCheck_sim ..

theorem ofPrimitive_sim (path : String) (type : Primitive) :
    Acts call abortEarly (fun _ => True) scope (ofPrimitive scope path type)
      (primitiveFindings type) := by
  cases type with
  | string minLength maxLength pattern =>
    exact .map (.map (patternCheck_sim call abortEarly scope path pattern)
      (.append (countChecks_sim call abortEarly scope _ (fun _ => lengthOf_string) ..))) .typeCheck
  | integer bounds =>
    refine .pure fun low => .typeCheck (.cons (Sim.reportIf (fun frame value _ h => ?_)
      (fun frame value _ h => shown_plain scope h)) (boundChecks_sim ..))
    simp only [Test.eval, h]
    show (do return !(← TypeTest.integer.eval .plain value)) = _
    rw [TypeTest.eval_plain]
    rfl
  | number bounds => exact .pure fun _ => .typeCheck (boundChecks_sim ..)
  | boolean | null => exact .pure fun _ => .typeCheck (.nil ..)

/-! ### Limits of arrays and objects -/

theorem elements_of_array (h : OfType .array value) :
    value.elements? = some (elementsOf value) ∧ itemsOf value = .ok (elementsOf value) ∧
      lengthOf value = .ok (elementsOf value).length := by
  cases value <;> first | exact ⟨rfl, rfl, rfl⟩ | cases h

theorem members_of_object (h : OfType .object value) :
    value.members? = some (membersIn value) ∧ membersOf value = .ok (membersIn value) ∧
      lengthOf value = .ok (membersIn value).length := by
  cases value <;> first | exact ⟨rfl, rfl, rfl⟩ | cases h

theorem count_bne (m n : Nat) : (Quantity.count m != Quantity.count n) = (m != n) := by
  rw [Bool.eq_iff_iff]
  simp

theorem arrayLimitChecks_sim (limits : ArrayLimits) :
    Sim call abortEarly (OfType .array) scope low
      (arrayLimitChecks scope limits) (arrayLimitFindings limits) := by
  unfold arrayLimitChecks arrayLimitFindings
  refine .append (countChecks_sim call abortEarly scope low
    (fun value hvalue => (elements_of_array hvalue).2.2) ..) ?_
  unfold uniqueFindings
  split
  · refine Sim.reportIf (fun frame value hvalue h => ?_) (fun frame value _ h => rfl)
    obtain ⟨-, hitems, hlength⟩ := elements_of_array hvalue
    simp only [Test.eval, h]
    show repeats .plain value = _
    simp only [repeats, Names.plain_apply, hitems, hlength]
    exact congrArg Except.ok (count_bne _ _)
  · exact .nil ..

theorem tupleLengthCheck_sim (count : Nat) (isClosed : Bool) :
    Sim call abortEarly (OfType .array) scope low
      (tupleLengthCheck scope count isClosed) (tupleLengthFindings count isClosed) := by
  have hlength : ∀ value, OfType .array value →
      lengthOf value = .ok (elementsOf value).length :=
    fun value hvalue => (elements_of_array hvalue).2.2
  unfold tupleLengthCheck tupleLengthFindings
  split
  · exact length_sim call abortEarly scope low hlength ..
  · split
    · exact .nil ..
    · exact length_sim call abortEarly scope low hlength ..

theorem objectLimitChecks_sim (limits : ObjectLimits) :
    Sim call abortEarly (OfType .object) scope low
      (objectLimitChecks scope limits) (objectLimitFindings limits) :=
  countChecks_sim call abortEarly scope low (fun _ hvalue => (members_of_object hvalue).2.2) ..

theorem requiredChecks_sim (required : List String) :
    Sim call abortEarly (OfType .object) scope low
      (required.map (requiredCheck scope))
      fun value => .all (required.map fun key => requiredFindings key value) := by
  induction required with
  | nil => exact .nil ..
  | cons key required ih =>
    refine .cons (Sim.reportIf (fun frame value hvalue h => ?_)
      (fun frame value _ h => rfl)) ih
    simp only [Test.eval, h]
    show (do return !Table.has (← membersOf value) key) = _
    rw [(members_of_object hvalue).2.1]
    rfl

end Leaves

/-! ## Checks of parts -/

section Parts

variable {call : Call} {abortEarly : Bool} {scope : Scope} {low : Nat} {checks : List Stmt}
  {found : Value → Findings} {test : Test} {frame : Frame} {holds : Bool} {inner : Findings}
  {value : Value} {members : List (String × Value)}

/-- A test before some checks; if it fails there is nothing to find. -/
theorem ifElse_ends (htest : test.eval .plain frame = .ok holds)
    (hclear : holds = false → inner = .clear)
    (hrun : holds = true → Ends abortEarly scope.inBranch low frame inner
      (runAll .plain call abortEarly checks frame)) :
    Ends abortEarly scope.inBranch low frame inner
      (runAll .plain call abortEarly [.ifElse test checks []] frame) := by
  rw [runAll_singleton]
  simp only [Stmt.run, htest]
  show Ends _ _ _ _ _ (if holds = true then runAll .plain call abortEarly checks frame
    else runAll .plain call abortEarly [] frame)
  cases holds with
  | true => exact hrun rfl
  | false =>
    rw [hclear rfl]
    exact .clear _ _ _ frame

theorem guarded_ends (htest : test.eval .plain frame = .ok holds)
    (hclear : holds = false → inner = .clear) (hnil : checks = [] → inner = .clear)
    (hrun : holds = true → Ends abortEarly scope.inBranch low frame inner
      (runAll .plain call abortEarly checks frame)) :
    Ends abortEarly scope.inBranch low frame inner
      (runAll .plain call abortEarly (guarded test checks) frame) := by
  unfold guarded
  split
  · rename_i hempty
    rw [hnil (List.isEmpty_iff.1 hempty)]
    exact .clear _ _ _ frame
  · exact ifElse_ends htest hclear hrun

theorem nil_of_guarded_nil (h : guarded test checks = []) : checks = [] := by
  unfold guarded at h
  split at h
  · rename_i hempty
    exact List.isEmpty_iff.1 hempty
  · cases h

theorem itemAt_eq {item : Value} {items : List Value} {position : Nat}
    (hitems : itemsOf value = .ok items) (hitem : items[position]? = some item) :
    itemAt value position = .ok item := by
  simp only [itemAt, bind_eq_ok]
  exact ⟨items, hitems, by rw [hitem]; rfl⟩

theorem memberAt_eq {member : Value} {name : String} (hmembers : membersOf value = .ok members)
    (hmember : Table.get? members name = some member) : memberAt value name = .ok member := by
  simp only [memberAt, bind_eq_ok]
  exact ⟨members, hmembers, by rw [hmember]; rfl⟩

/-- The checks of the item at a position. -/
theorem position_sim (position : Nat)
    (h : Sim call abortEarly (fun _ => True)
      (scope.inner (.position scope.operand position) (.index position)) low checks found) :
    Sim call abortEarly (OfType .array) scope low
      (guarded (.length scope.operand .gt (.int position)) checks)
      (positionFindings position found) := by
  have hnil : checks = [] → ∀ value, positionFindings position found value = .clear := by
    intro hnil value
    unfold positionFindings
    split
    · rw [h.clear_of_nil hnil _ trivial]
      rfl
    · rfl
  refine ⟨fun hguarded value _ => hnil (nil_of_guarded_nil hguarded) value,
    fun frame value tokens hvalue hlocated => ?_⟩
  obtain ⟨-, hitems, hlength⟩ := elements_of_array hvalue
  refine guarded_ends (length_plain scope hlocated.operand_eq hlength _ _) (fun hfalse => ?_)
    (fun hchecks => by rw [hnil hchecks]; rfl) fun htrue => ?_
  · -- There is no such position.
    have hnone : (elementsOf value)[position]? = none := by
      simpa [Comparison.ofNumbers, Count.toInt] using hfalse
    simp only [positionFindings, hnone]
    rfl
  · have hlt : position < (elementsOf value).length := by
      simpa [Comparison.ofNumbers, Count.toInt] using htrue
    obtain ⟨item, hitem⟩ : ∃ item, (elementsOf value)[position]? = some item :=
      ⟨_, List.getElem?_eq_getElem hlt⟩
    simp only [positionFindings, hitem]
    rw [Findings.under_under]
    refine h.run frame item (tokens ++ [.index position]) trivial (hlocated.inner (Nat.le_refl _)
      (.refl _ _) (fun last hlast => ?_) fun _ _ => rfl)
    simp only [Operand.eval, hlocated.operand last hlast]
    exact itemAt_eq hitems hitem

/-- The checks of a declared member. -/
theorem member_sim (name : String)
    (h : Sim call abortEarly (fun _ => True) (scope.inner (.member scope.operand name) (.key name))
      low checks found) :
    Sim call abortEarly (OfType .object) scope low
      (guarded (.present scope.operand name) checks) (memberFindings name found) := by
  have hnil : checks = [] → ∀ value, memberFindings name found value = .clear := by
    intro hnil value
    unfold memberFindings
    split
    · rw [h.clear_of_nil hnil _ trivial]
      rfl
    · rfl
  refine ⟨fun hguarded value _ => hnil (nil_of_guarded_nil hguarded) value,
    fun frame value tokens hvalue hlocated => ?_⟩
  obtain ⟨-, hmembers, -⟩ := members_of_object hvalue
  have htest : (Test.present scope.operand name).eval .plain frame =
      .ok (Table.has (membersIn value) name) := by
    simp only [Test.eval, hlocated.operand_eq]
    show (do return Table.has (← membersOf value) name) = _
    rw [hmembers]
    rfl
  refine guarded_ends htest (fun hfalse => ?_) (fun hchecks => by rw [hnil hchecks]; rfl)
    fun htrue => ?_
  · have hnone : Table.get? (membersIn value) name = none := by
      rw [Option.eq_none_iff_forall_ne_some]
      intro member hmember
      rw [Table.has_iff.2 ⟨member, hmember⟩] at hfalse
      cases hfalse
    simp only [memberFindings, hnone]
    rfl
  · obtain ⟨member, hmember⟩ := Table.has_iff.1 htrue
    simp only [memberFindings, hmember]
    rw [Findings.under_under]
    refine h.run frame member (tokens ++ [.key name]) trivial (hlocated.inner (Nat.le_refl _)
      (.refl _ _) (fun last hlast => ?_) fun _ _ => rfl)
    simp only [Operand.eval, hlocated.operand last hlast]
    exact memberAt_eq hmembers hmember

/-! ### Loops -/

/-- Compiling gives checks that act on findings, in every scope. -/
def SimAt (call : Call) (abortEarly : Bool) (compile : Scope → Compile (List Stmt))
    (found : Value → Findings) : Prop :=
  ∀ scope, Acts call abortEarly (fun _ => True) scope (compile scope) found

variable {known : List String} {start : Option Nat} {body : List Stmt}
  {compile : Scope → Compile (List Stmt)} {each : String → Value → Findings}

theorem loop_map {α β : Type} (body : β → Frame → Except Fault Flow) (f : α → β)
    (elements : List α) (frame : Frame) :
    loop body (elements.map f) frame = loop (fun a => body (f a)) elements frame := by
  induction elements generalizing frame with
  | nil => rfl
  | cons element elements ih =>
    simp only [List.map_cons, loop]
    have hrest : loop body (elements.map f) = loop (fun a => body (f a)) elements := funext ih
    rw [hrest]

/-- A loop over items, with new names for the item and its position. -/
theorem forItems_sim (h : Sim call abortEarly (fun _ => True)
      (scope.inner (.item ⟨.item, low + 2⟩) (.bound ⟨.index, low + 1⟩)) (low + 2) body found) :
    Sim call abortEarly (OfType .array) scope low
      [.forItems ⟨.index, low + 1⟩ ⟨.item, low + 2⟩ scope.operand start body]
      (itemsFindings start found) := by
  refine ⟨fun hnil => absurd hnil (List.cons_ne_nil _ _),
    fun frame value tokens hvalue hlocated => ?_⟩
  obtain ⟨-, hitems, -⟩ := elements_of_array hvalue
  rw [runAll_singleton]
  simp only [Stmt.run, hlocated.operand_eq]
  show Ends _ _ _ _ _ (do
    let rounds ← roundsOf .plain value start
    loop _ rounds frame)
  have hrounds : roundsOf .plain value start = .ok ((enumerated (elementsOf value) start).map
      fun round => .ok ⟨.index round.2, .item round.1⟩) := by
    show (do return (enumerated (← itemsOf value) start).map _) = _
    rw [hitems]
    rfl
  rw [hrounds]
  show Ends _ _ _ _ _ (loop _ (List.map _ _) frame)
  rw [loop_map, itemsFindings, Findings.all_under, List.map_map]
  refine Ends.loop fun element _ later hlater => ?_
  obtain ⟨item, position⟩ := element
  show Ends _ _ _ _ (((found item).under _).under tokens) (runAll .plain call abortEarly body
    ((later.bind ⟨.index, low + 1⟩ (.index position)).bind ⟨.item, low + 2⟩ (.item item)))
  rw [Findings.under_under]
  -- The names of the round are new, so the place of the loop is still found from its frame.
  have hindex : later.Agrees low (later.bind ⟨.index, low + 1⟩ (.index position)) :=
    .bind later (Nat.lt_succ_self low) _
  have hitem : (later.bind ⟨.index, low + 1⟩ (.index position)).Agrees low
      ((later.bind ⟨.index, low + 1⟩ (.index position)).bind ⟨.item, low + 2⟩ (.item item)) :=
    .bind _ (Nat.lt_of_lt_of_le (Nat.lt_succ_self low) (Nat.le_succ _)) _
  have hround := hindex.trans hitem
  have hinner : Located (scope.inner (.item ⟨.item, low + 2⟩) (.bound ⟨.index, low + 1⟩)) (low + 2)
      ((later.bind ⟨.index, low + 1⟩ (.index position)).bind ⟨.item, low + 2⟩ (.item item)) item
      (tokens ++ [.index position]) := by
    refine (hlocated.later hlater).inner (Nat.le_add_right low 2) hround (fun last hlast => ?_)
      fun last hlast => ?_
    · simp only [Operand.eval, hlast.lookup_eq ⟨.item, low + 2⟩ (Nat.le_refl _), Frame.lookup_bind]
      rfl
    · simp only [Step.eval, hlast.lookup_eq ⟨.index, low + 1⟩ (Nat.le_succ _), Frame.lookup_bind]
      rfl
  exact (h.run _ item _ trivial hinner).rebase (Nat.le_add_right low 2) hround rfl

theorem itemsLoop_sim (hcompile : SimAt call abortEarly compile found) :
    Acts call abortEarly (OfType .array) scope (itemsLoop scope start compile)
      (itemsFindings start found) := by
  intro s checks s' h
  simp only [itemsLoop, Gives.bind_iff, Gives.pure_iff, fresh_gives] at h
  obtain ⟨_, _, ⟨rfl, rfl⟩, _, _, ⟨rfl, rfl⟩, body, _, hbody, rfl, rfl⟩ := h
  obtain ⟨hcounter, hsim⟩ := hcompile _ _ _ _ hbody
  refine ⟨Nat.le_trans (Nat.le_add_right _ 2) hcounter, ?_⟩
  split
  · rename_i hempty
    -- Nothing is checked in a round, so there is nothing to find in any.
    have hclear : ∀ value, itemsFindings start found value = .clear := by
      intro value
      refine Findings.all_eq_clear fun part hpart => ?_
      obtain ⟨⟨item, position⟩, -, rfl⟩ := List.mem_map.1 hpart
      simp only [hsim.clear_of_nil (List.isEmpty_iff.1 hempty) item trivial, Findings.clear_under]
    refine ⟨fun _ value _ => hclear value, fun frame value tokens _ _ => ?_⟩
    rw [hclear]
    exact .clear _ _ _ frame
  · exact forItems_sim hsim

theorem exists_get?_of_mem_keys {key : String} (h : key ∈ Table.keys members) :
    ∃ member, Table.get? members key = some member := by
  rw [← Table.has_iff]
  obtain ⟨entry, hentry, rfl⟩ := List.mem_map.1 h
  exact List.any_eq_true.2 ⟨entry, hentry, beq_self_eq_true _⟩

/-- A loop over the keys that are not declared, with a new name for the key. -/
theorem forKeys_sim (h : ∀ frame value tokens key member, Located scope low frame value tokens →
      frame.lookup ⟨.key, low + 1⟩ = .ok (.key key) → OfType .object value →
        Table.get? (membersIn value) key = some member →
          Ends abortEarly scope.inBranch (low + 1) frame
            ((each key member).under (tokens ++ [.key key]))
            (runAll .plain call abortEarly body frame)) :
    Sim call abortEarly (OfType .object) scope low
      [.forKeys ⟨.key, low + 1⟩ scope.operand
        (if known.isEmpty then body else [.ifElse (.unknownKey ⟨.key, low + 1⟩ known) body []])]
      (othersFindings known each) := by
  refine ⟨fun hnil => absurd hnil (List.cons_ne_nil _ _),
    fun frame value tokens hvalue hlocated => ?_⟩
  obtain ⟨-, hmembers, -⟩ := members_of_object hvalue
  rw [runAll_singleton]
  simp only [Stmt.run, hlocated.operand_eq]
  show Ends _ _ _ _ _ (do
    let members ← membersOf value
    loop _ (Table.keys members) frame)
  rw [hmembers, othersFindings, Findings.all_under, List.map_map]
  refine Ends.loop fun key hkey later hlater => ?_
  have hbind : later.Agrees low (later.bind ⟨.key, low + 1⟩ (.key key)) :=
    .bind later (Nat.lt_succ_self low) _
  have hlookup : (later.bind ⟨.key, low + 1⟩ (.key key)).lookup ⟨.key, low + 1⟩ =
      .ok (.key key) := by
    rw [Frame.lookup_bind, if_pos rfl]
  have hlocated' := (hlocated.later hlater).later hbind
  obtain ⟨member, hmember⟩ := exists_get?_of_mem_keys hkey
  have hbody := h _ value tokens key member hlocated' hlookup hvalue hmember
  refine Ends.rebase (Nat.le_refl low) hbind rfl ?_
  simp only [Function.comp_apply, hmember]
  cases known with
  | nil =>
    show Ends _ _ _ _ (((each key member).under [.key key]).under tokens) _
    rw [Findings.under_under]
    exact hbody.rebase (Nat.le_succ low) (.refl _ _) rfl
  | cons name known =>
    have htest : (Test.unknownKey ⟨.key, low + 1⟩ (name :: known)).eval .plain
        (later.bind ⟨.key, low + 1⟩ (.key key)) = .ok !(name :: known).contains key := by
      simp only [Test.eval, keyOf, hlookup]
      rfl
    refine ifElse_ends htest (fun hfalse => ?_) fun htrue => ?_
    · rw [(Bool.not_eq_false' _).mp hfalse]
      rfl
    · rw [(Bool.not_eq_true' _).mp htrue]
      show Ends _ _ _ _ (((each key member).under [.key key]).under tokens) _
      rw [Findings.under_under]
      exact hbody.rebase (Nat.le_succ low) (.refl _ _) rfl

/-- Inside the round of a key. -/
theorem Located.key {frame : Frame} {value member : Value} {tokens : List PathToken}
    {key : String} (h : Located scope low frame value tokens)
    (hkey : frame.lookup ⟨.key, low + 1⟩ = .ok (.key key)) (hvalue : OfType .object value)
    (hmember : Table.get? (membersIn value) key = some member) :
    Located (scope.inner (.memberAt scope.operand ⟨.key, low + 1⟩) (.bound ⟨.key, low + 1⟩))
      (low + 1) frame member (tokens ++ [.key key]) := by
  refine h.inner (Nat.le_succ low) (.refl _ _) (fun last hlast => ?_) fun last hlast => ?_
  · have hlookup := (hlast.lookup_eq ⟨.key, low + 1⟩ (Nat.le_refl _)).trans hkey
    simp only [Operand.eval, keyOf, h.operand last (hlast.mono (Nat.le_succ low)), hlookup]
    exact memberAt_eq (members_of_object hvalue).2.1 hmember
  · have hlookup := (hlast.lookup_eq ⟨.key, low + 1⟩ (Nat.le_refl _)).trans hkey
    simp only [Step.eval, hlookup]
    rfl

theorem othersFindings_clear (h : ∀ key member, each key member = .clear) (value : Value) :
    othersFindings known each value = .clear := by
  refine Findings.all_eq_clear fun part hpart => ?_
  obtain ⟨key, -, rfl⟩ := List.mem_map.1 hpart
  split
  · rfl
  · split
    · rw [h]
      rfl
    · rfl

theorem keysLoop_sim (hcompile : SimAt call abortEarly compile found) :
    Acts call abortEarly (OfType .object) scope (keysLoop scope known fun _ inner => compile inner)
      (othersFindings known fun _ => found) := by
  intro s checks s' h
  simp only [keysLoop, Gives.bind_iff, fresh_gives] at h
  obtain ⟨_, _, ⟨rfl, rfl⟩, body, _, hbody, h⟩ := h
  obtain ⟨hcounter, hsim⟩ := hcompile _ _ _ _ hbody
  have hle : s.counter ≤ _ := Nat.le_trans (Nat.le_succ _) hcounter
  split at h
  · rename_i hempty
    obtain ⟨rfl, rfl⟩ := Gives.pure_iff.1 h
    have hclear : ∀ value, othersFindings known (fun _ => found) value = .clear :=
      othersFindings_clear fun _ member => hsim.clear_of_nil (List.isEmpty_iff.1 hempty)
        member trivial
    refine ⟨hle, fun _ value _ => hclear value, fun frame value tokens _ _ => ?_⟩
    rw [hclear]
    exact .clear _ _ _ frame
  · obtain ⟨rfl, rfl⟩ := Gives.pure_iff.1 h
    refine ⟨hle,
      forKeys_sim fun frame value tokens key member hlocated hlookup hvalue hmember => ?_⟩
    exact hsim.run frame member _ trivial (hlocated.key hlookup hvalue hmember)

theorem unrecognized_sim :
    Acts call abortEarly (OfType .object) scope
      (keysLoop scope known fun key inner => pure (unrecognized scope known key inner))
      (othersFindings known fun name _ => unrecognizedFindings known name) := by
  intro s checks s' h
  simp only [keysLoop, Gives.bind_iff, Gives.pure_iff, fresh_gives] at h
  obtain ⟨_, _, ⟨rfl, rfl⟩, _, _, ⟨rfl, rfl⟩, h⟩ := h
  obtain ⟨rfl, rfl⟩ := Gives.pure_iff.1 h
  refine ⟨Nat.le_succ _,
    forKeys_sim fun frame value tokens key member hlocated hlookup hvalue hmember => ?_⟩
  refine Sim.reportAt_ends (hlocated.key hlookup hvalue hmember).path_eq ?_
  simp only [Received.eval, keyOf, hlookup]
  rfl

end Parts

end SchemaGuard.Check
