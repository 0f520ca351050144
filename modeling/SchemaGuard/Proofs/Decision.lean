import SchemaGuard.Proofs.Counts
import SchemaGuard.Proofs.Located
import SchemaGuard.Proofs.NodeInduction
import SchemaGuard.Proofs.Tables

/-!
# Findings decide what a node means

**Theorem (`findings_decide`).** If the findings of references decide what references ask for, then
the findings of a node decide whether a value satisfies it: a report means that it does not, and
findings that come to their end without a report mean that it does. Findings that break off before
any report say nothing.

The proof is an induction over the node, along the way in which findings are put together.
-/

namespace SchemaGuard.Check

/-- An outcome is right about a proposition: the value is given back if it holds, and there are
issues if it does not. -/
def Outcome.Tells (outcome : Outcome) (value : Value) (p : Prop) : Prop :=
  (p ∧ outcome = .success value) ∨ (¬p ∧ ∃ issue issues, outcome = .failure (issue :: issues))

variable {value : Value} {p : Prop}

theorem Outcome.Tells.congr {outcome : Outcome} {q : Prop} (h : outcome.Tells value p)
    (hpq : p ↔ q) : outcome.Tells value q := propext hpq ▸ h

/-- Findings decide a proposition: every report is of some issue and refutes it, and findings that
end without a report verify it. -/
structure Findings.Decide (findings : Findings) (p : Prop) : Prop where
  refuted : ∀ issues ∈ findings.reports, issues ≠ [] ∧ ¬p
  verified : findings.reports = [] → findings.fault = none → p

namespace Findings.Decide

variable {first second : Findings} {p q : Prop}

theorem clear (h : p) : Findings.clear.Decide p := ⟨by simp [Findings.clear], fun _ _ => h⟩

theorem report (issue : Issue) (h : ¬p) : (Findings.report issue).Decide p :=
  ⟨by simp [Findings.report, h], nofun⟩

theorem broken (fault : Fault) (p : Prop) : (Findings.broken fault).Decide p :=
  ⟨by simp [Findings.broken], nofun⟩

theorem when {condition : Bool} (issue : Issue) (h : p ↔ condition = false) :
    (Findings.when condition issue).Decide p := by
  cases condition with
  | true => exact .report issue fun hp => by cases h.1 hp
  | false => exact .clear (h.2 rfl)

theorem congr (h : first.Decide p) (hpq : p ↔ q) : first.Decide q :=
  ⟨fun issues hmem => ⟨(h.refuted issues hmem).1, fun hq => (h.refuted issues hmem).2 (hpq.2 hq)⟩,
    fun hnil hnone => hpq.1 (h.verified hnil hnone)⟩

theorem andThen (h : first.Decide p) (h' : second.Decide q) :
    (first.andThen second).Decide (p ∧ q) := by
  cases hfault : first.fault with
  | some fault =>
    have hsame : first.andThen second = first := by simp only [Findings.andThen, hfault]
    rw [hsame]
    refine ⟨fun issues hmem => ?_, fun _ hnone => ?_⟩
    · exact ⟨(h.refuted issues hmem).1, fun hpq => (h.refuted issues hmem).2 hpq.1⟩
    · rw [hfault] at hnone
      cases hnone
  | none =>
    have hboth : first.andThen second = ⟨first.reports ++ second.reports, second.fault⟩ := by
      simp only [Findings.andThen, hfault]
    rw [hboth]
    refine ⟨fun issues hmem => ?_, fun hnil hnone => ?_⟩
    · rcases List.mem_append.1 hmem with hmem | hmem
      · exact ⟨(h.refuted issues hmem).1, fun hpq => (h.refuted issues hmem).2 hpq.1⟩
      · exact ⟨(h'.refuted issues hmem).1, fun hpq => (h'.refuted issues hmem).2 hpq.2⟩
    · obtain ⟨hnil, hnil'⟩ := List.append_eq_nil_iff.1 hnil
      exact ⟨h.verified hnil hfault, h'.verified hnil' hnone⟩

theorem under (h : first.Decide p) (path : List PathToken) : (first.under path).Decide p := by
  refine ⟨fun moved hmoved => ?_, fun hnil hnone => h.verified (List.map_eq_nil_iff.1 hnil) hnone⟩
  obtain ⟨issues, hmem, rfl⟩ := List.mem_map.1 hmoved
  exact ⟨fun hnil => (h.refuted issues hmem).1 (List.map_eq_nil_iff.1 hnil),
    (h.refuted issues hmem).2⟩

theorem all {α : Type} {elements : List α} {each : α → Findings} {holds : α → Prop}
    (h : ∀ element ∈ elements, (each element).Decide (holds element)) :
    (Findings.all (elements.map each)).Decide (∀ element ∈ elements, holds element) := by
  induction elements with
  | nil => exact .clear (by simp)
  | cons element elements ih =>
    refine ((h element (by simp)).andThen (ih fun e he => h e (by simp [he]))).congr ?_
    simp

/-- The verdict on findings is right. -/
theorem verdict_iff (h : first.Decide p) {passes : Bool} (hverdict : first.verdict = .ok passes) :
    passes = true ↔ p := by
  unfold verdict at hverdict
  split at hverdict
  · rename_i issues others hreports
    cases hverdict
    exact ⟨nofun, fun hp => ((h.refuted issues (by simp [hreports])).2 hp).elim⟩
  · cases hverdict
  · rename_i hreports hfault
    cases hverdict
    exact ⟨fun _ => h.verified hreports hfault, fun _ => rfl⟩

/-- What a validator returns on findings is right. -/
theorem tells (h : first.Decide p) {stopping : Bool} {value : Value} {outcome : Outcome}
    (houtcome : first.outcome stopping value = .ok outcome) : outcome.Tells value p := by
  unfold Findings.outcome at houtcome
  split at houtcome
  · rename_i issues others hreports
    cases houtcome
    obtain ⟨hne, hp⟩ := h.refuted issues (by simp [hreports])
    obtain ⟨issue, issues, rfl⟩ := List.exists_cons_of_ne_nil hne
    exact .inr ⟨hp, issue, issues, rfl⟩
  · split at houtcome
    · cases houtcome
    · rename_i hfault
      cases hreports : first.reports with
      | nil =>
        simp only [hreports, List.flatten_nil, List.isEmpty_nil, if_true] at houtcome
        cases houtcome
        exact .inl ⟨h.verified hreports hfault, rfl⟩
      | cons issues others =>
        obtain ⟨hne, hp⟩ := h.refuted issues (by simp [hreports])
        obtain ⟨issue, issues, rfl⟩ := List.exists_cons_of_ne_nil hne
        simp only [hreports, List.flatten_cons, List.cons_append, List.isEmpty_cons,
          Bool.false_eq_true, if_false] at houtcome
        cases houtcome
        exact .inr ⟨hp, issue, _, rfl⟩

end Findings.Decide

open Findings

/-! ## Types and constraints -/

theorem TypeTest.holds_iff (value : Value) (test : TypeTest) :
    test.holds value = true ↔ test.Holds value := by
  cases test <;> cases value <;>
    simp [TypeTest.holds, TypeTest.Holds, isString, Value.isNumber, Value.isInteger, isBool,
      isNull, isList, isTuple, isDict, Value.elements?, Value.members?]

theorem typeFindings_decide {test : TypeTest} {typeName : String} {constraints : Value → Findings}
    (hholds : p → test.Holds value) (h : test.holds value = true → (constraints value).Decide p) :
    (typeFindings test typeName constraints value).Decide p := by
  unfold typeFindings
  split
  · exact h ‹_›
  · rename_i hnot
    exact .report _ fun hp => hnot ((TypeTest.holds_iff value test).2 (hholds hp))

theorem countFindings_decide (least most : Option Json) (atLeast atMost : Count → String)
    (counted : Counted) (count : Nat) :
    (countFindings least most atLeast atMost counted count).Decide
    (CountWithin least most count) := by
  refine .andThen ?_ ?_
  · unfold boundFindings
    cases least.bind Count.ofJson? with
    | none => exact .clear (by simp)
    | some bound => exact .when _ (by simp [Comparison.ofNumbers])
  · unfold boundFindings
    cases most.bind Count.ofJson? with
    | none => exact .clear (by simp)
    | some bound => exact .when _ (by simp [Comparison.ofNumbers])

theorem patternFindings_decide (pattern : Option Json) (text : String) :
    (patternFindings pattern text).Decide (PatternAdmits pattern text) := by
  unfold patternFindings
  split
  · rename_i source
    split
    · rename_i expr hexpr
      refine .when _ ⟨fun h => by simp [h source expr rfl hexpr],
        fun h source' expr' hsource hexpr' => ?_⟩
      cases hsource
      rw [hexpr] at hexpr'
      cases hexpr'
      simpa using h
    · rename_i error herror
      refine .clear fun source' expr' hsource hexpr => ?_
      cases hsource
      rw [herror] at hexpr
      cases hexpr
  · rename_i hno
    exact .clear fun source expr hsource _ => (hno source hsource).elim

theorem limit_decide (keyword : Option Number) (code : Code) (comparison : Comparison)
    (sign : String) (value : Value) :
    (match keyword with
      | some bound => limitFindings code comparison sign bound value
      | none => clear).Decide
      (∀ bound, keyword = some bound → comparison.ofNumbers (numeralOf value) bound = false) := by
  cases keyword with
  | none => exact .clear (by simp)
  | some bound => exact .when _ (by simp)

/-- A plain bound, which a flag makes exclusive. -/
theorem plainLimit_decide (keyword : Option Number) (isExclusive : Bool) (code : Code)
    (strict plain : Comparison) (strictSign plainSign : String) (value : Value) :
    (match keyword with
      | some bound => if isExclusive then limitFindings code strict strictSign bound value
          else limitFindings code plain plainSign bound value
      | none => clear).Decide
      (∀ bound, keyword = some bound →
        if isExclusive then strict.ofNumbers (numeralOf value) bound = false
        else plain.ofNumbers (numeralOf value) bound = false) := by
  cases isExclusive with
  | true => exact limit_decide keyword code strict strictSign value
  | false => exact limit_decide keyword code plain plainSign value

theorem boundsFindings_decide (bounds : Bounds) (value : Value) :
    (boundsFindings bounds value).Decide (bounds.Admit (numeralOf value)) := by
  have hminimum := plainLimit_decide (number? bounds.minimum)
    (isTrue bounds.exclusiveMinimum) .tooSmall .le .lt ">" ">=" value
  have hleast := limit_decide (number? bounds.exclusiveMinimum) .tooSmall .le ">" value
  have hmaximum := plainLimit_decide (number? bounds.maximum)
    (isTrue bounds.exclusiveMaximum) .tooBig .ge .gt "<" "<=" value
  have hmost := limit_decide (number? bounds.exclusiveMaximum) .tooBig .ge "<" value
  refine (((hminimum.andThen hleast).andThen hmaximum).andThen hmost).congr ?_
  rw [and_assoc, and_assoc]
  rfl

theorem primitiveFindings_decide (type : Primitive) (value : Value) :
    (primitiveFindings type value).Decide (type.Admits value) := by
  cases type with
  | string minLength maxLength pattern =>
    refine typeFindings_decide (fun h => h.imp fun _ => And.left) fun hholds => ?_
    obtain ⟨text, rfl⟩ := (TypeTest.holds_iff _ _).1 hholds
    refine ((countFindings_decide ..).andThen (patternFindings_decide ..)).congr ?_
    simp [Primitive.Admits, textOf]
  | integer bounds =>
    simp only [primitiveFindings]
    refine typeFindings_decide (fun h => h.imp fun _ => And.left) fun hholds => ?_
    obtain ⟨number, rfl⟩ := (TypeTest.holds_iff _ _).1 hholds
    have hwhole : (wholeFindings (.number number)).Decide (number.isWhole = true) :=
      .when _ (by simp [Value.isInteger])
    refine (hwhole.andThen (boundsFindings_decide bounds _)).congr ?_
    simp [Primitive.Admits, numeralOf]
  | number bounds =>
    refine typeFindings_decide (fun h => h.imp fun _ => And.left) fun hholds => ?_
    obtain ⟨number, rfl⟩ := (TypeTest.holds_iff _ _).1 hholds
    refine (boundsFindings_decide bounds _).congr ?_
    simp [Primitive.Admits, numeralOf]
  | boolean =>
    simp only [primitiveFindings]
    exact typeFindings_decide id fun hholds => .clear ((TypeTest.holds_iff value .boolean).1 hholds)
  | null =>
    simp only [primitiveFindings]
    exact typeFindings_decide id fun hholds => .clear ((TypeTest.holds_iff value .null).1 hholds)

theorem unionFindings_decide (types : List String) (value : Value) :
    (unionFindings types value).Decide (types.filterMap typeTest? = [] ∨
      ∃ type ∈ types.filterMap typeTest?, type.Holds value) := by
  unfold unionFindings
  cases types.filterMap typeTest? with
  | nil => exact .clear (.inl rfl)
  | cons test tests =>
    refine .when _ ?_
    rw [Bool.not_eq_false', List.any_eq_true]
    simp only [reduceCtorEq, false_or, TypeTest.holds_iff]

/-! ## Limits of arrays and objects -/

theorem countDistinct_le (keys : List Value.Key) : Value.Key.countDistinct keys ≤ keys.length := by
  induction keys with
  | nil => exact Nat.le_refl 0
  | cons key keys ih =>
    unfold Value.Key.countDistinct
    split <;> simp <;> omega

/-- As many different keys as keys: none is the same as a later one. -/
theorem countDistinct_eq_length (keys : List Value.Key) :
    Value.Key.countDistinct keys = keys.length ↔ keys.Pairwise fun key other =>
      key.same other = false := by
  induction keys with
  | nil => simp [Value.Key.countDistinct]
  | cons key keys ih =>
    rw [List.pairwise_cons, ← ih]
    have hle := countDistinct_le keys
    rw [Value.Key.countDistinct]
    split
    · rename_i hany
      obtain ⟨other, hmem, hsame⟩ := List.any_eq_true.1 hany
      constructor
      · intro h
        simp at h
        omega
      · rintro ⟨hnone, _⟩
        rw [hnone other hmem] at hsame
        cases hsame
    · rename_i hany
      simp only [List.any_eq_true, not_exists, not_and, Bool.not_eq_true] at hany
      rw [List.length_cons, Nat.add_right_cancel_iff]
      exact ⟨fun h => ⟨hany, h⟩, fun h => h.2⟩

theorem keyItems_eq_map (items : List Value) : Value.keyItems items = items.map Value.key := by
  induction items with
  | nil => rfl
  | cons item items ih => rw [Value.keyItems, ih, List.map_cons]

theorem arrayLimitFindings_decide (limits : ArrayLimits) (value : Value) :
    (arrayLimitFindings limits value).Decide (limits.Admit (elementsOf value)) := by
  refine (countFindings_decide ..).andThen ?_
  unfold uniqueFindings
  cases limits.uniqueItems with
  | false => exact .clear (by simp)
  | true =>
    refine .when _ ?_
    simp only [true_implies, bne_eq_false_iff_eq]
    rw [Value.countUnique, ← List.length_map Value.key, ← keyItems_eq_map, countDistinct_eq_length,
      keyItems_eq_map, List.pairwise_map]

theorem tupleLengthFindings_decide (count : Nat) (isClosed : Bool) (value : Value) :
    (tupleLengthFindings count isClosed value).Decide
      (if isClosed then (elementsOf value).length = count
        else count ≤ (elementsOf value).length) := by
  unfold tupleLengthFindings
  cases isClosed with
  | true =>
    rw [if_pos rfl, if_pos rfl]
    refine .when _ ?_
    simp only [Comparison.ofNumbers, Number.same_int, Int.natCast_inj, Bool.not_eq_eq_eq_not,
      Bool.not_false, decide_eq_true_eq]
  | false =>
    rw [if_neg Bool.false_ne_true, if_neg Bool.false_ne_true]
    split
    · exact .clear (by omega)
    · refine .when _ ?_
      simp only [Comparison.ofNumbers, Number.lt_int]
      simp

/-! ## Parts of values -/

section Parts

variable {each : Value → Findings} {holds : Value → Prop}

theorem itemsFindings_decide (h : ∀ item, (each item).Decide (holds item)) (start : Option Nat)
    (value : Value) :
    (itemsFindings start each value).Decide (∀ item ∈ (elementsOf value).drop (start.getD 0),
      holds item) := by
  unfold itemsFindings enumerated
  have hentry : ∀ entry ∈ (elementsOf value).zipIdx.drop (start.getD 0),
      ((each entry.1).under [.index entry.2]).Decide (holds entry.1) :=
        fun entry _ => (h entry.1).under _
  refine (Decide.all hentry).congr ?_
  rw [← List.forall_mem_map (f := Prod.fst), List.map_drop, List.zipIdx_map_fst]

theorem positionFindings_decide (h : ∀ item, (each item).Decide (holds item)) (position : Nat)
    (value : Value) :
    (positionFindings position each value).Decide
      (∀ item, (elementsOf value)[position]? = some item → holds item) := by
  unfold positionFindings
  cases (elementsOf value)[position]? with
  | none => exact .clear (by simp)
  | some item => exact ((h item).under _).congr (by simp)

theorem memberFindings_decide (h : ∀ member, (each member).Decide (holds member)) (name : String)
    (value : Value) :
    (memberFindings name each value).Decide
      (∀ member, Table.get? (membersIn value) name = some member → holds member) := by
  unfold memberFindings
  cases Table.get? (membersIn value) name with
  | none => exact .clear (by simp)
  | some member => exact ((h member).under _).congr (by simp)

theorem othersFindings_decide {each : String → Value → Findings} {holds : String → Value → Prop}
    (h : ∀ name member, (each name member).Decide (holds name member)) (known : List String)
    (value : Value) :
    (othersFindings known each value).Decide (∀ name member,
      Table.get? (membersIn value) name = some member → name ∉ known → holds name member) := by
  have hholds : (∀ name ∈ Table.keys (membersIn value), ∀ member,
      Table.get? (membersIn value) name = some member → name ∉ known → holds name member) ↔
      ∀ name member, Table.get? (membersIn value) name = some member → name ∉ known →
        holds name member :=
    ⟨fun hall name member hget => hall name (Table.mem_keys.2 ⟨member, hget⟩) member hget,
      fun hall name _ => hall name⟩
  refine (Decide.all fun name _ => ?_).congr hholds
  split
  · rename_i hknown
    exact .clear fun member _ hnot => (hnot (by simpa using hknown)).elim
  · rename_i hother
    cases Table.get? (membersIn value) name with
    | none => exact .clear (by simp)
    | some member =>
      refine ((h name member).under _).congr ⟨fun hmember member' heq _ => ?_, fun hall => ?_⟩
      · cases heq
        exact hmember
      · exact hall member rfl (by simpa using hother)

end Parts

/-! ## Nodes -/

section Nodes

variable {refs : String → Value → Findings} {meaning : String → Value → Prop}

/-- The findings of a node are right about every value. -/
def Right (refs : String → Value → Findings) (meaning : String → Value → Prop) (node : Node) :
    Prop :=
  ∀ value, (findings refs node value).Decide (Satisfies meaning node value)

variable {branches : List Node} {value : Value} {properties : Option (List (Property Node))}

theorem eachFindings_decide {nodes : List Node} (h : ∀ node ∈ nodes, Right refs meaning node)
    (position : Nat) (value : Value) :
    (eachFindings refs nodes position value).Decide
      (SatisfiesEach meaning nodes ((elementsOf value).drop position)) := by
  induction nodes generalizing position with
  | nil => exact .clear trivial
  | cons node nodes ih =>
    have hfirst := positionFindings_decide (h node (by simp)) position value
    have hothers := ih (fun node hnode => h node (by simp [hnode])) (position + 1)
    refine (hfirst.andThen hothers).congr ?_
    rw [← List.drop_drop, ← List.head?_drop, List.drop_one]
    cases (elementsOf value).drop position with
    | nil => cases nodes <;> simp [SatisfiesEach]
    | cons item items => simp [SatisfiesEach]

theorem declaredFindings_decide {properties : List (Property Node)}
    (h : ∀ property ∈ properties, Right refs meaning property.node) (value : Value) :
    (declaredFindings refs properties value).Decide
      (SatisfiesDeclared meaning properties (membersIn value)) := by
  induction properties with
  | nil => exact .clear trivial
  | cons property properties ih =>
    have hfirst := memberFindings_decide (h property (by simp)) property.name value
    exact hfirst.andThen (ih fun other hother => h other (by simp [hother]))

theorem anyVerdict_iff (h : ∀ branch ∈ branches, Right refs meaning branch) {passes : Bool}
    (hany : anyVerdict (verdictsOf refs branches value) = .ok passes) :
    passes = true ↔ SatisfiesSome meaning branches value := by
  induction branches with
  | nil =>
    cases hany
    simp [SatisfiesSome]
  | cons branch branches ih =>
    obtain ⟨first, hfirst, hothers⟩ := bind_eq_ok.1 hany
    have hbranch := (h branch (by simp) value).verdict_iff hfirst
    cases first with
    | true =>
      cases hothers
      exact ⟨fun _ => .inl (hbranch.1 rfl), fun _ => rfl⟩
    | false =>
      rw [ih (fun branch hmem => h branch (by simp [hmem])) hothers, SatisfiesSome, ← hbranch]
      simp

/-- How many branches pass: none if none is satisfied, and one if exactly one is. -/
theorem count_passed (h : ∀ branch ∈ branches, Right refs meaning branch) {passed : List Bool}
    (hall : (verdictsOf refs branches value).mapM id = .ok passed) :
    (passed.count true = 0 ↔ ¬SatisfiesSome meaning branches value) ∧
      (passed.count true = 1 ↔ SatisfiesOne meaning branches value) := by
  induction branches generalizing passed with
  | nil =>
    cases hall
    simp [SatisfiesSome, SatisfiesOne]
  | cons branch branches ih =>
    rw [verdictsOf, List.mapM_cons] at hall
    obtain ⟨first, hfirst, hothers⟩ := bind_eq_ok.1 hall
    obtain ⟨rest, hrest, hpassed⟩ := bind_eq_ok.1 hothers
    cases hpassed
    have hbranch := (h branch (by simp) value).verdict_iff hfirst
    obtain ⟨hnone, hone⟩ := ih (fun branch hmem => h branch (by simp [hmem])) hrest
    rw [SatisfiesSome, SatisfiesOne, ← hbranch, ← hone, ← hnone]
    cases first <;> simp [hnone]

theorem combinator_right (origin : Origin) (kind : Combinator)
    (h : ∀ branch ∈ branches, Right refs meaning branch) :
    Right refs meaning (.combinator origin kind branches) := by
  intro value
  cases kind with
  | allOf => exact .clear trivial
  | oneOf =>
    cases branches with
    | nil => exact .clear (.inl rfl)
    | cons branch branches =>
      show (branchFindings .oneOf _).Decide _
      unfold branchFindings
      dsimp only
      split
      · exact .broken _ _
      · rename_i hall
        refine .when _ ?_
        have hone := (count_passed h hall).2
        simp [Satisfies, ← hone]
  | anyOf =>
    cases branches with
    | nil => exact .clear (.inl rfl)
    | cons branch branches =>
      show (branchFindings .anyOf _).Decide _
      unfold branchFindings
      dsimp only
      split
      · exact .broken _ _
      · rename_i hany
        refine .when _ ?_
        simp [Satisfies, ← anyVerdict_iff h hany]

theorem layoutFindings_decide {origin : Origin} {items : Items Node} {leading : Option (List Node)}
    {limits : ArrayLimits} (h : ∀ node, Node.HasPart (.array origin items leading limits) node →
      Right refs meaning node) (value : Value) :
    (layoutFindings refs items leading value).Decide
      (SatisfiesLayout meaning items leading (elementsOf value)) := by
  have hclosed : ∀ nodes : List Node, (∀ node ∈ nodes, Right refs meaning node) →
      ((tupleLengthFindings nodes.length true value).andThen
        (eachFindings refs nodes 0 value)).Decide
        ((elementsOf value).length = nodes.length ∧
          SatisfiesEach meaning nodes (elementsOf value)) :=
    fun nodes h => (tupleLengthFindings_decide nodes.length true value).andThen
      (eachFindings_decide h 0 value)
  cases leading with
  | some nodes =>
    cases items with
    | all rest =>
      have hlength := tupleLengthFindings_decide nodes.length false value
      have hnodes := eachFindings_decide (fun node hmem => h node (.leading hmem)) 0 value
      have hrest := itemsFindings_decide (h rest .item) (some nodes.length) value
      exact ((hlength.andThen hnodes).andThen hrest).congr and_assoc
    | each | absent => exact hclosed nodes fun node hmem => h node (.leading hmem)
  | none =>
    cases items with
    | all node => exact itemsFindings_decide (h node .item) none value
    | each nodes => exact hclosed nodes fun node hmem => h node (.listed hmem)
    | absent => exact .clear trivial

theorem propertiesFindings_decide {required : List String} {additional : Additional Node}
    {limits : ObjectLimits}
    (h : ∀ node, Node.HasPart (.object origin properties required additional limits) node →
      Right refs meaning node) (value : Value) :
    (propertiesFindings refs properties value).Decide
      (SatisfiesProperties meaning properties (membersIn value)) := by
  cases properties with
  | none => exact .clear trivial
  | some properties =>
    exact declaredFindings_decide (fun _ hmem => h _ (.property hmem)) value

theorem additionalFindings_decide {required : List String} {additional : Additional Node}
    {limits : ObjectLimits}
    (h : ∀ node, Node.HasPart (.object origin properties required additional limits) node →
      Right refs meaning node) (value : Value) :
    (additionalFindings refs properties additional value).Decide
      (SatisfiesAdditional meaning properties additional (membersIn value)) := by
  cases additional with
  | schema node => exact othersFindings_decide (fun _ => h node .additional) _ value
  | value raw =>
    by_cases hraw : raw = some (.bool false)
    · subst hraw
      cases properties with
      | none => exact .clear fun hsome => by cases hsome
      | some properties =>
        have hreport : ∀ name (member : Value),
            (unrecognizedFindings (properties.map (·.name)) name).Decide False :=
              fun name _ => .report _ id
        refine (othersFindings_decide hreport _ value).congr
          ⟨fun hnone _ name hname => ?_, fun hknown name member hget hnot =>
            hnot (hknown rfl name ?_)⟩
        · obtain ⟨member, hget⟩ := Table.mem_keys.1 hname
          exact Classical.not_not.1 fun hnot => hnone name member hget hnot
        · exact Table.mem_keys.2 ⟨member, hget⟩
    · rw [additionalFindings_open refs hraw]
      exact .clear (satisfiesAdditional_open hraw _)

/-- **Findings decide what a node means**, if those of references do. -/
theorem findings_decide (h : ∀ target value, (refs target value).Decide (meaning target value))
    (node : Node) : Right refs meaning node := by
  induction node using Node.induction with
  | step node ih =>
    cases node with
    | unknown origin => exact fun value => .clear trivial
    | const origin expected => exact fun value => .when _ (by simp [Satisfies])
    | enum origin allowed =>
      intro value
      refine .when _ ?_
      simp [Satisfies, Value.isOneOf]
    | combinator origin kind branches =>
      exact combinator_right origin kind fun branch hmem => ih branch (.branch hmem)
    | ref origin target => exact fun value => h target value
    | primitive origin type => exact fun value => primitiveFindings_decide type value
    | union origin types => exact fun value => unionFindings_decide types value
    | array origin items leading limits =>
      intro value
      rw [findings_array]
      refine typeFindings_decide (fun hsat => ?_) fun hholds => ?_
      · obtain ⟨elements, helements, _⟩ := satisfies_array.1 hsat
        exact ⟨elements, helements⟩
      · obtain ⟨elements, helements⟩ := (TypeTest.holds_iff value .array).1 hholds
        have hof : elementsOf value = elements := by simp [elementsOf, helements]
        refine ((layoutFindings_decide ih value).andThen
          (arrayLimitFindings_decide limits value)).congr ?_
        simp only [satisfies_array, hof, helements, Option.some.injEq, exists_eq_left']
    | object origin properties required additional limits =>
      intro value
      rw [findings_object]
      refine typeFindings_decide (fun hsat => ?_) fun hholds => ?_
      · obtain ⟨members, hmembers, _⟩ := satisfies_object.1 hsat
        exact ⟨members, hmembers⟩
      · obtain ⟨members, hmembers⟩ := (TypeTest.holds_iff value .object).1 hholds
        have hin : membersIn value = members := by simp [membersIn, hmembers]
        have hlimits : (objectLimitFindings limits value).Decide _ := countFindings_decide ..
        have hrequired : (all (required.map fun key => requiredFindings key value)).Decide
            (∀ name ∈ required, Table.has (membersIn value) name = true) :=
          .all fun name _ => .when _ (by simp)
        refine (((hlimits.andThen hrequired).andThen
          (propertiesFindings_decide ih value)).andThen (additionalFindings_decide ih value)).congr ?_
        simp only [satisfies_object, hin, hmembers, Option.some.injEq, exists_eq_left', and_assoc]

end Nodes

end SchemaGuard.Check
