import SchemaGuard.Proofs.Calls
import SchemaGuard.Proofs.Dependence
import SchemaGuard.Proofs.Unescaped

/-!
# Calling and expanding a reference agree

Which references are calls is decided by which pointers have names. A call hands over its issues
under the path of the reference; an expansion has the checks of the target in place.

**Theorem (`runs_agree`).** Let the references of a document have no escapes, and let validators be
emitted twice, with different pointers named. A pointer that has a name both times has two
validators, and where both return on a value, stopping at the first issue or not, they return the
same.

The two runs are not the same where one of them does not return, and then even the branches inside
may differ in whether they return. So the proof compares findings that may break off at different
places: as far as both go they have the same issues, and findings that do not break off have all of
them (`Findings.Fits`). This relation is closed under putting findings together and under calls. The
induction is on how many calls, and then on how many expansions, both sides may still make.
-/

namespace SchemaGuard

namespace Check

/-! ## What a run sees of findings -/

namespace Findings

/-- The issues that a run ends with. -/
def seen (stopping : Bool) (findings : Findings) : List Issue :=
  if stopping then findings.reports.headD [] else findings.reports.flatten

/-- The run goes on after findings. -/
def GoesOn (stopping : Bool) (findings : Findings) : Prop :=
  findings.fault = none ∧ (stopping = true → findings.reports = [])

/-- The run comes to a result on findings: it has stopped at a report, or there is no fault. -/
def Returns (stopping : Bool) (findings : Findings) : Prop :=
  findings.fault = none ∨ stopping = true ∧ findings.reports ≠ []

variable {stopping : Bool} {first second first' second' : Findings}

theorem GoesOn.returns (h : first.GoesOn stopping) : first.Returns stopping := .inl h.1

theorem seen_eq_nil (h : first.Solid) : first.seen stopping = [] ↔ first.reports = [] := by
  unfold seen
  cases hreports : first.reports with
  | nil => cases stopping <;> simp
  | cons issues others =>
    have hne := h issues (by simp [hreports])
    cases stopping <;> simp [hne]

theorem goesOn_iff (h : first.Solid) :
    first.GoesOn stopping ↔
      first.Returns stopping ∧ (stopping = true → first.seen stopping = []) := by
  unfold GoesOn Returns
  rw [seen_eq_nil h]
  constructor
  · exact fun hgoes => ⟨.inl hgoes.1, hgoes.2⟩
  · rintro ⟨hfault | ⟨hstops, hne⟩, hnil⟩
    · exact ⟨hfault, hnil⟩
    · exact (hne (hnil hstops)).elim

theorem andThen_of_goesOn (h : first.GoesOn stopping) (second : Findings) :
    (first.andThen second).seen stopping = first.seen stopping ++ second.seen stopping ∧
      ((first.andThen second).Returns stopping ↔ second.Returns stopping) := by
  obtain ⟨hfault, hquiet⟩ := h
  simp only [andThen, hfault, seen, Returns]
  cases stopping with
  | false => simp
  | true => simp [hquiet rfl]

theorem andThen_of_not_goesOn (h : ¬first.GoesOn stopping) (second : Findings) :
    (first.andThen second).seen stopping = first.seen stopping ∧
      ((first.andThen second).Returns stopping ↔ first.Returns stopping) := by
  unfold andThen
  cases hfault : first.fault with
  | some fault => exact ⟨rfl, Iff.rfl⟩
  | none =>
    -- Without a fault a run only ends at a report, where it is to stop.
    have hstops : stopping = true := by
      by_contra hgoes
      exact h ⟨hfault, fun hstops => (hgoes hstops).elim⟩
    subst hstops
    cases hreports : first.reports with
    | nil => exact (h ⟨hfault, fun _ => hreports⟩).elim
    | cons issues others => simp [seen, Returns, hfault, hreports]

theorem Solid.andThen (h : first.Solid) (h' : second.Solid) : (first.andThen second).Solid := by
  unfold Findings.andThen
  split
  · exact h
  · intro issues hmem
    rcases List.mem_append.1 hmem with hmem | hmem
    · exact h issues hmem
    · exact h' issues hmem

theorem Solid.under (h : first.Solid) (path : List PathToken) : (first.under path).Solid := by
  intro moved hmoved
  obtain ⟨issues, hmem, rfl⟩ := List.mem_map.1 hmoved
  exact fun hnil => h issues hmem (List.map_eq_nil_iff.1 hnil)

theorem seen_under (path : List PathToken) :
    (first.under path).seen stopping = (first.seen stopping).map (·.under path) := by
  unfold seen under
  cases stopping with
  | false => simp [List.map_flatten]
  | true => cases first.reports <;> simp

theorem returns_under (path : List PathToken) :
    (first.under path).Returns stopping ↔ first.Returns stopping := by
  unfold Returns under
  simp

theorem returns_iff_outcome (value : Value) :
    first.Returns stopping ↔ ∃ outcome, first.outcome stopping value = .ok outcome := by
  unfold Returns outcome
  cases stopping <;> cases first.reports <;> cases first.fault <;> simp

theorem outcome_eq_of_seen {value : Value} {outcome : Outcome} (hsolid : first.Solid)
    (h : first.outcome stopping value = .ok outcome) :
    outcome = if (first.seen stopping).isEmpty then .success value
      else .failure (first.seen stopping) := by
  unfold Findings.outcome at h
  unfold seen
  cases hreports : first.reports with
  | nil =>
    rw [hreports] at h
    cases stopping <;> cases hfault : first.fault <;> simp_all
  | cons issues others =>
    have hne := hsolid issues (by simp [hreports])
    rw [hreports] at h
    cases stopping <;> cases hfault : first.fault <;> simp_all

/-! ## Findings that fit -/

/-- Two findings fit: as far as both go they have the same issues, and what comes to a result has
all of them. -/
structure Fits (stopping : Bool) (first second : Findings) : Prop where
  solid : first.Solid
  solid' : second.Solid
  all : first.Returns stopping → second.seen stopping <+: first.seen stopping
  all' : second.Returns stopping → first.seen stopping <+: second.seen stopping
  near : first.seen stopping <+: second.seen stopping ∨ second.seen stopping <+: first.seen stopping

namespace Fits

theorem refl (h : first.Solid) : first.Fits stopping first :=
  ⟨h, h, fun _ => List.prefix_refl _, fun _ => List.prefix_refl _, .inl (List.prefix_refl _)⟩

theorem symm (h : first.Fits stopping second) : second.Fits stopping first :=
  ⟨h.solid', h.solid, h.all', h.all, h.near.symm⟩

theorem broken (fault : Fault) (h : second.Solid) :
    (Findings.broken fault).Fits stopping second := by
  have hseen : (Findings.broken fault).seen stopping = [] := by cases stopping <;> rfl
  have hfails : ¬(Findings.broken fault).Returns stopping := by simp [Returns, Findings.broken]
  refine ⟨broken_solid fault, h, fun hreturns => (hfails hreturns).elim, fun _ => ?_, .inl ?_⟩
  · rw [hseen]
    exact List.nil_prefix
  · rw [hseen]
    exact List.nil_prefix

variable (h : first.Fits stopping second)

include h

/-- Where both come to a result, the issues are the same. -/
theorem seen_eq (hfirst : first.Returns stopping) (hsecond : second.Returns stopping) :
    first.seen stopping = second.seen stopping :=
  (h.all' hsecond).eq_of_length_le (h.all hfirst).length_le

/-- If one side goes on and the other does not, the other has broken off. -/
theorem not_returns (hgoes : first.GoesOn stopping) (hends : ¬second.GoesOn stopping) :
    ¬second.Returns stopping := by
  intro hreturns
  have hsame := h.seen_eq hgoes.returns hreturns
  refine hends ((goesOn_iff h.solid').2 ⟨hreturns, fun hstops => ?_⟩)
  rw [← hsame]
  exact ((goesOn_iff h.solid).1 hgoes).2 hstops

theorem andThen_ended (hgoes : first.GoesOn stopping) (hends : ¬second.GoesOn stopping)
    (hnext : first'.Solid) (hnext' : second'.Solid) :
    (first.andThen first').Fits stopping (second.andThen second') := by
  obtain ⟨hseen, -⟩ := andThen_of_goesOn hgoes first'
  obtain ⟨hseen', hreturns'⟩ := andThen_of_not_goesOn hends second'
  have hprefix :
      (second.andThen second').seen stopping <+: (first.andThen first').seen stopping := by
    rw [hseen, hseen']
    exact (h.all hgoes.returns).trans (List.prefix_append _ _)
  refine ⟨h.solid.andThen hnext, h.solid'.andThen hnext', fun _ => hprefix, fun hreturns => ?_,
    .inr hprefix⟩
  exact (h.not_returns hgoes hends (hreturns'.1 hreturns)).elim

theorem andThen (h' : first'.Fits stopping second') :
    (first.andThen first').Fits stopping (second.andThen second') := by
  by_cases hgoes : first.GoesOn stopping
  · by_cases hgoes' : second.GoesOn stopping
    · -- Both go on with the same issues, and differ only in what comes then.
      obtain ⟨hseen, hreturns⟩ := andThen_of_goesOn hgoes first'
      obtain ⟨hseen', hreturns'⟩ := andThen_of_goesOn hgoes' second'
      have hsame := h.seen_eq hgoes.returns hgoes'.returns
      refine ⟨h.solid.andThen h'.solid, h.solid'.andThen h'.solid', fun hfirst => ?_,
        fun hsecond => ?_, ?_⟩
      · rw [hseen, hseen', hsame, List.prefix_append_right_inj]
        exact h'.all (hreturns.1 hfirst)
      · rw [hseen, hseen', hsame, List.prefix_append_right_inj]
        exact h'.all' (hreturns'.1 hsecond)
      · rw [hseen, hseen', hsame, List.prefix_append_right_inj, List.prefix_append_right_inj]
        exact h'.near
    · exact h.andThen_ended hgoes hgoes' h'.solid h'.solid'
  · by_cases hgoes' : second.GoesOn stopping
    · exact (h.symm.andThen_ended hgoes' hgoes h'.solid' h'.solid).symm
    · obtain ⟨hseen, hreturns⟩ := andThen_of_not_goesOn hgoes first'
      obtain ⟨hseen', hreturns'⟩ := andThen_of_not_goesOn hgoes' second'
      refine ⟨h.solid.andThen h'.solid, h.solid'.andThen h'.solid', ?_, ?_, ?_⟩
      · rw [hseen, hseen', hreturns]
        exact h.all
      · rw [hseen, hseen', hreturns']
        exact h.all'
      · rw [hseen, hseen']
        exact h.near

theorem under (path : List PathToken) : (first.under path).Fits stopping (second.under path) := by
  refine ⟨h.solid.under path, h.solid'.under path, ?_, ?_, ?_⟩
  · rw [returns_under, seen_under, seen_under]
    exact fun hreturns => (h.all hreturns).map _
  · rw [returns_under, seen_under, seen_under]
    exact fun hreturns => (h.all' hreturns).map _
  · rw [seen_under, seen_under]
    exact h.near.imp (·.map _) (·.map _)

/-- A side that passes leaves nothing to report to the other. -/
theorem passes_of_passes (hfirst : first.verdict = .ok true) {passes : Bool}
    (hsecond : second.verdict = .ok passes) : passes = true := by
  unfold verdict at hfirst hsecond
  split at hfirst
  · cases hfirst
  · cases hfirst
  · rename_i hreports hfault
    have hnone : second.reports = [] := by
      have hprefix := h.all (.inl hfault)
      rw [(seen_eq_nil h.solid).2 hreports, List.prefix_nil] at hprefix
      exact (seen_eq_nil h.solid').1 hprefix
    simp only [hnone] at hsecond
    cases hfault' : second.fault with
    | some fault =>
      rw [hfault'] at hsecond
      cases hsecond
    | none =>
      rw [hfault'] at hsecond
      cases hsecond
      rfl

theorem accord : first.Accord second := by
  intro passes passes' hfirst hsecond
  cases passes with
  | true => exact (h.passes_of_passes hfirst hsecond).symm
  | false =>
    cases passes' with
    | false => rfl
    | true => cases h.symm.passes_of_passes hsecond hfirst

/-- Findings that a run sees no difference in, in place of those that come to a result. -/
theorem of_seen (hreturns : first.Returns stopping) (hsolid : first'.Solid)
    (hseen : first'.seen stopping = first.seen stopping) : first'.Fits stopping second := by
  refine ⟨hsolid, h.solid', fun _ => ?_, fun hsecond => ?_, ?_⟩
  · rw [hseen]
    exact h.all hreturns
  · rw [hseen]
    exact h.all' hsecond
  · rw [hseen]
    exact h.near

/-- A call hands over what its findings have been seen to say. -/
theorem call (value : Value) :
    (Findings.ofCall (first.outcome stopping value)).Fits stopping second := by
  cases houtcome : first.outcome stopping value with
  | error fault => exact .broken fault h.solid'
  | ok outcome =>
    have hreturns : first.Returns stopping := (returns_iff_outcome value).2 ⟨outcome, houtcome⟩
    rw [outcome_eq_of_seen h.solid houtcome]
    split
    · rename_i hempty
      refine h.of_seen hreturns (Plain.clear (p := fun _ => True)).solid ?_
      rw [List.isEmpty_iff.1 hempty]
      cases stopping <;> rfl
    · rename_i hsome
      refine h.of_seen hreturns (fun issues hmem hnil => ?_) ?_
      · cases List.mem_singleton.1 hmem
        exact hsome (List.isEmpty_iff.2 hnil)
      · generalize first.seen stopping = issues
        cases stopping <;> simp [seen, Findings.ofCall]

/-- Two results on findings that fit are the same. -/
theorem outcome_eq {value : Value} {outcome outcome' : Outcome}
    (hfirst : first.outcome stopping value = .ok outcome)
    (hsecond : second.outcome stopping value = .ok outcome') : outcome = outcome' := by
  have hsame := h.seen_eq ((returns_iff_outcome value).2 ⟨outcome, hfirst⟩)
    ((returns_iff_outcome value).2 ⟨outcome', hsecond⟩)
  rw [outcome_eq_of_seen h.solid hfirst, outcome_eq_of_seen h.solid' hsecond, hsame]

end Fits

theorem branchFindings_solid (kind : Combinator) (verdicts : List (Except Fault Bool)) :
    (branchFindings kind verdicts).Solid := by
  rcases branchFindings_cases (Code.allowed_true _) kind verdicts with ⟨fault, hbroken⟩ | hplain
  · rw [hbroken]
    exact broken_solid fault
  · exact hplain.solid

/-- Fitting survives the ways in which findings are put together. -/
theorem fits_closed (stopping : Bool) : Closed (Fits stopping) where
  plain h := .refl h.solid
  andThen := .andThen
  under path h := h.under path
  branches kind firsts seconds h := by
    rcases branchFindings_agree kind (h.imp fun _ _ hfits => hfits.accord) with
      ⟨fault, hbroken⟩ | ⟨fault, hbroken⟩ | ⟨hsame, hplain⟩
    · rw [hbroken]
      exact .broken fault (branchFindings_solid _ _)
    · rw [hbroken]
      exact (Fits.broken fault (branchFindings_solid _ _)).symm
    · rw [hsame]
      exact .refl hplain.solid

end Findings

open Findings

/-! ## References, called and expanded -/

section References

variable {place : Place} {validators : List Validator}

theorem refFindings_solid (hcompiled : place.Compiled validators) (abortEarly : Bool)
    (fuel depth : Nat) (ref : String) (value : Value) :
    (refFindings place (runAs .plain validators abortEarly fuel) depth ref value).Solid :=
  (clearRefs_decide (hcompiled.proper abortEarly fuel) depth ref value).solid

/-- The ways in which the findings of a reference to a node come about, where so many calls and
expansions may be inside each other: they break off, they are those of the node itself, or they are
handed over by a call. Inside there may be fewer calls, or as many calls and fewer expansions. -/
inductive Opened (place : Place) (validators : List Validator) (abortEarly : Bool)
    (fuel depth : Nat) (node : Node) (value : Value) : Findings → Prop where
  | broken (fault : Fault) :
      Opened place validators abortEarly fuel depth node value (.broken fault)
  | expanded {less : Nat} (h : less < depth) :
      Opened place validators abortEarly fuel depth node value
        (findings (refFindings place (runAs .plain validators abortEarly fuel) less) node value)
  | called {less inside : Nat} (h : less < fuel) :
      Opened place validators abortEarly fuel depth node value
        (.ofCall ((findings (refFindings place (runAs .plain validators abortEarly less) inside)
          node value).outcome abortEarly value))

theorem refFindings_opened (hemits : place.Emits validators) {ref : String}
    (hplain : Pointer.Unescaped ref) {node : Node} (hleads : leadsTo place.document ref = some node)
    (abortEarly : Bool) (fuel depth : Nat) (value : Value) :
    Opened place validators abortEarly fuel depth node value
      (refFindings place (runAs .plain validators abortEarly fuel) depth ref value) := by
  cases depth with
  | zero => exact .broken _
  | succ depth =>
    rw [refFindings]
    cases hname : place.registry.validatorName? ref with
    | none =>
      simp only [hleads]
      exact .expanded (Nat.lt_succ_self depth)
    | some name =>
      cases fuel with
      | zero => exact .broken _
      | succ fuel =>
        obtain ⟨found, hnode, hrun⟩ := hemits.run_eq hname
        rw [leadsTo_of_nodeOf hplain hnode] at hleads
        cases hleads
        simp only [hrun]
        exact .called (Nat.lt_succ_self fuel)

/-- A reference that leads nowhere has nothing to report. -/
theorem refFindings_nowhere (hemits : place.Emits validators) {ref : String}
    (hplain : Pointer.Unescaped ref) (hleads : leadsTo place.document ref = none)
    (abortEarly : Bool) (fuel depth : Nat) (value : Value) :
    (∃ fault, refFindings place (runAs .plain validators abortEarly fuel) depth ref value =
      .broken fault) ∨
      refFindings place (runAs .plain validators abortEarly fuel) depth ref value = .clear := by
  cases depth with
  | zero => exact .inl ⟨_, rfl⟩
  | succ depth =>
    rw [refFindings]
    cases hname : place.registry.validatorName? ref with
    | none =>
      refine .inr ?_
      simp only [hleads]
    | some name =>
      obtain ⟨node, hnode, -⟩ := hemits.run_eq hname
      rw [leadsTo_of_nodeOf hplain hnode] at hleads
      cases hleads

end References

section Agreement

variable {document : Json} {registry registry' : Registry} {validators validators' : List Validator}
  {abortEarly : Bool}

/-- The findings of all references fit, with so many calls and expansions on both sides. -/
def RefsFit (document : Json) (registry registry' : Registry)
    (validators validators' : List Validator) (abortEarly : Bool)
    (fuel fuel' depth depth' : Nat) : Prop :=
  ∀ ref ∈ Schema.refs document, ∀ value,
    (refFindings ⟨document, registry⟩ (runAs .plain validators abortEarly fuel) depth ref
      value).Fits abortEarly
      (refFindings ⟨document, registry'⟩ (runAs .plain validators' abortEarly fuel') depth' ref
        value)

theorem RefsFit.findings {fuel fuel' depth depth' : Nat}
    (h : RefsFit document registry registry' validators validators' abortEarly fuel fuel' depth
      depth') {node : Node} (hread : Schema.ReadFrom document node) (value : Value) :
    (findings (refFindings ⟨document, registry⟩ (runAs .plain validators abortEarly fuel) depth)
      node value).Fits abortEarly
      (findings (refFindings ⟨document, registry'⟩ (runAs .plain validators' abortEarly fuel')
        depth') node value) :=
  findings_related (fits_closed abortEarly) node value
    (fun target hdeferred => h target ((Node.asks_of_deferred hdeferred).mem_refs hread) value)
    fun target part hasks _ => h target (hasks.mem_refs hread) part

variable (hplain : ∀ ref ∈ Schema.refs document, Pointer.Unescaped ref)
  (hemits : Place.Emits ⟨document, registry⟩ validators)
  (hemits' : Place.Emits ⟨document, registry'⟩ validators')

include hplain hemits hemits'

/-- If the findings of a node fit wherever fewer calls, or as many and fewer expansions, may be made
on both sides together, the findings of references to it do. -/
theorem refFindings_fits {ref : String} (hmem : ref ∈ Schema.refs document) {value : Value}
    {fuel fuel' depth depth' : Nat}
    (hless : ∀ more more' less less', more + more' < fuel + fuel' ∨
      more + more' = fuel + fuel' ∧ less + less' < depth + depth' →
      RefsFit document registry registry' validators validators' abortEarly more more' less less') :
    (refFindings ⟨document, registry⟩ (runAs .plain validators abortEarly fuel) depth ref
      value).Fits abortEarly (refFindings ⟨document, registry'⟩
        (runAs .plain validators' abortEarly fuel') depth' ref value) := by
  have hsolid := refFindings_solid hemits.compiled abortEarly fuel depth ref value
  have hsolid' := refFindings_solid hemits'.compiled abortEarly fuel' depth' ref value
  cases hleads : leadsTo document ref with
  | none =>
    have hclear := refFindings_nowhere hemits (hplain ref hmem) hleads abortEarly fuel depth value
    have hclear' := refFindings_nowhere hemits' (hplain ref hmem) hleads abortEarly fuel' depth'
      value
    rcases hclear with ⟨fault, hbroken⟩ | hclear
    · rw [hbroken]
      exact .broken fault hsolid'
    · rcases hclear' with ⟨fault, hbroken⟩ | hclear'
      · rw [hbroken]
        exact (Fits.broken fault hsolid).symm
      · rw [hclear, hclear']
        exact .refl (Plain.clear (p := fun _ => True)).solid
  | some node =>
    have hread := leadsTo_readFrom hleads
    have hopened := refFindings_opened hemits (hplain ref hmem) hleads abortEarly fuel depth value
    have hopened' := refFindings_opened hemits' (hplain ref hmem) hleads abortEarly fuel' depth'
      value
    generalize refFindings ⟨document, registry⟩ (runAs .plain validators abortEarly fuel) depth ref
      value = found at hopened hsolid ⊢
    generalize refFindings ⟨document, registry'⟩ (runAs .plain validators' abortEarly fuel') depth'
      ref value = found' at hopened' hsolid' ⊢
    cases hopened with
    | broken fault => exact .broken fault hsolid'
    | @expanded less hlt =>
      cases hopened' with
      | broken fault => exact (Fits.broken fault hsolid).symm
      | @expanded less' hlt' =>
        exact (hless fuel fuel' less less' (.inr ⟨rfl, by omega⟩)).findings hread value
      | @called more' less' hlt' =>
        have hfits := (hless fuel more' less less' (.inl (by omega))).findings hread value
        exact (hfits.symm.call value).symm
    | @called more less hlt =>
      cases hopened' with
      | broken fault => exact (Fits.broken fault hsolid).symm
      | @expanded less' hlt' =>
        exact ((hless more fuel' less less' (.inl (by omega))).findings hread value).call value
      | @called more' less' hlt' =>
        have hfits := (hless more more' less less' (.inl (by omega))).findings hread value
        exact ((hfits.call value).symm.call value).symm

/-- **References fit, however they are answered.** -/
theorem refsFit (abortEarly : Bool) (fuel fuel' depth depth' : Nat) :
    RefsFit document registry registry' validators validators' abortEarly fuel fuel' depth
      depth' := by
  induction hcalls : fuel + fuel' using Nat.strongRecOn generalizing fuel fuel' depth depth' with
  | ind calls ihcalls =>
    induction hdepths : depth + depth' using Nat.strongRecOn
      generalizing fuel fuel' depth depth' with
    | ind depths ihdepths =>
      intro ref hmem value
      refine refFindings_fits hplain hemits hemits' hmem fun more more' less less' hlt => ?_
      rcases hlt with hlt | ⟨hsame, hlt⟩
      · exact ihcalls _ (by omega) more more' less less' rfl
      · exact ihdepths _ (by omega) more more' less less' (by omega) rfl

end Agreement

/-- **Calling and expanding references agree.** Validators of one pointer that were emitted with
different pointers named return the same, where both return. -/
theorem runs_agree {document : Json} {registry registry' : Registry}
    {validators validators' : List Validator}
    (hplain : ∀ ref ∈ Schema.refs document, Pointer.Unescaped ref)
    (hemits : Place.Emits ⟨document, registry⟩ validators)
    (hemits' : Place.Emits ⟨document, registry'⟩ validators') {pointer name name' : String}
    (hname : registry.validatorName? pointer = some name)
    (hname' : registry'.validatorName? pointer = some name') {abortEarly : Bool} {fuel fuel' : Nat}
    {value : Value} {outcome outcome' : Outcome}
    (hrun : runAs .plain validators abortEarly fuel name value = .ok outcome)
    (hrun' : runAs .plain validators' abortEarly fuel' name' value = .ok outcome') :
    outcome = outcome' := by
  obtain ⟨node, hnode, hfindings⟩ := hemits.run_eq hname
  obtain ⟨found, hfound, hfindings'⟩ := hemits'.run_eq hname'
  rw [hnode] at hfound
  cases hfound
  cases fuel with
  | zero => cases hrun
  | succ fuel =>
    cases fuel' with
    | zero => cases hrun'
    | succ fuel' =>
      rw [hfindings] at hrun
      rw [hfindings'] at hrun'
      have hfits := (refsFit hplain hemits hemits' abortEarly fuel fuel' (fuelFor document)
        (fuelFor document)).findings (Module.nodeOf_readFrom hnode) value
      exact hfits.outcome_eq hrun hrun'

/-- Names for lists of trees and for trees only. -/
def treeRegistry : Registry :=
  { Registry.empty with validators := [("#", "forest"), ("#/$defs/tree", "tree")] }

/-- Names for leaves and branches as well. -/
def fullRegistry : Registry :=
  { Registry.empty with validators := treeRegistry.validators ++
      [("#/$defs/leaf", "leaf"), ("#/$defs/branch", "branch")] }

/-- The theorem at a list of trees with a wrong leaf: whether leaves and branches are expanded or
called, the same is reported. -/
theorem runs_agree_forest :
    let validators := Place.emitted ⟨Module.forestSchema, treeRegistry⟩
    let validators' := Place.emitted ⟨Module.forestSchema, fullRegistry⟩
    (∀ ref ∈ Schema.refs Module.forestSchema, Pointer.Unescaped ref) ∧
      Place.Emits ⟨Module.forestSchema, treeRegistry⟩ validators ∧
      Place.Emits ⟨Module.forestSchema, fullRegistry⟩ validators' ∧
      ∃ outcome, outcome.isFailure = true ∧
        runAs .plain validators false 9 "forest" (Module.forest (.string "x")) = .ok outcome ∧
        runAs .plain validators' false 9 "forest" (Module.forest (.string "x")) = .ok outcome := by
  intro validators validators'
  have hplain : ∀ ref ∈ Schema.refs Module.forestSchema, Pointer.Unescaped ref := by decide +kernel
  have hemits : Place.Emits ⟨Module.forestSchema, treeRegistry⟩ validators :=
    Place.emits_of_emitted (by decide +kernel) (by decide +kernel)
  have hemits' : Place.Emits ⟨Module.forestSchema, fullRegistry⟩ validators' :=
    Place.emits_of_emitted (by decide +kernel) (by decide +kernel)
  have hruns : ((runAs .plain validators false 9 "forest"
      (Module.forest (.string "x"))).toOption.any fun outcome =>
        (runAs .plain validators' false 9 "forest"
          (Module.forest (.string "x"))).toOption.any fun _ => outcome.isFailure) = true := by
    decide +kernel
  obtain ⟨outcome, hrun, hruns⟩ := exists_ok_of_any hruns
  obtain ⟨outcome', hrun', hfails⟩ := exists_ok_of_any hruns
  have hname : treeRegistry.validatorName? "#" = some "forest" := rfl
  have hname' : fullRegistry.validatorName? "#" = some "forest" := rfl
  have hsame : outcome = outcome' := runs_agree hplain hemits hemits' hname hname' hrun hrun'
  exact ⟨hplain, hemits, hemits', outcome, hfails, hrun, hsame ▸ hrun'⟩

end Check

end SchemaGuard
