import SchemaGuard.Proofs.Decision

/-!
# What constraints report

The findings about the type of a value and its constraints are the ground that all others are built
on: no reference can change them, they always come to their end, and each report is of one issue.
`Findings.Plain p` says so of findings, with a property of the issues. For each kind of constraint
there is one lemma, which asks of the property what it must to hold of the codes that the constraint
reports.
-/

namespace SchemaGuard

/-- The type whose constraints a primitive has. -/
def Primitive.base : Primitive → Check.TypeTest
  | string .. => .string
  | integer _ => .number
  | number _ => .number
  | boolean => .boolean
  | null => .null

namespace Check

/-- The types that a code is about a constraint of. -/
def Code.types : Code → List TypeTest
  | tooSmall => [.string, .number, .array, .object]
  | tooBig => [.string, .number, .array, .object]
  | invalidString => [.string]
  | notInteger => [.number]
  | notUnique => [.array]
  | _ => []

/-- A property holds of all issues of a code that are about the value as a whole. -/
def Code.Allowed (p : Issue → Prop) (code : Code) : Prop :=
  ∀ expected received, p (issueOf code expected received)

theorem Code.allowed_true (code : Code) : code.Allowed fun _ => True := fun _ _ => trivial

/-- There is some issue in every report. -/
def Findings.Solid (findings : Findings) : Prop := ∀ issues ∈ findings.reports, issues ≠ []

theorem Findings.broken_solid (fault : Fault) : (Findings.broken fault).Solid := by
  intro issues hmem
  cases hmem

theorem Findings.Decide.solid {findings : Findings} {p : Prop} (h : findings.Decide p) :
    findings.Solid := fun issues hmem => (h.refuted issues hmem).1

/-- Findings that come to their end, with one issue in every report, of which a property holds. -/
structure Findings.Plain (p : Issue → Prop) (findings : Findings) : Prop where
  ends : findings.fault = none
  single : ∀ issues ∈ findings.reports, ∃ issue, issues = [issue] ∧ p issue

namespace Findings.Plain

variable {p : Issue → Prop} {first second : Findings}

theorem solid (h : first.Plain p) : first.Solid := by
  intro issues hmem
  obtain ⟨issue, rfl, -⟩ := h.single issues hmem
  exact List.cons_ne_nil issue []

theorem clear : Findings.clear.Plain p := ⟨rfl, nofun⟩

theorem report {issue : Issue} (h : p issue) : (Findings.report issue).Plain p :=
  ⟨rfl, fun _ hmem => ⟨issue, List.mem_singleton.1 hmem, h⟩⟩

theorem when {condition : Bool} {issue : Issue} (h : p issue) :
    (Findings.when condition issue).Plain p := by
  cases condition with
  | true => exact report h
  | false => exact clear

theorem andThen (h : first.Plain p) (h' : second.Plain p) : (first.andThen second).Plain p := by
  simp only [Findings.andThen, h.ends]
  refine ⟨h'.ends, fun issues hmem => ?_⟩
  rcases List.mem_append.1 hmem with hmem | hmem
  · exact h.single issues hmem
  · exact h'.single issues hmem

theorem type {test : TypeTest} {typeName : String} {constraints : Value → Findings} {value : Value}
    (htype : Code.invalidType.Allowed p) (h : test.Holds value → (constraints value).Plain p) :
    (typeFindings test typeName constraints value).Plain p := by
  unfold typeFindings
  split
  · rename_i hholds
    exact h ((TypeTest.holds_iff value test).1 hholds)
  · exact report (htype _ _)

end Findings.Plain

open Findings

section Leaves

variable {p : Issue → Prop}

theorem boundFindings_plain {code : Code} (h : code.Allowed p) (comparison : Comparison)
    (expected : Count → String) (counted : Counted) (bound : Option Json) (count : Nat) :
    (boundFindings comparison code expected counted bound count).Plain p := by
  unfold boundFindings
  split
  · exact .when (h _ _)
  · exact .clear

theorem countFindings_plain (hsmall : Code.tooSmall.Allowed p) (hbig : Code.tooBig.Allowed p)
    (least most : Option Json) (atLeast atMost : Count → String) (counted : Counted)
    (count : Nat) : (countFindings least most atLeast atMost counted count).Plain p :=
  (boundFindings_plain hsmall ..).andThen (boundFindings_plain hbig ..)

theorem patternFindings_plain (h : Code.invalidString.Allowed p) (pattern : Option Json)
    (text : String) : (patternFindings pattern text).Plain p := by
  unfold patternFindings
  split
  · split
    · exact .when (h _ _)
    · exact .clear
  · exact .clear

theorem limit_plain {code : Code} (h : code.Allowed p) (keyword : Option Number)
    (comparison : Comparison) (sign : String) (value : Value) :
    (match keyword with
      | some bound => limitFindings code comparison sign bound value
      | none => clear).Plain p := by
  cases keyword with
  | none => exact .clear
  | some bound => exact .when (h _ _)

theorem plainLimit_plain {code : Code} (h : code.Allowed p) (keyword : Option Number)
    (isExclusive : Bool) (strict plain : Comparison) (strictSign plainSign : String)
    (value : Value) :
    (match keyword with
      | some bound => if isExclusive then limitFindings code strict strictSign bound value
          else limitFindings code plain plainSign bound value
      | none => clear).Plain p := by
  cases isExclusive with
  | true => exact limit_plain h keyword strict strictSign value
  | false => exact limit_plain h keyword plain plainSign value

theorem boundsFindings_plain (hsmall : Code.tooSmall.Allowed p) (hbig : Code.tooBig.Allowed p)
    (bounds : Bounds) (value : Value) : (boundsFindings bounds value).Plain p := by
  have hminimum := plainLimit_plain hsmall (number? bounds.minimum)
    (isTrue bounds.exclusiveMinimum) .le .lt ">" ">=" value
  have hleast := limit_plain hsmall (number? bounds.exclusiveMinimum) .le ">" value
  have hmaximum := plainLimit_plain hbig (number? bounds.maximum)
    (isTrue bounds.exclusiveMaximum) .ge .gt "<" "<=" value
  have hmost := limit_plain hbig (number? bounds.exclusiveMaximum) .ge "<" value
  exact ((hminimum.andThen hleast).andThen hmaximum).andThen hmost

/-- A primitive reports another type, or constraints of its own type where the value has it. -/
theorem primitiveFindings_plain {type : Primitive} {value : Value}
    (htype : Code.invalidType.Allowed p)
    (h : type.base.Holds value → ∀ code : Code, type.base ∈ code.types → code.Allowed p) :
    (primitiveFindings type value).Plain p := by
  cases type with
  | string minLength maxLength pattern =>
    refine .type htype fun hholds => ?_
    exact (countFindings_plain (h hholds _ (by simp [Primitive.base, Code.types]))
      (h hholds _ (by simp [Primitive.base, Code.types])) ..).andThen
        (patternFindings_plain (h hholds _ (by simp [Primitive.base, Code.types])) ..)
  | integer bounds =>
    simp only [primitiveFindings]
    refine .type htype fun hholds => ?_
    have hwhole : (wholeFindings value).Plain p :=
      .when (h hholds _ (by simp [Primitive.base, Code.types]) _ _)
    exact hwhole.andThen (boundsFindings_plain (h hholds _ (by simp [Primitive.base, Code.types]))
      (h hholds _ (by simp [Primitive.base, Code.types])) ..)
  | number bounds =>
    refine .type htype fun hholds => ?_
    exact boundsFindings_plain (h hholds _ (by simp [Primitive.base, Code.types]))
      (h hholds _ (by simp [Primitive.base, Code.types])) ..
  | boolean =>
    simp only [primitiveFindings]
    exact .type htype fun _ => .clear
  | null =>
    simp only [primitiveFindings]
    exact .type htype fun _ => .clear

theorem unionFindings_plain (htype : Code.invalidType.Allowed p) (types : List String)
    (value : Value) : (unionFindings types value).Plain p := by
  unfold unionFindings
  split
  · exact .clear
  · exact .when (htype _ _)

theorem arrayLimitFindings_plain (hsmall : Code.tooSmall.Allowed p) (hbig : Code.tooBig.Allowed p)
    (hunique : Code.notUnique.Allowed p) (limits : ArrayLimits) (value : Value) :
    (arrayLimitFindings limits value).Plain p := by
  refine (countFindings_plain hsmall hbig ..).andThen ?_
  unfold uniqueFindings
  split
  · exact .when (hunique _ _)
  · exact .clear

theorem tupleLengthFindings_plain (htype : Code.invalidType.Allowed p)
    (hsmall : Code.tooSmall.Allowed p) (count : Nat) (isClosed : Bool) (value : Value) :
    (tupleLengthFindings count isClosed value).Plain p := by
  unfold tupleLengthFindings
  dsimp only
  split
  · exact .when (htype _ _)
  · split
    · exact .clear
    · exact .when (hsmall _ _)

theorem objectLimitFindings_plain (hsmall : Code.tooSmall.Allowed p) (hbig : Code.tooBig.Allowed p)
    (limits : ObjectLimits) (value : Value) : (objectLimitFindings limits value).Plain p :=
  countFindings_plain hsmall hbig ..

/-- Branches break off where one of them does, or report at most that none fits. -/
theorem branchFindings_cases (h : Code.invalidType.Allowed p) (kind : Combinator)
    (verdicts : List (Except Fault Bool)) :
    (∃ fault, branchFindings kind verdicts = .broken fault) ∨
      (branchFindings kind verdicts).Plain p := by
  cases kind with
  | oneOf =>
    simp only [branchFindings]
    split
    · exact .inl ⟨_, rfl⟩
    · exact .inr (.when (h _ _))
  | anyOf | allOf =>
    simp only [branchFindings]
    split
    · exact .inl ⟨_, rfl⟩
    · exact .inr (.when (h _ _))

end Leaves

end Check

end SchemaGuard
