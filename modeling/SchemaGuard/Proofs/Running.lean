import SchemaGuard.Module.Run
import SchemaGuard.Proofs.Gives

/-!
# Running statements and validators

Small facts about frames, about running lists of statements one after another and about finding
validators, for all that is proved about runs.
-/

namespace SchemaGuard.Check

theorem Frame.lookup_bind (frame : Frame) (name other : Local) (bound : Bound) :
    (frame.bind name bound).lookup other = if other = name then .ok bound
      else frame.lookup other := by
  unfold Frame.lookup Frame.bind
  by_cases h : other = name
  · subst h
    simp
  · have hne : (other == name) = false := by simpa using h
    simp [List.lookup_cons, hne, h]

section Statements

variable (names : Names) (call : Call) (abortEarly : Bool)

@[simp] theorem Flow.next_andThen (frame : Frame) (continuation : Frame → Except Fault Flow) :
    (Flow.next frame).andThen continuation = continuation frame := rfl

/-- Running a statement and then the others. -/
theorem runAll_cons (statement : Stmt) (statements : List Stmt) (frame : Frame) :
    runAll names call abortEarly (statement :: statements) frame =
      statement.run names call abortEarly frame >>=
        (·.andThen (runAll names call abortEarly statements)) := by
  rw [runAll]

theorem runAll_singleton (statement : Stmt) (frame : Frame) :
    runAll names call abortEarly [statement] frame = statement.run names call abortEarly frame := by
  rw [runAll_cons]
  rcases statement.run names call abortEarly frame with fault | _ | _ | _
  · rfl
  · rfl
  · rfl
  · rfl

/-- Running some statements and then the others. -/
theorem runAll_append (first second : List Stmt) (frame : Frame) :
    runAll names call abortEarly (first ++ second) frame =
      runAll names call abortEarly first frame >>=
        (·.andThen (runAll names call abortEarly second)) := by
  induction first generalizing frame with
  | nil => rfl
  | cons statement first ih =>
    rw [List.cons_append, runAll_cons, runAll_cons]
    rcases statement.run names call abortEarly frame with fault | next | _ | _
    · rfl
    · exact ih next
    · rfl
    · rfl

end Statements

/-- A validator that is found by a name has that name, up to normal forms. -/
theorem mem_of_validatorNamed? {validators : List Validator} {name : String} {validator : Validator}
    (h : validatorNamed? validators name = some validator) :
    validator ∈ validators ∧ Text.normalForm validator.name = Text.normalForm name := by
  obtain ⟨hmem, hname⟩ := List.mem_filter.1 (List.mem_of_getLast? h)
  exact ⟨hmem, eq_of_beq hname⟩

end SchemaGuard.Check

namespace SchemaGuard.Module

open Check

variable {module : Module}

theorem mapError_eq_ok {ε ε' α : Type} {f : ε → ε'} {x : Except ε α} {a : α} :
    x.mapError f = .ok a ↔ x = .ok a := by
  constructor
  · intro h
    cases x with
    | error e => cases h
    | ok b =>
      cases h
      rfl
  · rintro rfl
    rfl

theorem functions_subset : module.functions ⊆ module.validators := List.filter_sublist.subset

/-- All validators are there if no type hides one. -/
theorem functions_eq
    (h : ∀ validator ∈ module.validators, module.typeNamed? validator.name = none) :
    module.functions = module.validators :=
  List.filter_eq_self.2 fun validator hmem => by rw [h validator hmem]; rfl

/-- A validator returns if the module can be loaded and what is called by its name returns. -/
theorem runValidator_eq_ok {name : String} {abortEarly : Bool} {value : Value} {outcome : Outcome} :
    module.runValidator name abortEarly value = .ok outcome ↔ module.load = .ok () ∧
      Check.validate module.names module.functions abortEarly name value = .ok outcome := by
  unfold runValidator
  constructor
  · intro h
    obtain ⟨_, hload, hrun⟩ := bind_eq_ok.1 h
    exact ⟨mapError_eq_ok.1 hload, mapError_eq_ok.1 hrun⟩
  · rintro ⟨hload, hrun⟩
    rw [hload, hrun]
    rfl

end SchemaGuard.Module
