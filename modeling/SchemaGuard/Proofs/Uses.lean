import SchemaGuard.Proofs.Emitted

/-!
# What checks use

The checks of a validator use other validators, which they call, and pattern matching. `usesAll`
lists what they use. **Theorem (`Emitted.called`, `Emitted.patterns`).** While checks are compiled,
account is kept of it: whatever is called has a registered name, and the compiler asks for pattern
matching exactly if some check that is left in the end matches a pattern. No check is dropped after
it was compiled, which is the only way in which the account could go wrong.
-/

namespace SchemaGuard.Check

/-- Something outside of a validator that its checks use. -/
inductive Use where
  | call (validator : String)
  | pattern
deriving DecidableEq

def Test.uses : Test → List Use
  | .noMatch _ _ => [.pattern]
  | _ => []

mutual

def Stmt.uses : Stmt → List Use
  | .ifElse test body orelse => test.uses ++ usesAll body ++ usesAll orelse
  | .forItems _ _ _ _ body => usesAll body
  | .forKeys _ _ body => usesAll body
  | .branch _ body => usesAll body
  | .call _ validator _ => [.call validator]
  | .report .. | .abort .. | .takeOver .. | .countMatches .. => []

/-- What checks use. -/
def usesAll : List Stmt → List Use
  | [] => []
  | check :: checks => check.uses ++ usesAll checks

end

variable {place : Place} {inBranch : Bool} {known : List Local} {s s' : Progress}
  {checks : List Stmt}

theorem Test.pattern_mem_uses {test : Test} : .pattern ∈ test.uses ↔ test.isMatch = true := by
  cases test <;> simp [uses, isMatch]

theorem Test.call_notMem_uses (test : Test) (validator : String) :
    .call validator ∉ test.uses := by
  cases test <;> simp [uses]

/-- What emitted checks call is registered. -/
theorem Emitted.called (h : Emitted place inBranch known s checks s') {validator : String}
    (hmem : .call validator ∈ usesAll checks) :
    ∃ pointer, place.registry.validatorName? pointer = some validator := by
  induction h with
  | done => cases hmem
  | report _ _ ih | takeOver _ _ ih | countMatches _ _ _ ih => exact ih hmem
  | ifElse _ _ _ _ _ ihbody ihorelse ih =>
    simp only [usesAll, Stmt.uses, List.mem_append, Test.call_notMem_uses, false_or] at hmem
    exact hmem.elim (fun h => h.elim ihbody ihorelse) ih
  | forItems _ _ _ _ _ ihbody ih | forKeys _ _ _ _ ihbody ih | branch _ _ _ ihbody ih =>
    exact (List.mem_append.1 hmem).elim ihbody ih
  | call _ _ hname _ ih =>
    rcases List.mem_cons.1 hmem with heq | hmem
    · cases heq
      exact ⟨_, hname⟩
    · exact ih hmem

/-- The compiler asks for patterns if it did before or if a check matches one. -/
theorem Emitted.patterns (h : Emitted place inBranch known s checks s') :
    s'.needsPatterns = true ↔ s.needsPatterns = true ∨ .pattern ∈ usesAll checks := by
  induction h with
  | done hs => simp [hs.2, usesAll]
  | report _ _ ih => simpa [usesAll, Stmt.uses] using ih
  | takeOver _ _ ih => simpa [usesAll, Stmt.uses, Test.uses] using ih
  | ifElse hasks _ _ _ _ ihbody ihorelse ih =>
    rw [ih, ihorelse, ihbody, hasks.2]
    simp only [usesAll, Stmt.uses, List.mem_append, Test.pattern_mem_uses, Bool.or_eq_true, or_assoc]
  | forItems hindex hitem _ _ _ ihbody ih =>
    rw [ih, ihbody, hitem.2.2, hindex.2.2]
    simp only [usesAll, Stmt.uses, List.mem_append, or_assoc]
  | forKeys hkey _ _ _ ihbody ih =>
    rw [ih, ihbody, hkey.2.2]
    simp only [usesAll, Stmt.uses, List.mem_append, or_assoc]
  | call hresult _ _ _ ih => simp [ih, hresult.2.2, usesAll, Stmt.uses]
  | branch hname _ _ ihbody ih =>
    rw [ih, ihbody, hname.2.2]
    simp only [usesAll, Stmt.uses, List.mem_append, or_assoc]
  | countMatches hcount _ _ ih => simp [ih, hcount.2.2, usesAll, Stmt.uses]

end SchemaGuard.Check
