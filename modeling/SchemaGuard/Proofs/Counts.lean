import SchemaGuard.Check.Run

/-!
# Comparing whole numbers

Numbers are compared on a number line counted in the least positive floating-point unit. On whole
numbers this is the comparison of integers.
-/

namespace SchemaGuard

namespace Number

theorem unitsPerOne_pos : (0 : Int) < Binary64.unitsPerOne := by
  unfold Binary64.unitsPerOne
  generalize 1074 = exponent
  exact Int.natCast_pos.2 (Nat.pow_pos Nat.two_pos)

@[simp] theorem le_int (a b : Int) : Number.le (.int a) (.int b) = decide (a ≤ b) := by
  show decide (a * Binary64.unitsPerOne ≤ b * Binary64.unitsPerOne) = _
  rw [decide_eq_decide]
  exact ⟨fun h => Int.le_of_mul_le_mul_right h unitsPerOne_pos,
    fun h => Int.mul_le_mul_of_nonneg_right h (Int.le_of_lt unitsPerOne_pos)⟩

@[simp] theorem lt_int (a b : Int) : Number.lt (.int a) (.int b) = decide (a < b) := by
  show (!Number.le (.int b) (.int a)) = _
  rw [le_int, ← decide_not, decide_eq_decide]
  omega

@[simp] theorem same_int (a b : Int) : Number.same (.int a) (.int b) = decide (a = b) := by
  show (Place.point (a * Binary64.unitsPerOne) == .point (b * Binary64.unitsPerOne)) = _
  rw [Bool.eq_iff_iff, beq_iff_eq, decide_eq_true_iff, Place.point.injEq]
  exact ⟨fun h => Int.eq_of_mul_eq_mul_right (Int.ne_of_gt unitsPerOne_pos) h, fun h => by rw [h]⟩

end Number

end SchemaGuard
