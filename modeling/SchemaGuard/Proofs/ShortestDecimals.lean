import Mathlib.Algebra.Order.Field.Power
import Mathlib.Algebra.Order.Field.Rat
import Mathlib.Tactic.FieldSimp
import Mathlib.Tactic.Linarith
import Mathlib.Tactic.Positivity
import Mathlib.Tactic.Ring
import SchemaGuard.Number.Shortest

/-!
# Shortest decimals are read back

Every ratio in the interval of a number is rounded to it (`nearest_of_holds`), and the shortest decimal
lies in the interval (`shortest_holds`).

For the first, the interval says in whole numbers how far the ratio is from the number (`Near`). The
binade of the ratio is the number's own or, just below a power of two, the one before it; in either the
ratio rounds to the code of the number (`code_of_near`). For the second, the interval is wider than the
grid of the decimals with seventeen digits (`interval_wide`), so one of the two grid points around the
number lies in it. Values of decimals are compared over the rationals.
-/

namespace SchemaGuard.Binary64

/-! ## Rounding -/

variable {numerator denominator : Nat}

/-- A whole number within half of a ratio is what the ratio is rounded to, if it is even in case of a
tie. -/
theorem roundHalfEven_eq {n : Nat} (hpos : 0 < denominator)
    (hlow : 2 * (n * denominator) ≤ 2 * numerator + denominator)
    (hhigh : 2 * numerator ≤ 2 * (n * denominator) + denominator)
    (hodd : n % 2 = 1 → 2 * (n * denominator) < 2 * numerator + denominator ∧
      2 * numerator < 2 * (n * denominator) + denominator) :
    roundHalfEven numerator denominator = n := by
  have hdivision := Nat.div_add_mod numerator denominator
  have hrest := Nat.mod_lt numerator hpos
  rw [roundHalfEven]
  generalize numerator / denominator = quotient at hdivision ⊢
  generalize numerator % denominator = rest at hdivision hrest ⊢
  rw [Nat.mul_comm] at hdivision
  have hle : quotient ≤ n := by
    by_contra hlt
    have hnext : (n + 1) * denominator ≤ quotient * denominator := Nat.mul_le_mul_right _ (by omega)
    rw [Nat.add_mul] at hnext
    omega
  have hge : n ≤ quotient + 1 := by
    by_contra hlt
    have hnext : (quotient + 2) * denominator ≤ n * denominator := Nat.mul_le_mul_right _ (by omega)
    rw [Nat.add_mul] at hnext
    omega
  rcases Nat.lt_or_ge quotient n with hlt | hsame
  · obtain rfl : n = quotient + 1 := by omega
    rw [Nat.add_mul] at hlow hhigh hodd
    rw [if_neg]
    simp only [Bool.or_eq_true, decide_eq_true_eq, Bool.and_eq_true, beq_iff_eq]
    omega
  · obtain rfl : n = quotient := by omega
    rw [if_pos]
    simp only [Bool.or_eq_true, decide_eq_true_eq, Bool.and_eq_true, beq_iff_eq]
    omega

/-- The binade of a size has fifty-three binary digits, of which the first is set above the lowest
binade. -/
theorem binade_bounds (n : Nat) :
    n < 2 * binadeSize * Nat.pow 2 (Nat.log2 n - 52) ∧
      (Nat.log2 n - 52 = 0 ∨ binadeSize * Nat.pow 2 (Nat.log2 n - 52) ≤ n) := by
  constructor
  · calc n < 2 ^ (Nat.log2 n + 1) := Nat.lt_log2_self
      _ ≤ 2 ^ (53 + (Nat.log2 n - 52)) := Nat.pow_le_pow_right (by decide) (by omega)
      _ = 2 * binadeSize * Nat.pow 2 (Nat.log2 n - 52) := Nat.pow_add 2 53 _
  · rcases Nat.eq_zero_or_pos (Nat.log2 n - 52) with hzero | hpos
    · exact .inl hzero
    · right
      have hn : n ≠ 0 := by
        rintro rfl
        simp at hpos
      calc binadeSize * Nat.pow 2 (Nat.log2 n - 52) = 2 ^ (52 + (Nat.log2 n - 52)) :=
            (Nat.pow_add 2 52 _).symm
        _ = 2 ^ Nat.log2 n := by rw [Nat.add_sub_cancel' (by omega)]
        _ ≤ n := Nat.log2_self_le hn

theorem pow_le_pow {low high : Nat} (h : low ≤ high) : Nat.pow 2 low ≤ Nat.pow 2 high :=
  Nat.pow_le_pow_right (by decide) h

theorem pow_succ_mul (n size : Nat) : Nat.pow 2 (n + 1) * size = 2 * (Nat.pow 2 n * size) := by
  rw [Nat.pow_eq, Nat.pow_eq, Nat.pow_succ]
  ring

section

variable {scaled denominator binade m : Nat}

/-- A ratio is `Near` the number with significand `m` in a binade: it is not more than half of the
spacing away from it, and less if `m` is odd; below a power of two the spacing is half as large. -/
structure Near (scaled denominator binade m : Nat) : Prop where
  below : 4 * (m * (Nat.pow 2 binade * denominator)) ≤ 4 * scaled + 2 * (Nat.pow 2 binade * denominator)
  power : m = binadeSize → binade ≠ 0 →
    4 * (m * (Nat.pow 2 binade * denominator)) ≤ 4 * scaled + Nat.pow 2 binade * denominator
  above : 4 * scaled ≤ 4 * (m * (Nat.pow 2 binade * denominator)) + 2 * (Nat.pow 2 binade * denominator)
  odd : m % 2 = 1 →
    4 * (m * (Nat.pow 2 binade * denominator)) < 4 * scaled + 2 * (Nat.pow 2 binade * denominator) ∧
      4 * scaled < 4 * (m * (Nat.pow 2 binade * denominator)) + 2 * (Nat.pow 2 binade * denominator)

variable (hpos : 0 < denominator) (hm : m < 2 * binadeSize) (hnormal : binade = 0 ∨ binadeSize ≤ m)
  (h : Near scaled denominator binade m)

include hpos hm hnormal h

/-- A number has the code of what is near to it. If the ratio lies in the binade below, the number is
the power of two between the two, and rounding up leads to it. -/
theorem code_of_near :
    (Nat.log2 (scaled / denominator) - 52) * binadeSize + roundHalfEven scaled
      (denominator * Nat.pow 2 (Nat.log2 (scaled / denominator) - 52)) = binade * binadeSize + m := by
  obtain ⟨hbelow, hpower, habove, hodd⟩ := h
  obtain ⟨hlt, hge⟩ := binade_bounds (scaled / denominator)
  generalize Nat.log2 (scaled / denominator) - 52 = found at hlt hge ⊢
  rw [Nat.div_lt_iff_lt_mul hpos] at hlt
  rw [Nat.le_div_iff_mul_le hpos] at hge
  have hstep : ∀ {low high : Nat}, low ≤ high →
      Nat.pow 2 low * denominator ≤ Nat.pow 2 high * denominator :=
    fun hle => Nat.mul_le_mul_right _ (pow_le_pow hle)
  rw [Nat.mul_assoc] at hlt hge
  simp only [binadeSize] at hm hnormal hpower hlt hge ⊢
  rcases Nat.lt_trichotomy found binade with hless | rfl | hmore
  · obtain ⟨lower, rfl⟩ : ∃ lower, binade = lower + 1 := ⟨binade - 1, by omega⟩
    have hlower := hstep (Nat.lt_succ_iff.1 hless)
    have hsize : 0 < Nat.pow 2 lower * denominator := Nat.mul_pos (Nat.pow_pos (by decide)) hpos
    simp only [pow_succ_mul] at hbelow hpower
    obtain rfl : m = 4503599627370496 := by
      by_contra hne
      have hnext : 4503599627370497 * (2 * (Nat.pow 2 lower * denominator)) ≤
          m * (2 * (Nat.pow 2 lower * denominator)) := Nat.mul_le_mul_right _ (by omega)
      omega
    have hnear := hpower rfl (by omega)
    obtain rfl : found = lower := by
      by_contra hne
      obtain ⟨lowest, rfl⟩ : ∃ lowest, lower = lowest + 1 := ⟨lower - 1, by omega⟩
      have hlowest := hstep (show found ≤ lowest by omega)
      have hhalf := pow_succ_mul lowest denominator
      omega
    rw [Nat.mul_comm denominator, roundHalfEven_eq (n := 9007199254740992) hsize]
    · ring
    · omega
    · omega
    · omega
  · have hsize : 0 < Nat.pow 2 found * denominator := Nat.mul_pos (Nat.pow_pos (by decide)) hpos
    rw [Nat.mul_comm denominator, roundHalfEven_eq (n := m) hsize]
    · omega
    · omega
    · omega
  · have hmem : m * (Nat.pow 2 binade * denominator) ≤
        9007199254740991 * (Nat.pow 2 binade * denominator) := Nat.mul_le_mul_right _ (by omega)
    have hmore' := hstep (show binade + 1 ≤ found from hmore)
    have hdouble := pow_succ_mul binade denominator
    have hsize : 0 < Nat.pow 2 binade * denominator := Nat.mul_pos (Nat.pow_pos (by decide)) hpos
    omega

end

/-! ## What is read as a number -/

/-- The whole number that a finite number is a multiple of a power of two by. -/
def significand (exponent : Fin 2047) (fraction : Fin binadeSize) : Nat :=
  if exponent.val = 0 then fraction.val else binadeSize + fraction.val

theorem magnitude_eq (exponent : Fin 2047) (fraction : Fin binadeSize) :
    magnitude exponent fraction = significand exponent fraction * Nat.pow 2 (exponent.val - 1) := by
  unfold magnitude significand
  split
  · rename_i hzero
    rw [hzero]
    exact (Nat.mul_one _).symm
  · rfl

theorem ofCode_eq (negative : Bool) (exponent : Fin 2047) (fraction : Fin binadeSize) :
    ofCode negative ((exponent.val - 1) * binadeSize + significand exponent fraction) =
      finite negative exponent fraction := by
  obtain ⟨exponent, hexponent⟩ := exponent
  obtain ⟨fraction, hfraction⟩ := fraction
  have hcode : (exponent - 1) * binadeSize + significand ⟨exponent, hexponent⟩ ⟨fraction, hfraction⟩ =
      binadeSize * exponent + fraction := by
    simp only [significand, binadeSize]
    split <;> omega
  have hlt : binadeSize * exponent + fraction < 2047 * binadeSize := by
    simp only [binadeSize] at hfraction ⊢
    omega
  rw [hcode, ofCode, dif_pos hlt]
  congr 2
  · rw [Nat.mul_add_div (by decide), Nat.div_eq_of_lt hfraction, Nat.add_zero]
  · rw [Nat.mul_add_mod, Nat.mod_eq_of_lt hfraction]

/-- Whether a size in quarter units belongs to an interval. -/
def Interval.Holds (around : Interval) (size : ℚ) : Prop :=
  if around.closed then around.low ≤ size ∧ size ≤ around.high
  else around.low < size ∧ size < around.high

variable {exponent : Fin 2047} {fraction : Fin binadeSize}

theorem Interval.has_iff (around : Interval) (hpos : 0 < denominator) :
    around.has numerator denominator = true ↔ around.Holds ((numerator : ℚ) / denominator) := by
  have hden : (0 : ℚ) < denominator := by exact_mod_cast hpos
  unfold Interval.Holds Interval.has
  split
  · rw [le_div_iff₀ hden, div_le_iff₀ hden]
    norm_cast
    simp
  · rw [lt_div_iff₀ hden, div_lt_iff₀ hden]
    norm_cast
    simp

theorem significand_mod_two (exponent : Fin 2047) (fraction : Fin binadeSize) :
    significand exponent fraction % 2 = fraction.val % 2 := by
  simp only [significand, binadeSize]
  split <;> omega

theorem near_of_holds (hpos : 0 < denominator)
    (h : (interval exponent fraction).Holds (numerator / denominator * (4 * unitsPerOne))) :
    Near (numerator * unitsPerOne) denominator (exponent.val - 1) (significand exponent fraction) := by
  have hscale : (numerator / denominator * (4 * unitsPerOne) : ℚ) =
      ((4 * (numerator * unitsPerOne) : Nat) : ℚ) / denominator := by
    push_cast
    ring
  rw [hscale, ← Interval.has_iff _ hpos, Interval.has] at h
  have hparity := significand_mod_two exponent fraction
  have hpower : significand exponent fraction = binadeSize → exponent.val - 1 ≠ 0 →
      fraction.val = 0 ∧ exponent.val ≥ 2 := by
    intro hsame hbinade
    simp only [significand] at hsame
    split at hsame <;> omega
  simp only [interval, magnitude_eq, Nat.sub_mul, Nat.add_mul, Nat.mul_assoc, ite_mul, beq_iff_eq,
    Bool.and_eq_true, decide_eq_true_eq] at h
  generalize significand exponent fraction = m at *
  generalize numerator * unitsPerOne = scaled at *
  generalize hunit : Nat.pow 2 (exponent.val - 1) * denominator = unit at *
  generalize hcenter : m * unit = center at *
  have hbounds : 4 * center ≤ 4 * scaled + 2 * unit ∧ 4 * scaled ≤ 4 * center + 2 * unit ∧
      (fraction.val = 0 ∧ exponent.val ≥ 2 → 4 * center ≤ 4 * scaled + unit) ∧
      (m % 2 = 1 → 4 * center < 4 * scaled + 2 * unit ∧ 4 * scaled < 4 * center + 2 * unit) := by
    split at h <;> split at h <;> simp only [Bool.and_eq_true, decide_eq_true_eq] at h <;> omega
  obtain ⟨hbelow, habove, hless, hodd⟩ := hbounds
  refine ⟨?_, ?_, ?_, ?_⟩ <;> rw [hunit, hcenter]
  · exact hbelow
  · exact fun hsame hbinade => hless (hpower hsame hbinade)
  · exact habove
  · exact hodd

theorem significand_lt (exponent : Fin 2047) (fraction : Fin binadeSize) :
    significand exponent fraction < 2 * binadeSize := by
  have hfraction := fraction.isLt
  unfold significand
  split <;> omega

/-- Every ratio in the interval of a number is rounded to it. -/
theorem nearest_of_holds (negative : Bool) (hpos : 0 < denominator)
    (h : (interval exponent fraction).Holds (numerator / denominator * (4 * unitsPerOne))) :
    nearest negative numerator denominator = finite negative exponent fraction := by
  have hnormal : exponent.val - 1 = 0 ∨ binadeSize ≤ significand exponent fraction := by
    unfold significand
    split <;> omega
  have hcode := code_of_near hpos (significand_lt exponent fraction) hnormal (near_of_holds hpos h)
  rw [nearest]
  exact (congrArg (ofCode negative) hcode).trans (ofCode_eq negative exponent fraction)

/-! ## Decimals -/

/-- The value of a decimal. -/
def Decimal.value (decimal : Decimal) : ℚ := decimal.digits * 10 ^ decimal.exponent

/-- Zeros at the end of the digits can be traded for the exponent. -/
theorem value_shift (digits zeros : Nat) (exponent : Int) :
    Decimal.value ⟨digits * Nat.pow 10 zeros, exponent - zeros⟩ = Decimal.value ⟨digits, exponent⟩ := by
  simp only [Decimal.value, Nat.pow_eq]
  rw [zpow_sub₀ (by norm_num), zpow_natCast]
  push_cast
  field_simp

theorem cast_pow_ten (n : Nat) : ((Nat.pow 10 n : Nat) : ℚ) = 10 ^ (n : Int) := by
  rw [Nat.pow_eq, Nat.cast_pow, zpow_natCast]
  rfl

theorem zpow_eq_div (exponent : Int) : (10 : ℚ) ^ exponent =
    ((Nat.pow 10 exponent.toNat : Nat) : ℚ) / (Nat.pow 10 (-exponent).toNat : Nat) := by
  simp only [Nat.pow_eq]
  push_cast
  rcases le_total 0 exponent with hle | hle
  · rw [Int.toNat_of_nonpos (by omega : -exponent ≤ 0), pow_zero, div_one, ← zpow_natCast,
      Int.toNat_of_nonneg hle]
  · rw [Int.toNat_of_nonpos hle, pow_zero, ← zpow_natCast, Int.toNat_of_nonneg (by omega), zpow_neg,
      one_div, inv_inv]

/-- A number with some digits lies between two powers of ten. -/
theorem digitCount_bounds {n : Nat} (hpos : 0 < n) :
    (10 : ℚ) ^ ((digitCount n : Int) - 1) ≤ n ∧ (n : ℚ) < 10 ^ (digitCount n : Int) := by
  have hcount : 0 < digitCount n := Nat.length_toDigits_pos
  have hlt : n < 10 ^ digitCount n := (Nat.length_toDigits_le_iff (by decide) hcount).1 le_rfl
  have hle : 10 ^ (digitCount n - 1) ≤ n := by
    rcases Nat.eq_zero_or_pos (digitCount n - 1) with hone | hmore
    · rw [hone]
      exact hpos
    · by_contra hless
      have hshort := (Nat.length_toDigits_le_iff (b := 10) (n := n) (by decide) hmore).2
        (Nat.lt_of_not_le hless)
      have hsame : (Nat.toDigits 10 n).length = digitCount n := rfl
      omega
  constructor
  · rw [← Nat.cast_one, ← Nat.cast_sub hcount, zpow_natCast]
    exact_mod_cast hle
  · rw [zpow_natCast]
    exact_mod_cast hlt

theorem interval_low_pos (hpos : 0 < magnitude exponent fraction) :
    1 ≤ (interval exponent fraction).low := by
  have hspacing : Nat.pow 2 (exponent.val - 1) ≤ magnitude exponent fraction := by
    rw [magnitude_eq] at hpos ⊢
    exact Nat.le_mul_of_pos_left _ (Nat.pos_of_mul_pos_right hpos)
  have hpow : 0 < Nat.pow 2 (exponent.val - 1) := Nat.pow_pos (by decide)
  simp only [interval]
  split <;> omega

/-- What no finite number reaches, in quarter units. -/
def quarterBound : Nat := Nat.pow 2 2100

theorem interval_high_le (exponent : Fin 2047) (fraction : Fin binadeSize) :
    (interval exponent fraction).high ≤ quarterBound := by
  obtain ⟨last, hlast, hbound⟩ : ∃ last, last = 2045 ∧ quarterBound = 8 * binadeSize * Nat.pow 2 last :=
    ⟨2045, rfl, by decide +kernel⟩
  have hspacing := @pow_le_pow (exponent.val - 1) last (by omega)
  have hmagnitude : magnitude exponent fraction ≤
      (2 * binadeSize - 1) * Nat.pow 2 (exponent.val - 1) := by
    rw [magnitude_eq]
    exact Nat.mul_le_mul_right _ (Nat.le_sub_one_of_lt (significand_lt exponent fraction))
  rw [hbound]
  simp only [interval, binadeSize] at hmagnitude ⊢
  omega

section

variable {exponent : Fin 2047} {fraction : Fin binadeSize} (hpos : 0 < magnitude exponent fraction)
  {decimal : Decimal} (h : (interval exponent fraction).Holds (decimal.value * (4 * unitsPerOne)))

include hpos h

theorem Interval.Holds.bounds :
    1 ≤ decimal.value * (4 * unitsPerOne) ∧
      decimal.value * (4 * unitsPerOne) ≤ quarterBound := by
  have hlow : (1 : ℚ) ≤ (interval exponent fraction).low := by exact_mod_cast interval_low_pos hpos
  have hhigh : ((interval exponent fraction).high : ℚ) ≤ quarterBound :=
    Nat.cast_le.2 (interval_high_le exponent fraction)
  unfold Interval.Holds at h
  split at h
  · exact ⟨hlow.trans h.1, h.2.trans hhigh⟩
  · exact ⟨hlow.trans h.1.le, h.2.le.trans hhigh⟩

/-- A decimal in the interval of a number is well within the range that is looked at. -/
theorem Interval.Holds.order : 0 < decimal.digits ∧
    -330 ≤ digitCount decimal.digits + decimal.exponent ∧
      digitCount decimal.digits + decimal.exponent ≤ 330 := by
  obtain ⟨hlow, hhigh⟩ := h.bounds hpos
  have hdigits : 0 < decimal.digits := by
    rcases Nat.eq_zero_or_pos decimal.digits with hzero | hpos
    · rw [Decimal.value, hzero, Nat.cast_zero, zero_mul, zero_mul] at hlow
      exact absurd hlow (by norm_num)
    · exact hpos
  obtain ⟨hge, hlt⟩ := digitCount_bounds hdigits
  have hscale : (0 : ℚ) < 10 ^ decimal.exponent := by positivity
  have hunits : (0 : ℚ) < 4 * unitsPerOne := mul_pos (by norm_num) (Nat.cast_pos.2 (by decide +kernel))
  obtain ⟨least, greatest, hleast, hgreatest, hsmall, hlarge⟩ : ∃ least greatest : Nat,
      least = 331 ∧ greatest = 330 ∧ 4 * unitsPerOne ≤ Nat.pow 10 least ∧
        quarterBound < Nat.pow 10 greatest * (4 * unitsPerOne) :=
    ⟨331, 330, rfl, rfl, by decide +kernel, by decide +kernel⟩
  refine ⟨hdigits, ?_, ?_⟩
  · by_contra hless
    have hvalue : decimal.value < 10 ^ (-least : Int) :=
      calc decimal.value < 10 ^ (digitCount decimal.digits : Int) * 10 ^ decimal.exponent :=
            mul_lt_mul_of_pos_right hlt hscale
        _ = 10 ^ (digitCount decimal.digits + decimal.exponent) := (zpow_add₀ (by norm_num) _ _).symm
        _ ≤ 10 ^ (-least : Int) := zpow_le_zpow_right₀ (by norm_num) (by omega)
    have hproduct := mul_lt_mul_of_pos_right hvalue hunits
    rw [zpow_neg, ← cast_pow_ten, inv_mul_eq_div] at hproduct
    refine absurd (hlow.trans_lt hproduct) (not_lt.2 (div_le_one_of_le₀ ?_ (Nat.cast_nonneg _)))
    exact_mod_cast hsmall
  · by_contra hmore
    have hvalue : (10 : ℚ) ^ (greatest : Int) ≤ decimal.value :=
      calc (10 : ℚ) ^ (greatest : Int) ≤
            10 ^ ((digitCount decimal.digits : Int) - 1 + decimal.exponent) :=
            zpow_le_zpow_right₀ (by norm_num) (by omega)
        _ = 10 ^ ((digitCount decimal.digits : Int) - 1) * 10 ^ decimal.exponent :=
            zpow_add₀ (by norm_num) _ _
        _ ≤ decimal.value := mul_le_mul_of_nonneg_right hge hscale.le
    have hproduct := (mul_le_mul_of_nonneg_right hvalue hunits.le).trans hhigh
    rw [← cast_pow_ten] at hproduct
    refine absurd hproduct (not_le.2 ?_)
    exact_mod_cast hlarge

theorem ofDecimal_of_holds (negative : Bool) :
    ofDecimal negative decimal.digits decimal.exponent = finite negative exponent fraction := by
  obtain ⟨hdigits, hlow, hhigh⟩ := h.order hpos
  have hvalue : decimal.value = ((decimal.digits * Nat.pow 10 decimal.exponent.toNat : Nat) : ℚ) /
      (Nat.pow 10 (-decimal.exponent).toNat : Nat) := by
    rw [Decimal.value, zpow_eq_div, Nat.cast_mul, mul_div_assoc]
  rw [hvalue] at h
  have hnearest := nearest_of_holds negative (Nat.pow_pos (by decide)) h
  rw [ofDecimal, if_neg (by simp; omega), if_neg (by omega)]
  split
  · rename_i hnegative
    have hsize : decimal.exponent.natAbs = (-decimal.exponent).toNat := by omega
    rw [Int.toNat_of_nonpos (by omega)] at hnearest
    rw [← hnearest, hsize]
    exact congrArg (nearest negative · _) (Nat.mul_one _).symm
  · rename_i hnonnegative
    have hsize : decimal.exponent.natAbs = decimal.exponent.toNat := by omega
    rw [Int.toNat_of_nonpos (by omega : -decimal.exponent ≤ 0)] at hnearest
    rw [← hnearest, hsize]

end

/-! ## Finding a decimal -/

/-- The sizes that are compared on the grid of the decimals with a last digit. -/
theorem value_grid (n : Nat) (last : Int) : Decimal.value ⟨n, last⟩ * (4 * unitsPerOne) =
    ((n * (Nat.pow 10 last.toNat * (4 * unitsPerOne)) : Nat) : ℚ) / (Nat.pow 10 (-last).toNat : Nat) := by
  rw [Decimal.value, zpow_eq_div]
  push_cast
  ring

theorem pick_holds {around : Interval} {last : Int} {decimal : Decimal}
    (h : around.pick last = some decimal) : around.Holds (decimal.value * (4 * unitsPerOne)) := by
  have hgrid : ∀ {n : Nat},
      around.has (n * (Nat.pow 10 last.toNat * (4 * unitsPerOne))) (Nat.pow 10 (-last).toNat) = true →
        around.Holds (Decimal.value ⟨n, last⟩ * (4 * unitsPerOne)) := by
    intro n hn
    rw [value_grid]
    exact (around.has_iff (Nat.pow_pos (by decide))).1 hn
  simp only [Interval.pick] at h
  generalize around.center * Nat.pow 10 (-last).toNat / (Nat.pow 10 last.toNat * (4 * unitsPerOne)) =
    lower at h
  cases hlower : around.has (lower * (Nat.pow 10 last.toNat * (4 * unitsPerOne)))
    (Nat.pow 10 (-last).toNat) <;>
  cases hupper : around.has ((lower + 1) * (Nat.pow 10 last.toNat * (4 * unitsPerOne)))
    (Nat.pow 10 (-last).toNat) <;>
  simp only [hlower, hupper, Option.some.injEq, reduceCtorEq] at h
  · cases h
    exact hgrid hupper
  · cases h
    exact hgrid hlower
  · cases h
    split
    · exact hgrid hlower
    · exact hgrid hupper

/-- If the grid is finer than the interval is wide, one of the two decimals around the center lies in
the interval. -/
theorem pick_ne_none {around : Interval} {last : Int} (hlow : around.low ≤ around.center)
    (hhigh : around.center < around.high)
    (hnarrow : Nat.pow 10 last.toNat * (4 * unitsPerOne) + around.low * Nat.pow 10 (-last).toNat <
      around.high * Nat.pow 10 (-last).toNat) : around.pick last ≠ none := by
  have hpos : 0 < Nat.pow 10 last.toNat * (4 * unitsPerOne) :=
    Nat.mul_pos (Nat.pow_pos (by decide)) (by decide +kernel)
  have hfiner : 0 < Nat.pow 10 (-last).toNat := Nat.pow_pos (by decide)
  have hlow' := Nat.mul_le_mul_right (Nat.pow 10 (-last).toNat) hlow
  have hhigh' := Nat.mul_lt_mul_of_pos_right hhigh hfiner
  simp only [Interval.pick]
  generalize Nat.pow 10 last.toNat * (4 * unitsPerOne) = step at *
  generalize Nat.pow 10 (-last).toNat = finer at *
  have hbelow := Nat.div_mul_le_self (around.center * finer) step
  have habove := Nat.lt_div_mul_add (a := around.center * finer) hpos
  generalize around.center * finer / step = lower at *
  have hone : around.has (lower * step) finer = true ∨ around.has ((lower + 1) * step) finer = true := by
    rw [Nat.add_mul, Nat.one_mul, Interval.has, Interval.has]
    split <;> simp only [Bool.and_eq_true, decide_eq_true_eq] <;> omega
  rcases hone with hlower | hupper
  · rw [hlower]
    cases around.has ((lower + 1) * step) finer <;> simp
  · rw [hupper]
    cases around.has (lower * step) finer <;> simp

theorem zpow_leadingExponent_le (hpos : 0 < magnitude exponent fraction) :
    (10 : ℚ) ^ leadingExponent exponent fraction * unitsPerOne ≤ magnitude exponent fraction := by
  obtain ⟨places, hplaces, hunits⟩ : ∃ places : Nat, places = 400 ∧ unitsPerOne ≤ Nat.pow 10 places :=
    ⟨400, rfl, by decide +kernel⟩
  have hone : 0 < unitsPerOne := by decide +kernel
  rw [leadingExponent, ← hplaces]
  have hsize : 0 < magnitude exponent fraction * Nat.pow 10 places / unitsPerOne :=
    Nat.div_pos (hunits.trans (Nat.le_mul_of_pos_left _ hpos)) hone
  obtain ⟨hle, -⟩ := digitCount_bounds hsize
  have hdivision := Nat.div_mul_le_self (magnitude exponent fraction * Nat.pow 10 places) unitsPerOne
  generalize magnitude exponent fraction * Nat.pow 10 places / unitsPerOne = shifted at *
  have hscaled : (shifted * unitsPerOne : ℚ) ≤ magnitude exponent fraction * 10 ^ (places : Int) := by
    rw [← cast_pow_ten]
    exact_mod_cast hdivision
  calc (10 : ℚ) ^ ((digitCount shifted : Int) - 401) * unitsPerOne
      = 10 ^ ((digitCount shifted : Int) - 1) * unitsPerOne / 10 ^ (places : Int) := by
        rw [← div_mul_eq_mul_div, ← zpow_sub₀ (by norm_num)]
        congr 2
        omega
    _ ≤ shifted * unitsPerOne / 10 ^ (places : Int) :=
        div_le_div_of_nonneg_right (mul_le_mul_of_nonneg_right hle (Nat.cast_nonneg _)) (by positivity)
    _ ≤ magnitude exponent fraction * 10 ^ (places : Int) / 10 ^ (places : Int) :=
        div_le_div_of_nonneg_right hscaled (by positivity)
    _ = magnitude exponent fraction := mul_div_cancel_right₀ _ (by positivity)

theorem interval_wide (exponent : Fin 2047) (fraction : Fin binadeSize) :
    4 * magnitude exponent fraction + (interval exponent fraction).low * 10000000000000000 <
      (interval exponent fraction).high * 10000000000000000 := by
  have hlt := significand_lt exponent fraction
  have hspacing : 0 < Nat.pow 2 (exponent.val - 1) := Nat.pow_pos (by decide)
  simp only [interval, magnitude_eq, binadeSize, Bool.and_eq_true, decide_eq_true_eq] at *
  generalize Nat.pow 2 (exponent.val - 1) = spacing at *
  split
  · rename_i hpower
    have hsame : significand exponent fraction = 4503599627370496 := by
      rw [significand, if_neg (by omega), hpower.1]
    rw [hsame]
    omega
  · have hmagnitude : significand exponent fraction * spacing ≤ 9007199254740991 * spacing :=
      Nat.mul_le_mul_right _ (by omega)
    omega

theorem pick_seventeen (hpos : 0 < magnitude exponent fraction) :
    (interval exponent fraction).pick (leadingExponent exponent fraction - 16) ≠ none := by
  have hspacing : 0 < Nat.pow 2 (exponent.val - 1) := Nat.pow_pos (by decide)
  refine pick_ne_none (Nat.sub_le _ _) (Nat.lt_add_of_pos_right (by omega)) ?_
  have hleading := zpow_leadingExponent_le hpos
  have hwide : (4 * magnitude exponent fraction + (interval exponent fraction).low * 10 ^ (16 : Int) : ℚ) <
      (interval exponent fraction).high * 10 ^ (16 : Int) := by
    exact_mod_cast interval_wide exponent fraction
  have hstep : (10 : ℚ) ^ (leadingExponent exponent fraction - 16) * (4 * unitsPerOne) +
      (interval exponent fraction).low < (interval exponent fraction).high := by
    rw [zpow_sub₀ (by norm_num)]
    have hten : (0 : ℚ) < 10 ^ (16 : Int) := by positivity
    rw [div_mul_eq_mul_div, div_add' _ _ _ hten.ne', div_lt_iff₀ hten]
    linarith
  have hfiner : (0 : ℚ) < (Nat.pow 10 (-(leadingExponent exponent fraction - 16)).toNat : Nat) :=
    Nat.cast_pos.2 (Nat.pow_pos (by decide))
  rw [zpow_eq_div, div_mul_eq_mul_div, div_add' _ _ _ hfiner.ne', div_lt_iff₀ hfiner] at hstep
  exact_mod_cast hstep

/-- **The shortest decimal of a positive number lies in its interval.** Seventeen digits are enough. -/
theorem shortest_holds (hpos : 0 < magnitude exponent fraction) :
    (interval exponent fraction).Holds ((shortest exponent fraction).value * (4 * unitsPerOne)) := by
  have hsome : ((List.range 17).map fun extra => (interval exponent fraction).pick
      (leadingExponent exponent fraction - (extra : Nat))).findSome? id ≠ none := by
    intro hnone
    rw [List.findSome?_eq_none_iff] at hnone
    exact pick_seventeen hpos (hnone _ (List.mem_map.2 ⟨16, by decide, rfl⟩))
  obtain ⟨decimal, hdecimal⟩ := Option.ne_none_iff_exists'.1 hsome
  obtain ⟨_, hmem, htry⟩ := List.exists_of_findSome?_eq_some hdecimal
  obtain ⟨extra, -, rfl⟩ := List.mem_map.1 hmem
  rw [shortest, hdecimal]
  exact pick_holds htry

end SchemaGuard.Binary64
