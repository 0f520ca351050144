import SchemaGuard.Proofs.LiteralReader
import SchemaGuard.Proofs.Numerals
import SchemaGuard.Proofs.ShortestDecimals

/-!
# Numbers are read back

A number is read in parts: digits, a fraction after a point, an exponent (`number?_parts`). The text of
a decimal puts the point in one of four places and fills up with zeros, so what is read may have other
digits than the decimal, but it is a decimal of the same value (`number?_decimalText`). With what
`ShortestDecimals` says of the decimal that a floating-point number is written as, every number but
`nan` is read back (`exists_number?_eq`).
-/

namespace SchemaGuard.Literal.Reader

open Json.Reader (isAsciiDigit digitsValue fractionDigits exponentPart)

/-- What may follow a literal: nothing, or a character that ends it. -/
def Ends (rest : List Char) : Prop :=
  ∀ c, rest.head? = some c → c = ',' ∨ c = ']' ∨ c = '\x7d' ∨ c = ':'

/-! ## The parts of a number -/

variable {digits rest : List Char}

theorem digits_span (hdigits : ∀ c ∈ digits, isAsciiDigit c = true)
    (hrest : ∀ c, rest.head? = some c → isAsciiDigit c = false) :
    (digits ++ rest).takeWhile isAsciiDigit = digits ∧
      (digits ++ rest).dropWhile isAsciiDigit = rest := by
  rw [List.takeWhile_append_of_pos hdigits, List.dropWhile_append_of_pos hdigits]
  cases rest with
  | nil => simp
  | cons c rest => simp [hrest c rfl]

/-- A fraction with its point; a number without a fraction has no point. -/
def point (fraction : List Char) : List Char := if fraction.isEmpty then [] else '.' :: fraction

section

variable {fraction tail : List Char} (hfraction : ∀ c ∈ fraction, isAsciiDigit c = true)
  (htail : ∀ c, tail.head? = some c → isAsciiDigit c = false ∧ c ≠ '.')

include hfraction htail

theorem fractionDigits_point : fractionDigits (point fraction ++ tail) = fraction := by
  cases fraction with
  | nil =>
    cases tail with
    | nil => rfl
    | cons c tail =>
      have hpoint := (htail c rfl).2
      simp [point, fractionDigits, hpoint]
  | cons c fraction =>
    exact (digits_span hfraction fun c hc => (htail c hc).1).1

/-- The parts that a number is read as. -/
theorem number?_parts (negative : Bool) {whole : List Char} (hwhole : whole ≠ [])
    (hdigits : ∀ c ∈ whole, isAsciiDigit c = true) :
    number? negative (whole ++ (point fraction ++ tail)) =
      if fraction.isEmpty && (exponentPart tail).isNone then
        if whole.head? == some '0' && whole.length != 1 then none
        else some (.int (if negative then -(digitsValue whole : Int) else digitsValue whole), tail)
      else
        some (.float (Binary64.ofDecimal negative (digitsValue (whole ++ fraction))
          (((exponentPart tail).map (·.1)).getD 0 - fraction.length)),
          tail.drop (((exponentPart tail).map (·.2)).getD 0)) := by
  have hstart : ∀ c, (point fraction ++ tail).head? = some c → isAsciiDigit c = false := by
    intro c hc
    cases fraction with
    | nil => exact (htail c hc).1
    | cons first fraction =>
      obtain rfl : '.' = c := by simpa [point] using hc
      rfl
  obtain ⟨htake, hdrop⟩ := digits_span hdigits hstart
  have hafter : (if fraction.isEmpty then point fraction ++ tail
      else (point fraction ++ tail).drop (fraction.length + 1)) = tail := by
    cases fraction <;> simp [point]
  have hempty : whole.isEmpty = false := by simpa using hwhole
  simp only [number?, htake, hdrop, fractionDigits_point hfraction htail, hafter, hempty,
    Bool.false_eq_true, if_false]
  cases fraction with
  | nil => rfl
  | cons c fraction => rfl

end

theorem exponentPart_signed (hempty : digits ≠ []) (hdigits : ∀ c ∈ digits, isAsciiDigit c = true)
    (hrest : ∀ c, rest.head? = some c → isAsciiDigit c = false) (negative : Bool) :
    exponentPart ('e' :: (if negative then '-' else '+') :: (digits ++ rest)) =
      some (if negative then -(digitsValue digits : Int) else digitsValue digits, digits.length + 2) := by
  obtain ⟨htake, -⟩ := digits_span hdigits hrest
  cases negative <;> simp [exponentPart, htake, hempty] <;> omega

theorem Ends.start (h : Ends rest) :
    exponentPart rest = none ∧ ∀ c, rest.head? = some c → isAsciiDigit c = false ∧ c ≠ '.' := by
  cases rest with
  | nil => exact ⟨rfl, by simp⟩
  | cons c rest =>
    rcases h c rfl with rfl | rfl | rfl | rfl <;> exact ⟨rfl, by simp; rfl⟩

/-! ## Integers -/

variable {n : Nat} {c : Char}

theorem isAsciiDigit_of_mem_toDigits (h : c ∈ Nat.toDigits 10 n) : isAsciiDigit c = true := by
  have hdigit := Nat.isDigit_of_mem_toDigits (by decide) (by decide) h
  simp only [Char.isDigit, Bool.and_eq_true, decide_eq_true_eq] at hdigit
  simpa [isAsciiDigit, Char.le_def] using hdigit

theorem toDigits_ne_nil (n : Nat) : Nat.toDigits 10 n ≠ [] :=
  List.length_pos_iff.1 Nat.length_toDigits_pos

theorem digitsValue_toDigits (n : Nat) : digitsValue (Nat.toDigits 10 n) = n :=
  Nat.ofDigitChars_ten_toDigits

/-- The digits of a number begin with a zero only if it is zero. -/
theorem eq_zero_of_head? (h : (Nat.toDigits 10 n).head? = some '0') : n = 0 := by
  have hsmall : ∀ n < 10, Nat.digitChar n = '0' → n = 0 := by decide
  induction n using Nat.strongRecOn with
  | ind n ih =>
    rw [Nat.toDigits_eq_if (by decide)] at h
    split at h
    · rename_i hlt
      exact hsmall n hlt (by simpa using h)
    · rw [List.head?_append_of_ne_nil _ (toDigits_ne_nil _)] at h
      have hzero := ih (n / 10) (by omega) h
      omega

theorem number?_toDigits (negative : Bool) (n : Nat) (hrest : Ends rest) :
    number? negative (Nat.toDigits 10 n ++ rest) =
      some (.int (if negative then -(n : Int) else n), rest) := by
  have hnone : ∀ c ∈ ([] : List Char), isAsciiDigit c = true := by simp
  have hplain : ¬ ((Nat.toDigits 10 n).head? == some '0' && (Nat.toDigits 10 n).length != 1) = true := by
    simp only [Bool.and_eq_true, beq_iff_eq, bne_iff_ne, not_and, not_not]
    intro hhead
    rw [eq_zero_of_head? hhead]
    rfl
  have hparts := number?_parts hnone hrest.start.2 negative (toDigits_ne_nil n)
    fun c => isAsciiDigit_of_mem_toDigits
  rw [hrest.start.1, digitsValue_toDigits, if_neg hplain] at hparts
  exact hparts

/-! ## Decimals -/

/-- The digits of a positive number are those that are left without the zeros at the end, and these. -/
theorem toDigits_stripped (hpos : 0 < n) :
    ∃ digits zeros, ((Nat.toDigits 10 n).reverse.dropWhile (· == '0')).reverse = digits ∧
      Nat.toDigits 10 n = digits ++ List.replicate zeros '0' ∧ digits ≠ [] ∧
      (∀ c ∈ digits, isAsciiDigit c = true) ∧ n = digitsValue digits * Nat.pow 10 zeros := by
  have hsplit : Nat.toDigits 10 n = ((Nat.toDigits 10 n).reverse.dropWhile (· == '0')).reverse ++
      ((Nat.toDigits 10 n).reverse.takeWhile (· == '0')).reverse := by
    rw [← List.reverse_append, List.takeWhile_append_dropWhile, List.reverse_reverse]
  have hzeros : ((Nat.toDigits 10 n).reverse.takeWhile (· == '0')).reverse =
      List.replicate ((Nat.toDigits 10 n).reverse.takeWhile (· == '0')).length '0' := by
    refine List.eq_replicate_iff.2 ⟨List.length_reverse, fun c hc => ?_⟩
    simpa using List.all_eq_true.1 List.all_takeWhile c (List.mem_reverse.1 hc)
  rw [hzeros] at hsplit
  generalize ((Nat.toDigits 10 n).reverse.dropWhile (· == '0')).reverse = digits at *
  generalize ((Nat.toDigits 10 n).reverse.takeWhile (· == '0')).length = zeros at *
  have hvalue : n = digitsValue digits * Nat.pow 10 zeros := by
    calc n = digitsValue (digits ++ List.replicate zeros '0') := by
          rw [← hsplit, digitsValue_toDigits]
      _ = 10 ^ zeros * digitsValue digits :=
          (Nat.ofDigitChars_append 0).trans Nat.ofDigitChars_replicate_zero
      _ = digitsValue digits * Nat.pow 10 zeros := Nat.mul_comm _ _
  refine ⟨digits, zeros, rfl, hsplit, ?_, ?_, hvalue⟩
  · rintro rfl
    rw [hvalue] at hpos
    exact absurd hpos (by simp [digitsValue])
  · intro c hc
    exact isAsciiDigit_of_mem_toDigits (hsplit ▸ List.mem_append_left _ hc)

section

variable {whole fraction rest : List Char} (hwhole : whole ≠ [])
  (hdigits : ∀ c ∈ whole, isAsciiDigit c = true) (hfraction : ∀ c ∈ fraction, isAsciiDigit c = true)
  (hrest : Ends rest) (negative : Bool)

include hwhole hdigits hfraction hrest

theorem number?_fixed (hsome : fraction ≠ []) :
    number? negative (whole ++ '.' :: fraction ++ rest) =
      some (.float (Binary64.ofDecimal negative (digitsValue (whole ++ fraction)) (-fraction.length)),
        rest) := by
  have hparts := number?_parts hfraction hrest.start.2 negative hwhole hdigits
  have hpoint : point fraction = '.' :: fraction := if_neg (by simpa using hsome)
  rw [hrest.start.1, hpoint, if_neg (by simp [hsome])] at hparts
  rw [List.append_assoc]
  exact hparts.trans (by simp)

theorem number?_scientific {exponent : List Char} (hsome : exponent ≠ [])
    (hexponent : ∀ c ∈ exponent, isAsciiDigit c = true) (below : Bool) :
    number? negative
        (whole ++ point fraction ++ 'e' :: (if below then '-' else '+') :: exponent ++ rest) =
      some (.float (Binary64.ofDecimal negative (digitsValue (whole ++ fraction))
        ((if below then -(digitsValue exponent : Int) else digitsValue exponent) - fraction.length)),
        rest) := by
  have hpart := exponentPart_signed hsome hexponent (fun c hc => (hrest.start.2 c hc).1) below
  have htail : ∀ c, ('e' :: (if below then '-' else '+') :: (exponent ++ rest)).head? = some c →
      isAsciiDigit c = false ∧ c ≠ '.' := by
    intro c hc
    obtain rfl : 'e' = c := by simpa using hc
    decide
  have hparts := number?_parts hfraction htail negative hwhole hdigits
  simp only [hpart, Option.isNone_some, Bool.and_false, Bool.false_eq_true, if_false] at hparts
  simp only [List.append_assoc, List.cons_append]
  exact hparts.trans (by simp)

end

theorem point_drop_one (digits : List Char) :
    (if digits.length > 1 then '.' :: digits.drop 1 else []) = point (digits.drop 1) := by
  cases digits with
  | nil => rfl
  | cons first digits => cases digits <;> simp [point]

/-- The digits of an exponent, of which there are two at least. -/
theorem padded_digits (n : Nat) : ∃ exponent : List Char,
    (if (toString n).length < 2 then "0" ++ toString n else toString n).toList = exponent ∧
      exponent ≠ [] ∧ (∀ c ∈ exponent, isAsciiDigit c = true) ∧ digitsValue exponent = n := by
  have hchars : (toString n).toList = Nat.toDigits 10 n := Nat.toList_repr
  refine ⟨_, rfl, ?_⟩
  split
  · rw [String.toList_append, hchars]
    refine ⟨by simp, ?_, digitsValue_toDigits n⟩
    intro c hc
    rcases List.mem_append.1 hc with hzero | hdigit
    · obtain rfl : c = '0' := by simpa using hzero
      rfl
    · exact isAsciiDigit_of_mem_toDigits hdigit
  · rw [hchars]
    exact ⟨toDigits_ne_nil n, fun c => isAsciiDigit_of_mem_toDigits, digitsValue_toDigits n⟩

theorem isAsciiDigit_of_mem_replicate {count : Nat} (h : c ∈ List.replicate count '0') :
    isAsciiDigit c = true := by
  rw [List.eq_of_mem_replicate h]
  rfl

theorem digitsValue_append (first second : List Char) : digitsValue (first ++ second) =
    digitsValue first * Nat.pow 10 second.length + digitsValue second := by
  rw [Nat.mul_comm]
  exact (Nat.ofDigitChars_append 0).trans Nat.ofDigitChars_eq_ofDigitChars_zero

theorem digitsValue_replicate (count : Nat) : digitsValue (List.replicate count '0') = 0 :=
  Nat.ofDigitChars_replicate_zero

section

variable {digits rest : List Char} (hempty : digits ≠ [])
  (hdigits : ∀ c ∈ digits, isAsciiDigit c = true) (hrest : Ends rest) (negative : Bool) {scale : Int}

include hempty hdigits hrest

/-- One digit before the point, and an exponent. -/
theorem number?_oneDigit {leading : Int} (hleading : leading = digits.length - 1 + scale)
    {exponent : List Char} (hsome : exponent ≠ [])
    (hexponent : ∀ c ∈ exponent, isAsciiDigit c = true)
    (hsize : digitsValue exponent = leading.natAbs) :
    number? negative (digits.take 1 ++ point (digits.drop 1) ++
        'e' :: (if decide (leading < 0) then '-' else '+') :: exponent ++ rest) =
      some (.float (Binary64.ofDecimal negative (digitsValue digits) scale), rest) := by
  have hlength := List.length_pos_iff.2 hempty
  have hscale : (if decide (leading < 0) then -(digitsValue exponent : Int) else digitsValue exponent)
      - (digits.drop 1).length = scale := by
    rw [List.length_drop, hsize]
    split <;> rename_i hsign <;> simp only [decide_eq_true_eq] at hsign <;> omega
  rw [number?_scientific (by simpa using hempty) (fun c hc => hdigits c (List.mem_of_mem_take hc))
    (fun c hc => hdigits c (List.mem_of_mem_drop hc)) hrest negative hsome hexponent, hscale,
    List.take_append_drop]

/-- Zeros between the point and the digits. -/
theorem number?_afterZeros (zeros : Nat) (hscale : scale = -(zeros + digits.length : Nat)) :
    number? negative (['0'] ++ '.' :: (List.replicate zeros '0' ++ digits) ++ rest) =
      some (.float (Binary64.ofDecimal negative (digitsValue digits) scale), rest) := by
  have hzeros : digitsValue (['0'] ++ (List.replicate zeros '0' ++ digits)) = digitsValue digits := by
    rw [digitsValue_append, digitsValue_append, digitsValue_replicate]
    simp [digitsValue]
  rw [number?_fixed (by simp) (by simp; rfl) (fun c hc => (List.mem_append.1 hc).elim
    isAsciiDigit_of_mem_replicate (hdigits c)) hrest negative (by simp [hempty]), hzeros, hscale,
    List.length_append, List.length_replicate]

/-- The point among the digits. -/
theorem number?_among {whole : Nat} (hpos : 0 < whole) (hwhole : whole < digits.length)
    (hscale : scale = whole - digits.length) :
    number? negative (digits.take whole ++ '.' :: digits.drop whole ++ rest) =
      some (.float (Binary64.ofDecimal negative (digitsValue digits) scale), rest) := by
  have hlength : scale = -((digits.drop whole).length : Int) := by
    rw [List.length_drop]
    omega
  rw [number?_fixed (by simp [hempty]; omega) (fun c hc => hdigits c (List.mem_of_mem_take hc))
    (fun c hc => hdigits c (List.mem_of_mem_drop hc)) hrest negative (by simpa using hwhole), ← hlength,
    List.take_append_drop]

/-- Zeros between the digits and the point. -/
theorem number?_beforeZeros (zeros : Nat) :
    number? negative (digits ++ List.replicate zeros '0' ++ '.' :: List.replicate 1 '0' ++ rest) =
      some (.float (Binary64.ofDecimal negative (digitsValue digits * Nat.pow 10 (zeros + 1)) (-1)),
        rest) := by
  have hzeros : digitsValue (digits ++ List.replicate zeros '0' ++ List.replicate 1 '0') =
      digitsValue digits * Nat.pow 10 (zeros + 1) := by
    rw [List.append_assoc, List.replicate_append_replicate, digitsValue_append,
      digitsValue_replicate, List.length_replicate, Nat.add_zero]
  rw [number?_fixed (by simp [hempty])
    (fun c hc => (List.mem_append.1 hc).elim (hdigits c) isAsciiDigit_of_mem_replicate)
    (fun c => isAsciiDigit_of_mem_replicate) hrest negative (by simp), hzeros]
  rfl

end

/-- **The text of a decimal is read as a decimal of the same value.** The digits without the zeros at
the end stand before, around or behind the point, and other zeros only fill up the places between. -/
theorem number?_decimalText (negative : Bool) {decimal : Binary64.Decimal}
    (hpos : 0 < decimal.digits) (hrest : Ends rest) :
    ∃ found : Binary64.Decimal, found.value = decimal.value ∧
      number? negative ((Number.decimalText decimal).toList ++ rest) =
        some (.float (Binary64.ofDecimal negative found.digits found.exponent), rest) := by
  obtain ⟨digits, zeros, hstripped, hsplit, hempty, hdigits, hvalue⟩ := toDigits_stripped hpos
  have hcount : Binary64.digitCount decimal.digits = digits.length + zeros := by
    rw [Binary64.digitCount, hsplit, List.length_append, List.length_replicate]
  have hlength : 0 < digits.length := List.length_pos_iff.2 hempty
  have hsame : ∀ more : Nat, Binary64.Decimal.value
      ⟨digitsValue digits * Nat.pow 10 more, decimal.exponent + zeros - more⟩ = decimal.value := by
    intro more
    rw [Binary64.value_shift, ← Binary64.value_shift _ zeros, add_sub_cancel_right, ← hvalue]
  have hplain : Binary64.Decimal.value ⟨digitsValue digits, decimal.exponent + zeros⟩ =
      decimal.value := by simpa using hsame 0
  unfold Number.decimalText
  simp only [hstripped, hcount]
  generalize hleading : ((digits.length + zeros : Nat) : Int) - 1 + decimal.exponent = leading
  split
  · obtain ⟨exponent, hexponent, hsome, hall, hsize⟩ := padded_digits leading.natAbs
    have hsign : (if leading < 0 then "-" else "+").toList =
        [if decide (leading < 0) = true then '-' else '+'] := by
      split <;> simp_all
    refine ⟨_, hplain, ?_⟩
    dsimp only
    rw [← number?_oneDigit hempty hdigits hrest negative (by omega) hsome hall hsize,
      String.toList_append, String.toList_append, String.toList_append, String.toList_ofList,
      point_drop_one, hsign, hexponent]
    simp
  · split
    · refine ⟨_, hplain, ?_⟩
      dsimp only
      rw [← number?_afterZeros hempty hdigits hrest negative (leading.natAbs - 1) (by omega),
        String.toList_append]
      simp
    · have hwhole : ((leading.natAbs + 1 : Nat) : Int) = leading + 1 := by omega
      have hpositive : 0 < leading.natAbs + 1 := Nat.succ_pos _
      generalize leading.natAbs + 1 = whole at *
      rcases Nat.lt_or_ge whole digits.length with hlt | hge
      · have hafter : (digits.drop whole).isEmpty = false := by simpa using hlt
        refine ⟨_, hplain, ?_⟩
        dsimp only
        rw [← number?_among hempty hdigits hrest negative hpositive hlt (by omega),
          Nat.sub_eq_zero_of_le hlt.le, hafter]
        simp
      · have hafter : (digits.drop whole).isEmpty = true := by simpa using hge
        refine ⟨_, hsame (whole - digits.length + 1), ?_⟩
        have hscale : decimal.exponent + zeros - (whole - digits.length + 1 : Nat) = -1 := by omega
        rw [hscale, ← number?_beforeZeros hempty hdigits hrest, List.take_of_length_le hge, hafter]
        simp

/-! ## All numbers -/

theorem number?_finite (negative : Bool) (exponent : Fin 2047) (fraction : Fin Binary64.binadeSize)
    (hrest : Ends rest) :
    number? negative ((if Binary64.magnitude exponent fraction = 0 then "0.0"
      else Number.decimalText (Binary64.shortest exponent fraction)).toList ++ rest) =
      some (.float (.finite negative exponent fraction), rest) := by
  split
  · rename_i hzero
    have hread := number?_fixed (show ['0'] ≠ [] by simp) (by simp; rfl)
      (fun c (hc : c ∈ List.replicate 1 '0') => isAsciiDigit_of_mem_replicate hc) hrest negative (by simp)
    have hsignificand : Binary64.significand exponent fraction = 0 := by
      rw [Binary64.magnitude_eq] at hzero
      exact (Nat.mul_eq_zero.1 hzero).resolve_right (Nat.pow_pos (by decide)).ne'
    have hexponent : exponent.val = 0 := by
      by_contra hne
      rw [Binary64.significand, if_neg hne] at hsignificand
      omega
    have hcode := Binary64.ofCode_eq negative exponent fraction
    rw [hsignificand, hexponent] at hcode
    rw [← hcode]
    exact hread
  · rename_i hpos
    have hholds := Binary64.shortest_holds (Nat.pos_of_ne_zero hpos)
    obtain ⟨hdigits, -⟩ := hholds.order (Nat.pos_of_ne_zero hpos)
    obtain ⟨found, hfound, hread⟩ := number?_decimalText negative hdigits hrest
    rw [← hfound] at hholds
    rw [hread, Binary64.ofDecimal_of_holds (Nat.pos_of_ne_zero hpos) hholds]

theorem number?_infinity (negative : Bool) (hrest : Ends rest) :
    number? negative ("1e309".toList ++ rest) = some (.float (.infinite negative), rest) := by
  have hpart : exponentPart ('e' :: '3' :: '0' :: '9' :: rest) = some (309, 4) := by
    have htake := (digits_span (show ∀ c ∈ ['3', '0', '9'], isAsciiDigit c = true by simp [isAsciiDigit])
      fun c hc => (hrest.start.2 c hc).1).1
    simp only [List.cons_append, List.nil_append] at htake
    simp [exponentPart, htake]
    rfl
  have htail : ∀ c, ('e' :: '3' :: '0' :: '9' :: rest).head? = some c →
      isAsciiDigit c = false ∧ c ≠ '.' := by
    intro c hc
    obtain rfl : 'e' = c := by simpa using hc
    decide
  have hlarge : Binary64.ofDecimal negative 1 309 = .infinite negative := by
    cases negative <;> decide +kernel
  have hread := number?_parts (show ∀ c ∈ ([] : List Char), isAsciiDigit c = true by simp) htail negative
    (show ['1'] ≠ [] by simp) (by simp [isAsciiDigit])
  simp only [hpart, Option.isNone_some, Bool.and_false, Bool.false_eq_true, if_false] at hread
  refine hread.trans ?_
  rw [← hlarge]
  rfl

/-- **Every number with a value is read back from its text**, a leading minus being its sign. -/
theorem exists_number?_eq {value : Number} (h : value ≠ .float .nan) : ∃ negative body,
    (ofNumber value).toList = (if negative then '-' :: body else body) ∧
      ∀ rest, Ends rest → number? negative (body ++ rest) = some (value, rest) := by
  cases value with
  | int n =>
    rcases lt_or_ge n 0 with hlt | hge
    · refine ⟨true, Nat.toDigits 10 (-n).toNat, ?_, fun rest hrest => ?_⟩
      · rw [if_pos rfl]
        exact (Number.toList_toString_int n).trans (if_neg (by omega))
      · rw [number?_toDigits true _ hrest]
        simp only [if_true, Int.toNat_of_nonneg (show 0 ≤ -n by omega), neg_neg]
    · refine ⟨false, Nat.toDigits 10 n.toNat, ?_, fun rest hrest => ?_⟩
      · rw [if_neg (by simp)]
        exact (Number.toList_toString_int n).trans (if_pos hge)
      · rw [number?_toDigits false _ hrest]
        simp only [Bool.false_eq_true, if_false, Int.toNat_of_nonneg hge]
  | float value =>
    cases value with
    | nan => exact (h rfl).elim
    | infinite negative =>
      refine ⟨negative, "1e309".toList, ?_, fun rest hrest => number?_infinity negative hrest⟩
      cases negative <;> decide
    | finite negative exponent fraction =>
      refine ⟨negative, _, ?_, fun rest hrest => number?_finite negative exponent fraction hrest⟩
      cases negative <;> simp [ofNumber, Number.text, Number.floatText]

theorem digit_of_number? {negative : Bool} {text : List Char} {found : Number × List Char}
    (h : number? negative text = some found) : ∃ c tail, text = c :: tail ∧ isAsciiDigit c = true := by
  cases text with
  | nil => simp [number?] at h
  | cons c tail =>
    refine ⟨c, tail, rfl, ?_⟩
    by_contra hc
    simp [number?, hc] at h

end SchemaGuard.Literal.Reader
