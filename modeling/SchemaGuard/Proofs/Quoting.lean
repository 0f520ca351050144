import SchemaGuard.Text.Digit
import SchemaGuard.Text.Quoted

/-!
# Byte literals can be read back

The literal of a byte string determines the bytes (`quotedBytes_inj`): the escapes are told apart by
their first characters, so the first byte can be read off whatever follows.
-/

namespace SchemaGuard.Text

/-- The byte that the inside of a literal begins with. -/
def firstByte? : List Char → Option Nat
  | '\\' :: 'x' :: high :: low :: _ => hexNumber? [high, low]
  | '\\' :: 'n' :: _ => some 10
  | '\\' :: 'r' :: _ => some 13
  | '\\' :: 't' :: _ => some 9
  | '\\' :: 'x' :: _ => none
  | '\\' :: c :: _ => some c.toNat
  | '\\' :: _ => none
  | c :: _ => some c.toNat
  | [] => none

/-- A byte that can be read off is not changed by what follows. -/
theorem firstByte?_append {text : List Char} {byte : Nat} (h : firstByte? text = some byte)
    (rest : List Char) : firstByte? (text ++ rest) = some byte := by
  unfold firstByte? at h
  split at h
  · exact h
  · exact h
  · exact h
  · exact h
  · cases h
  · simp_all [firstByte?]
  · cases h
  · simp_all [firstByte?]
  · cases h

/-- The quotes that literals stand between. -/
theorem chooseQuote_cases (text : List Char) :
    chooseQuote text = '"' ∨ chooseQuote text = '\'' := by
  unfold chooseQuote
  split
  · exact .inl rfl
  · exact .inr rfl

theorem firstByte?_quoteByte {quote : Char} (hquote : quote = '"' ∨ quote = '\'') (byte : UInt8) :
    firstByte? (quoteByte quote byte) = some byte.toNat := by
  have hread : ∀ n < 256, firstByte? (quoteByte quote (UInt8.ofNat n)) = some n := by
    rcases hquote with rfl | rfl
    · decide +kernel
    · decide +kernel
  have hbyte := hread byte.toNat byte.toNat_lt
  rwa [UInt8.ofNat_toNat] at hbyte

theorem flatMap_quoteByte_inj {quote : Char} (hquote : quote = '"' ∨ quote = '\'')
    {bytes others : List UInt8}
    (h : bytes.flatMap (quoteByte quote) = others.flatMap (quoteByte quote)) : bytes = others := by
  have hfirst : ∀ (byte : UInt8) rest,
      firstByte? (quoteByte quote byte ++ rest) = some byte.toNat :=
    fun byte => firstByte?_append (firstByte?_quoteByte hquote byte)
  induction bytes generalizing others with
  | nil =>
    cases others with
    | nil => rfl
    | cons other others =>
      have hnone := hfirst other (others.flatMap (quoteByte quote))
      rw [← List.flatMap_cons, ← h] at hnone
      cases hnone
  | cons byte bytes ih =>
    cases others with
    | nil =>
      have hnone := hfirst byte (bytes.flatMap (quoteByte quote))
      rw [← List.flatMap_cons, h] at hnone
      cases hnone
    | cons other others =>
      rw [List.flatMap_cons, List.flatMap_cons] at h
      have hbyte := hfirst byte (bytes.flatMap (quoteByte quote))
      rw [h, hfirst other] at hbyte
      obtain rfl : other = byte := UInt8.toNat_inj.1 (Option.some.inj hbyte)
      rw [ih (List.append_cancel_left h)]

/-- **The literal of a byte string determines it.** -/
theorem quotedBytes_inj {bytes others : List UInt8} :
    quotedBytes bytes = quotedBytes others ↔ bytes = others := by
  refine ⟨fun h => ?_, fun h => by rw [h]⟩
  have hlists := String.ofList_injective h
  simp only [List.cons_append, List.cons.injEq, true_and] at hlists
  obtain ⟨hquote, hbody⟩ := hlists
  rw [hquote] at hbody
  exact flatMap_quoteByte_inj (chooseQuote_cases _) (List.append_cancel_right hbody)

end SchemaGuard.Text
