import Mathlib.Data.List.Basic
import SchemaGuard.Proofs.LiteralReader
import SchemaGuard.Proofs.Quoting

/-!
# Texts are read back

The inside of a literal is a concatenation of what its characters are written as, and the reader goes
through it in the same steps: it comes back to the stage between characters after each of them, with
that character pushed (`inside?_quoteChar`, `inside?_docBody`). What a character may be written as is
said once, by `docChar_cases` for documentation texts and by `escapeSpecial_cases` and
`exists_codeEscape_eq` for escapes.

Between triple quotes a quote may stand for itself. The reader would end the text too early only at
three of them in a row, which `docParts` chooses the quotes against; the last character counts together
with the closing quotes (`not_isPrefixOf_of_hasTriple`), and `guardLast` escapes it.
-/

namespace SchemaGuard.Literal.Reader

open Text (hexDigits codeEscape escapeSpecial quoteChar quoteBody chooseQuote docChar docParts hasTriple
  guardLast hexValue? isPrintable)

variable {quote : Char}

/-- A character of a documentation text stands for itself or is escaped. -/
theorem docChar_cases (c : Char) :
    (docChar c = [c] ∧ c ≠ '\\' ∧ (isPrintable c = true ∨ c = '\t' ∨ c = '\n')) ∨
      docChar c = escapeSpecial c := by
  unfold docChar
  split
  · rename_i hblank
    left
    simp only [Bool.or_eq_true, beq_iff_eq] at hblank
    rcases hblank with rfl | rfl <;> simp
  · split
    · exact .inr rfl
    · rename_i hplain
      simp only [Bool.or_eq_true, beq_iff_eq, Bool.not_eq_true', not_or, Bool.not_eq_false] at hplain
      exact .inl ⟨rfl, hplain.1, .inl hplain.2⟩

theorem escaped?_quote (hquote : quote = '"' ∨ quote = '\'') : escaped? quote = some quote := by
  rcases hquote with rfl | rfl <;> rfl

/-- A character is escaped by a letter or by its code. -/
theorem escapeSpecial_cases (c : Char) :
    (∃ letter, escapeSpecial c = ['\\', letter] ∧ escaped? letter = some c ∧
      letter ≠ '"' ∧ letter ≠ '\'') ∨ escapeSpecial c = codeEscape c.toNat := by
  unfold escapeSpecial
  split
  · exact .inl ⟨'\\', rfl, by decide⟩
  · exact .inl ⟨'n', rfl, by decide⟩
  · exact .inl ⟨'r', rfl, by decide⟩
  · exact .inl ⟨'t', rfl, by decide⟩
  · exact .inr rfl

/-- A code is written in as many digits as the letter before them says. -/
theorem exists_codeEscape_eq (c : Char) : ∃ letter width,
    codeEscape c.toNat = '\\' :: letter :: hexDigits (width + 1) c.toNat ∧ escaped? letter = none ∧
      codeWidth? letter = some (width + 1) ∧ c.toNat < Nat.pow 16 (width + 1) := by
  have hlarge : c.toNat < 0x110000 := by
    have hvalid : c.toNat.isValidChar := c.valid
    simp only [Nat.isValidChar] at hvalid
    omega
  unfold codeEscape
  split
  · rename_i hlt
    exact ⟨'x', 1, rfl, rfl, rfl, hlt⟩
  · split
    · rename_i hlt
      exact ⟨'u', 3, rfl, rfl, rfl, hlt⟩
    · exact ⟨'U', 7, rfl, rfl, rfl, Nat.lt_trans hlarge (by decide)⟩

/-- An escape begins with a backslash and does not end with a quote. -/
theorem exists_escapeSpecial_eq (c : Char) : ∃ chars last,
    escapeSpecial c = '\\' :: (chars ++ [last]) ∧ last ≠ '"' ∧ last ≠ '\'' := by
  rcases escapeSpecial_cases c with ⟨letter, hletter, -, hquote⟩ | hcode
  · exact ⟨[], letter, hletter, hquote⟩
  · obtain ⟨letter, width, hdigits, -⟩ := exists_codeEscape_eq c
    have hquote : ∀ n < 16, Nat.digitChar n ≠ '"' ∧ Nat.digitChar n ≠ '\'' := by decide
    exact ⟨letter :: hexDigits width (c.toNat / 16), _, hcode.trans hdigits,
      hquote _ (Nat.mod_lt _ (by decide))⟩

section

variable {quote : Char} (hquote : quote = '"' ∨ quote = '\'') {count : Nat} (hcount : 0 < count)
  (tail : List Char)

/-! ## Escapes -/

variable {c : Char}

theorem hexValue?_digitChar (n : Nat) : hexValue? (Nat.digitChar (n % 16)) = some (n % 16) := by
  have hall : ∀ n < 16, hexValue? (Nat.digitChar n) = some n := by decide
  exact hall _ (Nat.mod_lt _ (by decide))

/-- The digits of a code, but for the last ones. -/
theorem inside?_hexDigits (width left value : Nat) {n : Nat} (h : n < Nat.pow 16 width) :
    inside? quote count (.code (width + (left + 1)) value) (hexDigits width n ++ tail) =
      inside? quote count (.code (left + 1) (value * Nat.pow 16 width + n)) tail := by
  induction width generalizing n left tail with
  | zero =>
    obtain rfl : n = 0 := Nat.lt_one_iff.1 h
    simp [hexDigits]
  | succ width ih =>
    have hlt : n / 16 < Nat.pow 16 width := Nat.div_lt_of_lt_mul (Nat.mul_comm 16 _ ▸ h)
    have hvalue : 16 * (value * Nat.pow 16 width + n / 16) + n % 16 =
        value * Nat.pow 16 (width + 1) + n := by
      rw [show Nat.pow 16 (width + 1) = Nat.pow 16 width * 16 from rfl, Nat.mul_add, ← Nat.mul_assoc,
        Nat.mul_comm 16 value, Nat.mul_assoc, Nat.mul_comm 16 (Nat.pow 16 width)]
      omega
    rw [hexDigits, List.append_assoc, List.singleton_append,
      show width + 1 + (left + 1) = width + (left + 1 + 1) by omega, ih _ (left + 1) hlt]
    simp only [inside?, hexValue?_digitChar, hvalue]
    rw [if_pos (by omega)]
    rfl

theorem inside?_code {width : Nat} (h : c.toNat < Nat.pow 16 (width + 1)) :
    inside? quote count (.code (width + 1) 0) (hexDigits (width + 1) c.toNat ++ tail) =
      push c (inside? quote count .plain tail) := by
  have hlt : c.toNat / 16 < Nat.pow 16 width := Nat.div_lt_of_lt_mul (Nat.mul_comm 16 _ ▸ h)
  have hvalue : 16 * (c.toNat / 16) + c.toNat % 16 = c.toNat := Nat.div_add_mod _ _
  rw [hexDigits, List.append_assoc, List.singleton_append,
    inside?_hexDigits _ width 0 0 hlt]
  simp only [inside?, hexValue?_digitChar, Nat.zero_mul, Nat.zero_add, hvalue]
  rw [if_neg (by omega), if_pos (show c.toNat.isValidChar from c.valid), Char.ofNat_toNat]

/-- A character that stands for itself. -/
theorem inside?_self (hclosed : (List.replicate count quote).isPrefixOf (c :: tail) = false)
    (hbackslash : c ≠ '\\') (hprintable : isPrintable c = true ∨ c = '\t' ∨ c = '\n' ∧ count ≠ 1) :
    inside? quote count .plain (c :: tail) = push c (inside? quote count .plain tail) := by
  have hallowed : (c == '\r' || c == '\x00' || (c == '\n' && count == 1)) = false := by
    rcases hprintable with hprintable | rfl | ⟨rfl, hcount⟩
    · have hcontrols : c ≠ '\r' ∧ c ≠ '\x00' ∧ c ≠ '\n' := by
        refine ⟨?_, ?_, ?_⟩ <;> rintro rfl <;> exact absurd hprintable (by decide)
      simp [hcontrols]
    · rfl
    · simp [hcount]
  simp [inside?, hclosed, hbackslash, hallowed]

include hcount

/-- The quotes at the end. -/
theorem inside?_quotes : inside? quote count .plain (List.replicate count quote ++ tail) =
    some ([], tail) := by
  obtain ⟨more, rfl⟩ : ∃ more, count = more + 1 := ⟨count - 1, by omega⟩
  have hclosed : (List.replicate (more + 1) quote).isPrefixOf (List.replicate (more + 1) quote ++ tail) =
      true := by simp
  have hdrop : (List.replicate (more + 1) quote ++ tail).drop (more + 1) = tail := by simp
  rw [List.replicate_succ, List.cons_append] at hclosed hdrop ⊢
  simp only [inside?, List.replicate_succ, hclosed, hdrop, if_true]

/-- No quotes begin with another character. -/
theorem not_isPrefixOf (hc : c ≠ quote) :
    (List.replicate count quote).isPrefixOf (c :: tail) = false := by
  obtain ⟨more, rfl⟩ : ∃ more, count = more + 1 := ⟨count - 1, by omega⟩
  simp [List.replicate_succ, List.isPrefixOf, Ne.symm hc]

include hquote

theorem inside?_backslash :
    inside? quote count .plain ('\\' :: tail) = inside? quote count .backslash tail := by
  have hne : '\\' ≠ quote := by rcases hquote with rfl | rfl <;> decide
  simp [inside?, not_isPrefixOf hcount tail hne]

theorem inside?_escapeSpecial (c : Char) :
    inside? quote count .plain (escapeSpecial c ++ tail) =
      push c (inside? quote count .plain tail) := by
  rcases escapeSpecial_cases c with ⟨letter, hletter, hescaped, -⟩ | hcode
  · rw [hletter, List.cons_append, inside?_backslash hquote hcount]
    exact inside?_letter hescaped quote count tail
  · obtain ⟨letter, width, hdigits, hnone, hwidth, hlt⟩ := exists_codeEscape_eq c
    rw [hcode, hdigits, List.cons_append, inside?_backslash hquote hcount, List.cons_append,
      inside?_width hnone hwidth]
    exact inside?_code tail hlt

theorem inside?_quoteChar (c : Char) :
    inside? quote count .plain (quoteChar quote c ++ tail) =
      push c (inside? quote count .plain tail) := by
  unfold quoteChar
  split
  · rename_i hsame
    obtain rfl : c = quote := by simpa using hsame
    rw [List.cons_append, inside?_backslash hquote hcount]
    exact inside?_letter (escaped?_quote hquote) c count tail
  · rename_i hother
    split
    · exact inside?_escapeSpecial hquote hcount tail c
    · rename_i hplain
      have hne : c ≠ quote := by simpa using hother
      simp only [Bool.or_eq_true, beq_iff_eq, Bool.not_eq_true', not_or, Bool.not_eq_false] at hplain
      exact inside?_self tail (not_isPrefixOf hcount tail hne) hplain.1 (.inl hplain.2)

/-! ## Insides -/

theorem inside?_quoteBody (chars : List Char) :
    inside? quote count .plain (chars.flatMap (quoteChar quote) ++ tail) =
      chars.foldr push (inside? quote count .plain tail) := by
  induction chars with
  | nil => rfl
  | cons c chars ih =>
    rw [List.flatMap_cons, List.append_assoc, inside?_quoteChar hquote hcount, ih, List.foldr_cons]

/-- The inside of a documentation text, as long as no quotes in it end the text. -/
theorem inside?_docBody {chars : List Char} (hmany : count ≠ 1)
    (hopen : ∀ part, part ≠ [] → part <:+ chars.flatMap docChar →
      (List.replicate count quote).isPrefixOf (part ++ tail) = false) :
    inside? quote count .plain (chars.flatMap docChar ++ tail) =
      chars.foldr push (inside? quote count .plain tail) := by
  induction chars with
  | nil => rfl
  | cons c chars ih =>
    rw [List.flatMap_cons] at hopen ⊢
    have hrest := ih fun part hne hsuffix => hopen part hne (hsuffix.trans (List.suffix_append _ _))
    rw [List.append_assoc, List.foldr_cons, ← hrest]
    have hself : docChar c = [c] → c ≠ '\\' → (isPrintable c = true ∨ c = '\t' ∨ c = '\n' ∧ count ≠ 1) →
        inside? quote count .plain (docChar c ++ (chars.flatMap docChar ++ tail)) =
          push c (inside? quote count .plain (chars.flatMap docChar ++ tail)) := by
      intro hchar hbackslash hprintable
      have hclosed := hopen _ (by simp [hchar]) (List.suffix_refl _)
      rw [hchar] at hclosed ⊢
      exact inside?_self _ (by simpa using hclosed) hbackslash hprintable
    rcases docChar_cases c with ⟨hchar, hbackslash, hprintable⟩ | hchar
    · exact hself hchar hbackslash (hprintable.imp_right (Or.imp_right fun hend => ⟨hend, hmany⟩))
    · rw [hchar]
      exact inside?_escapeSpecial hquote hcount _ c

end

theorem foldr_push (chars rest : List Char) :
    chars.foldr push (some ([], rest)) = some (chars, rest) := by
  induction chars with
  | nil => rfl
  | cons c chars ih =>
    rw [List.foldr_cons, ih]
    rfl

/-! ## Quotes in a row -/

variable {body : List Char}

theorem hasTriple_iff : hasTriple quote body = true ↔ List.replicate 3 quote <:+: body := by
  induction body with
  | nil => simp [hasTriple]
  | cons a body ih =>
    rw [List.infix_cons_iff, ← ih]
    cases body with
    | nil => simp [hasTriple, List.replicate_succ]
    | cons b body =>
      cases body with
      | nil => simp [hasTriple, List.replicate_succ]
      | cons c body => simp [hasTriple, List.replicate_succ, @eq_comm _ quote, and_assoc]

/-- Quotes that do not occur in threes do not end a text before its end, unless they join the quotes
there. -/
theorem not_isPrefixOf_of_hasTriple {tail part : List Char} (htriple : hasTriple quote body = false)
    (hend : tail.head? ≠ some quote ∨ body.getLast? ≠ some quote) (hpart : part ≠ [])
    (hsuffix : part <:+ body) : (List.replicate 3 quote).isPrefixOf (part ++ tail) = false := by
  have hlast : tail.head? ≠ some quote ∨ part.getLast? ≠ some quote := by
    obtain ⟨front, rfl⟩ := hsuffix
    rwa [List.getLast?_append_of_ne_nil _ hpart] at hend
  by_contra hclosed
  obtain ⟨after, hafter⟩ := List.isPrefixOf_iff_prefix.1 (Bool.not_eq_false _ ▸ hclosed)
  -- the three quotes end with one or two characters of the part, or lie in it
  cases part with
  | nil => exact hpart rfl
  | cons a part =>
    cases part with
    | nil =>
      cases hafter
      simp at hlast
    | cons b part =>
      cases part with
      | nil =>
        cases hafter
        simp at hlast
      | cons c part =>
        cases hafter
        have hrow : List.replicate 3 quote <:+: body :=
          List.IsInfix.trans ⟨[], part, rfl⟩ hsuffix.isInfix
        rw [hasTriple_iff.2 hrow] at htriple
        contradiction

/-! ## Texts with their quotes -/

variable {chars : List Char}

theorem quoteChar_head (hquote : quote = '"' ∨ quote = '\'') (c : Char) :
    ∃ first chars, quoteChar quote c = first :: chars ∧ first ≠ quote := by
  have hne : '\\' ≠ quote := by rcases hquote with rfl | rfl <;> decide
  unfold quoteChar
  split
  · exact ⟨_, _, rfl, hne⟩
  · rename_i hother
    split
    · obtain ⟨chars, last, hchars, -⟩ := exists_escapeSpecial_eq c
      exact ⟨_, _, hchars, hne⟩
    · exact ⟨_, _, rfl, by simpa using hother⟩

/-- A text in single quotes is read back, unless one more quote follows it. -/
theorem string?_quoted (text : String) {rest : List Char}
    (hrest : ∀ c, rest.head? = some c → c ≠ '"' ∧ c ≠ '\'') :
    string? ((Text.quoted text).toList ++ rest) = some (text, rest) := by
  have hquote := Text.chooseQuote_cases text.toList
  have hbody := inside?_quoteBody hquote (by decide : 0 < 1)
    (List.replicate 1 (chooseQuote text.toList) ++ rest) text.toList
  rw [inside?_quotes (by decide), foldr_push] at hbody
  have hsingle : [chooseQuote text.toList, chooseQuote text.toList].isPrefixOf
      (quoteBody text.toList ++ (List.replicate 1 (chooseQuote text.toList) ++ rest)) = false := by
    unfold quoteBody
    generalize chooseQuote text.toList = quote at *
    cases text.toList with
    | nil =>
      cases rest with
      | nil => simp [List.isPrefixOf]
      | cons c rest =>
        have hne : c ≠ quote := by
          rcases hquote with rfl | rfl
          · exact (hrest c rfl).1
          · exact (hrest c rfl).2
        simp [List.isPrefixOf, Ne.symm hne]
    | cons c chars =>
      obtain ⟨first, others, hchars, hne⟩ := quoteChar_head hquote c
      simp [hchars, List.isPrefixOf, Ne.symm hne]
  have htext : (Text.quoted text).toList ++ rest = chooseQuote text.toList ::
      (quoteBody text.toList ++ (List.replicate 1 (chooseQuote text.toList) ++ rest)) := by
    simp [Text.quoted]
  rw [htext]
  simp only [string?, hsingle, Bool.false_eq_true, if_false, Nat.sub_self, List.drop_zero]
  rw [quoteBody, hbody]
  simp

/-- If the inside of a documentation text ends with a quote, so does the text. -/
theorem exists_of_getLast? (hquote : quote = '"' ∨ quote = '\'')
    (h : (chars.flatMap docChar).getLast? = some quote) :
    ∃ before, chars = before ++ [quote] ∧ chars.flatMap docChar = before.flatMap docChar ++ [quote] := by
  rcases List.eq_nil_or_concat chars with rfl | ⟨before, last, rfl⟩
  · simp at h
  · rw [List.concat_eq_append] at h ⊢
    rw [List.flatMap_append, List.flatMap_singleton] at h ⊢
    rcases docChar_cases last with ⟨hchar, -⟩ | hchar
    · rw [hchar, List.getLast?_concat] at h
      cases h
      exact ⟨before, rfl, by rw [hchar]⟩
    · obtain ⟨others, final, hothers, hdouble, hsingle⟩ := exists_escapeSpecial_eq last
      rw [hchar, hothers, ← List.cons_append, ← List.append_assoc, List.getLast?_concat] at h
      cases h
      rcases hquote with rfl | rfl <;> contradiction

/-- A documentation text between quotes that do not occur in it in threes. -/
theorem inside?_guardLast (hquote : quote = '"' ∨ quote = '\'')
    (htriple : hasTriple quote (chars.flatMap docChar) = false) (rest : List Char) :
    inside? quote 3 .plain (guardLast quote (chars.flatMap docChar) ++ (List.replicate 3 quote ++ rest)) =
      some (chars, rest) := by
  unfold guardLast
  split
  · rename_i hlast
    obtain ⟨before, rfl, hbody⟩ := exists_of_getLast? hquote (by simpa using hlast)
    have hopen : hasTriple quote (before.flatMap docChar) = false := by
      by_contra hrow
      rw [Bool.not_eq_false, hasTriple_iff] at hrow
      rw [hbody, hasTriple_iff.2 (hrow.trans (List.prefix_append _ _).isInfix)] at htriple
      contradiction
    have hne : '\\' ≠ quote := by rcases hquote with rfl | rfl <;> decide
    have hescaped : inside? quote 3 .plain ('\\' :: quote :: (List.replicate 3 quote ++ rest)) =
        push quote (some ([], rest)) := by
      rw [inside?_backslash hquote (by decide), inside?_letter (escaped?_quote hquote),
        inside?_quotes (by decide)]
    rw [hbody, List.dropLast_concat, List.append_assoc, inside?_docBody hquote (by decide) _ (by decide)
      fun part hpart hsuffix => not_isPrefixOf_of_hasTriple hopen (.inl (by simpa using hne)) hpart hsuffix]
    simp only [List.cons_append, List.nil_append]
    rw [hescaped]
    exact List.foldr_append.symm.trans (foldr_push (before ++ [quote]) rest)
  · rename_i hlast
    rw [inside?_docBody hquote (by decide) _ (by decide) fun part hpart hsuffix =>
      not_isPrefixOf_of_hasTriple htriple (.inr (by simpa using hlast)) hpart hsuffix,
      inside?_quotes (by decide), foldr_push]

/-- The inside of a documentation text is read back up to the quotes that were chosen for it. -/
theorem inside?_docParts (chars rest : List Char) : ∃ quote body, docParts chars = (quote, body) ∧
    (quote = '"' ∨ quote = '\'') ∧
    inside? quote 3 .plain (body ++ (List.replicate 3 quote ++ rest)) = some (chars, rest) := by
  cases hchosen : (['"', '\''].filter fun quote => !hasTriple quote (chars.flatMap docChar)).filter
      (fun quote => (chars.flatMap docChar).getLast? != some quote) ++
      ['"', '\''].filter fun quote => !hasTriple quote (chars.flatMap docChar) with
  | nil =>
    refine ⟨chooseQuote chars, quoteBody chars, by simp only [docParts, hchosen],
      Text.chooseQuote_cases chars, ?_⟩
    rw [quoteBody, inside?_quoteBody (Text.chooseQuote_cases chars) (by decide),
      inside?_quotes (by decide), foldr_push]
  | cons quote others =>
    have hmem : quote ∈ ['"', '\''].filter fun quote => !hasTriple quote (chars.flatMap docChar) := by
      have hhead : quote ∈ quote :: others := List.mem_cons_self
      rw [← hchosen] at hhead
      rcases List.mem_append.1 hhead with hhead | hhead
      · exact (List.mem_filter.1 hhead).1
      · exact hhead
    obtain ⟨hquote, htriple⟩ := List.mem_filter.1 hmem
    have hquote : quote = '"' ∨ quote = '\'' := by simpa using hquote
    exact ⟨quote, guardLast quote (chars.flatMap docChar), by simp only [docParts, hchosen], hquote,
      inside?_guardLast hquote (by simpa using htriple) rest⟩

/-- A documentation text is read back, and begins with a quote. -/
theorem string?_tripleQuoted (text : String) (rest : List Char) :
    string? ((Text.tripleQuoted text).toList ++ rest) = some (text, rest) ∧
      (((Text.tripleQuoted text).toList ++ rest).head? = some '"' ∨
        ((Text.tripleQuoted text).toList ++ rest).head? = some '\'') := by
  obtain ⟨quote, body, hparts, hquote, hread⟩ := inside?_docParts text.toList rest
  have htext : (Text.tripleQuoted text).toList ++ rest =
      quote :: quote :: quote :: (body ++ (List.replicate 3 quote ++ rest)) := by
    simp [Text.tripleQuoted, hparts, List.replicate_succ]
  rw [htext]
  refine ⟨?_, by simpa using hquote⟩
  have htriple : [quote, quote].isPrefixOf
      (quote :: quote :: (body ++ (List.replicate 3 quote ++ rest))) = true := by
    simp [List.isPrefixOf]
  simp only [string?, htriple, if_true]
  have hdrop : (quote :: quote :: (body ++ (List.replicate 3 quote ++ rest))).drop (3 - 1) =
      body ++ (List.replicate 3 quote ++ rest) := rfl
  rw [hdrop, hread]
  simp

end SchemaGuard.Literal.Reader
