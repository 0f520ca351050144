import Mathlib.Data.List.Basic
import SchemaGuard.Name.Derive
import SchemaGuard.Text.Normal

/-!
# What derived names look like

Derived names are ASCII and not empty (`ofText_isAscii`, `ofText_ne_empty`), so they are bound as
they are written. **Theorem (`head_ofText`).** The name for a text starts with a capital letter,
provided that the text, after its separators, starts with a letter or a digit. The proviso is
needed: a first character that cannot stand in an identifier takes the place of the one to be
capitalized, and is dropped afterwards.

The three names of a pointer differ from each other. That of a function is longer than that of its
type, because capitalizing does not shorten a name that starts with the letter that the function's
name starts with.
-/

namespace SchemaGuard

/-! ## ASCII -/

namespace Text

/-- All characters of a text are ASCII. -/
def IsAscii (text : String) : Prop := ∀ c ∈ text.toList, c.toNat < 0x80

instance (text : String) : Decidable (IsAscii text) :=
  List.decidableBAll (fun c : Char => c.toNat < 0x80) text.toList

theorem IsAscii.append {first second : String} (h : IsAscii first) (h' : IsAscii second) :
    IsAscii (first ++ second) := by
  intro c hc
  rw [String.toList_append] at hc
  rcases List.mem_append.1 hc with hc | hc
  · exact h c hc
  · exact h' c hc

theorem normalForm_of_isAscii {text : String} (h : IsAscii text) : normalForm text = text := by
  have hall : text.toList.all (·.toNat < 0x80) = true :=
    List.all_eq_true.2 fun c hc => decide_eq_true (h c hc)
  rw [normalForm, if_pos hall]

/-- What can be checked of all ASCII characters holds of each of them. -/
theorem forall_ascii {p : Char → Bool} (h : ∀ n : Fin 0x80, p (Char.ofNat n) = true) {c : Char}
    (hc : c.toNat < 0x80) : p c = true := by
  have hchar := h ⟨c.toNat, hc⟩
  rw [Char.ofNat_toNat] at hchar
  exact hchar

theorem toNat_lt_of_isDigit {c : Char} (h : c.isDigit = true) : c.toNat < 0x80 := by
  obtain ⟨-, hle⟩ := Char.isDigit_iff_toNat.1 h
  exact Nat.lt_of_le_of_lt hle (by decide)

theorem toNat_lt_of_isAlpha {c : Char} (h : c.isAlpha = true) : c.toNat < 0x80 := by
  have hupper : 'Z'.val.toNat < 0x80 := by decide
  have hlower : 'z'.val.toNat < 0x80 := by decide
  rw [← Char.toNat_val]
  rcases Bool.or_eq_true_iff.1 h with h | h
  · obtain ⟨-, hle⟩ := of_decide_eq_true h
    exact Nat.lt_of_le_of_lt (UInt32.le_iff_toNat_le.1 hle) hupper
  · obtain ⟨-, hle⟩ := Bool.and_eq_true_iff.1 h
    exact Nat.lt_of_le_of_lt (UInt32.le_iff_toNat_le.1 (of_decide_eq_true hle)) hlower

theorem isAscii_toString (n : Nat) : IsAscii (toString n) := by
  intro c hc
  rw [Nat.toString_eq_repr, Nat.toList_repr] at hc
  exact toNat_lt_of_isDigit (Nat.isDigit_of_mem_toDigits (by decide) (by decide) hc)

theorem toList_capitalize {text : String} {c : Char} {rest : List Char}
    (htext : text.toList = c :: rest) (hc : c.toNat < 0x80) :
    (capitalize text).toList = c.toUpper :: rest := by
  simp [capitalize, htext, upper, hc]

theorem IsAscii.capitalize {text : String} (h : IsAscii text) : IsAscii (capitalize text) := by
  cases htext : text.toList with
  | nil =>
    rw [Text.capitalize, htext]
    decide
  | cons c rest =>
    have hc : c.toNat < 0x80 := h c (by simp [htext])
    have hupper : c.toUpper.toNat < 0x80 :=
      of_decide_eq_true (forall_ascii (p := fun c => c.toUpper.toNat < 0x80) (by decide) hc)
    intro d hd
    rw [toList_capitalize htext hc] at hd
    rcases List.mem_cons.1 hd with rfl | hd
    · exact hupper
    · exact h d (by simp [htext, hd])

end Text

namespace Name

/-! ## Three names for a pointer -/

variable (text : String) (type : String)

theorem ne_append_capitalize {start : String} (c : Char) (cs : List Char)
    (hstart : start.toList = c :: cs) (hc : c.toNat < 0x80) :
    text ≠ start ++ Text.capitalize text := by
  intro h
  have hchars : text.toList = c :: (cs ++ (Text.capitalize text).toList) := by
    rw [← List.cons_append, ← hstart, ← String.toList_append, ← h]
  have hcapital := Text.toList_capitalize hchars hc
  have hlength := congrArg List.length hchars
  have hlength' := congrArg List.length hcapital
  simp only [List.length_cons, List.length_append] at hlength hlength'
  omega

theorem validator_ne : validator type ≠ type :=
  (ne_append_capitalize type 'v' "alidate".toList (by decide) (by decide)).symm

theorem parser_ne : parser type ≠ type :=
  (ne_append_capitalize type 'p' "arse".toList (by decide) (by decide)).symm

theorem validator_head : (validator type).toList.head? = some 'v' := by
  simp [validator]

theorem parser_head : (parser type).toList.head? = some 'p' := by
  simp [parser]

theorem parser_ne_validator (other : String) : parser type ≠ validator other := by
  intro h
  have hfirst := parser_head type
  rw [h, validator_head] at hfirst
  cases hfirst

/-! ## Derived names -/

theorem toNat_lt_of_isIdentifierChar {c : Char} (h : isIdentifierChar c = true) :
    c.toNat < 0x80 := by
  simp only [isIdentifierChar, Text.isAsciiAlphanumeric, Bool.or_eq_true, beq_iff_eq] at h
  rcases h with (h | h) | rfl
  · exact Text.toNat_lt_of_isAlpha h
  · exact Text.toNat_lt_of_isDigit h
  · decide

/-- What a text is mended to: what can stand in an identifier, or `Schema` if nothing can, perhaps
between the words that mend it. -/
theorem identifier_cases :
    text.toList.filter isIdentifierChar = [] ∧ identifier text = "Schema" ∨
      ∃ c rest more, text.toList.filter isIdentifierChar = c :: rest ∧ more ∈ ["", "Type"] ∧
        identifier text =
          (if c.isDigit then "Schema" else "") ++ String.ofList (c :: rest) ++ more := by
  unfold identifier
  split
  · rename_i hnone
    exact .inl ⟨hnone, rfl⟩
  · rename_i c rest hsome
    refine .inr ⟨c, rest, ?_⟩
    dsimp only
    split_ifs
    · exact ⟨"Type", hsome, by decide, rfl⟩
    · exact ⟨"", hsome, by decide, by simp⟩
    · exact ⟨"Type", hsome, by decide, by simp⟩
    · exact ⟨"", hsome, by decide, by simp⟩

/-- The characters of what a text is mended to. -/
theorem identifier_chars :
    ∃ c rest, (identifier text).toList = c :: rest ∧ c.isDigit = false ∧
      ∀ d ∈ c :: rest, isIdentifierChar d = true ∧ (d = '_' → '_' ∈ text.toList) := by
  have hwords : ∀ word ∈ ["Schema", "", "Type"],
      word.toList.all (fun d => isIdentifierChar d && d != '_') = true := by decide
  have hword : ∀ word ∈ ["Schema", "", "Type"], ∀ d ∈ word.toList,
      isIdentifierChar d = true ∧ d ≠ '_' := fun word hmem => by simpa using hwords word hmem
  rcases identifier_cases text with ⟨-, h⟩ | ⟨c, rest, more, hchars, hmore, h⟩
  · refine ⟨'S', "chema".toList, by rw [h]; rfl, by decide, fun d hd => ?_⟩
    exact (hword "Schema" (by decide) d hd).imp_right fun hne heq => (hne heq).elim
  · have hall : ∀ d ∈ (identifier text).toList,
        isIdentifierChar d = true ∧ (d = '_' → '_' ∈ text.toList) := by
      intro d hd
      rw [h, String.toList_append, String.toList_append, String.toList_ofList, List.append_assoc,
        List.mem_append, List.mem_append, ← hchars, List.mem_filter] at hd
      rcases hd with hd | ⟨hd, hd'⟩ | hd
      · refine (hword _ ?_ d hd).imp_right fun hne heq => (hne heq).elim
        split <;> decide
      · exact ⟨hd', fun heq => heq ▸ hd⟩
      · exact (hword more (List.mem_cons_of_mem _ hmore) d hd).imp_right fun hne heq => (hne heq).elim
    have hhead : ∃ d others, (identifier text).toList = d :: others ∧ d.isDigit = false := by
      rw [h, String.toList_append, String.toList_append, String.toList_ofList]
      cases hdigit : c.isDigit with
      | true => exact ⟨'S', _, rfl, by decide⟩
      | false => exact ⟨c, _, rfl, hdigit⟩
    obtain ⟨d, others, hname, hdigit⟩ := hhead
    exact ⟨d, others, hname, hdigit, hname ▸ hall⟩

theorem ofText_ne_empty : ofText text ≠ "" := by
  obtain ⟨c, rest, hchars, -⟩ := identifier_chars (pascalCase text)
  intro h
  rw [← ofText, h] at hchars
  cases hchars

theorem ofText_isAscii : Text.IsAscii (ofText text) := by
  obtain ⟨c, rest, hchars, -, hall⟩ := identifier_chars (pascalCase text)
  intro d hd
  rw [ofText, hchars] at hd
  exact toNat_lt_of_isIdentifierChar (hall d hd).1

/-! ## Capital letters -/

/-- Whether a text starts, after its separators, with a letter or a digit. The empty text does. -/
def startsPlainly (text : String) : Bool :=
  match text.toList.dropWhile isSeparator with
  | [] => true
  | c :: _ => Text.isAsciiAlphanumeric c

/-- The first word of a text starts with the first character that is no separator. -/
theorem words_chars (chars : List Char) :
    (chars.dropWhile isSeparator = [] ∧ (cutWords chars).filter (!·.isEmpty) = []) ∨
      ∃ c rest word others, chars.dropWhile isSeparator = c :: rest ∧
        (cutWords chars).filter (!·.isEmpty) = (c :: word) :: others := by
  induction chars with
  | nil => exact .inl ⟨rfl, rfl⟩
  | cons c chars ih =>
    rw [cutWords, List.dropWhile_cons]
    split
    · simpa using ih
    · refine .inr ⟨c, chars, ?_⟩
      split
      · exact ⟨[], [], rfl, rfl⟩
      · rename_i word others _
        exact ⟨word, others.filter (!·.isEmpty), rfl, rfl⟩

theorem toNat_lt_of_isAsciiAlphanumeric {c : Char} (h : Text.isAsciiAlphanumeric c = true) :
    c.toNat < 0x80 := by
  rcases Bool.or_eq_true_iff.1 h with h | h
  · exact Text.toNat_lt_of_isAlpha h
  · exact Text.toNat_lt_of_isDigit h

/-- The capital of a letter or a digit is a capital letter or a digit. -/
theorem toUpper_alphanumeric {c : Char} (h : Text.isAsciiAlphanumeric c = true) :
    isIdentifierChar c.toUpper = true ∧ (c.toUpper.isDigit = false → c.toUpper.isUpper = true) := by
  have hall := Text.forall_ascii (c := c) (p := fun c => !Text.isAsciiAlphanumeric c ||
    (isIdentifierChar c.toUpper && (c.toUpper.isDigit || c.toUpper.isUpper))) (by decide)
    (toNat_lt_of_isAsciiAlphanumeric h)
  simp only [h, Bool.not_true, Bool.false_or, Bool.and_eq_true, Bool.or_eq_true] at hall
  exact ⟨hall.1, fun hdigit => by simpa [hdigit] using hall.2⟩

/-- **A derived name starts with a capital letter**, if its text starts with a letter or a digit. -/
theorem head_ofText {text : String} (h : startsPlainly text = true) :
    ∃ c, (ofText text).toList.head? = some c ∧ c.isUpper = true := by
  rcases words_chars text.toList with ⟨-, hwords⟩ | ⟨c, rest, word, others, hstart, hwords⟩
  · have hempty : pascalCase text = "" := by simp [pascalCase, words, hwords]
    refine ⟨'S', ?_, by decide⟩
    simp [ofText, hempty, identifier]
  · rw [startsPlainly, hstart] at h
    obtain ⟨hkept, hupper⟩ := toUpper_alphanumeric h
    have hcapital := Text.toList_capitalize (String.toList_ofList (l := c :: word))
      (toNat_lt_of_isAsciiAlphanumeric h)
    -- The capital is kept, so it comes first, unless it is a digit and a word is put before it.
    have hfirst : ∃ kept, (pascalCase text).toList.filter isIdentifierChar = c.toUpper :: kept := by
      rw [pascalCase, words, hwords, List.map_cons, List.map_cons, String.join_cons,
        String.toList_append, hcapital, List.cons_append, List.filter_cons_of_pos hkept]
      exact ⟨_, rfl⟩
    obtain ⟨kept, hchars⟩ := hfirst
    rw [ofText]
    rcases identifier_cases (pascalCase text) with ⟨hnone, -⟩ | ⟨d, _, more, hsome, -, hname⟩
    · rw [hchars] at hnone
      cases hnone
    · rw [hchars] at hsome
      obtain ⟨rfl, rfl⟩ := List.cons.inj hsome
      rw [hname]
      by_cases hdigit : c.toUpper.isDigit = true
      · exact ⟨'S', by simp [hdigit], by decide⟩
      · exact ⟨c.toUpper, by simp [hdigit], hupper (by simpa using hdigit)⟩

end Name

end SchemaGuard
