import SchemaGuard.Proofs.Builtins
import SchemaGuard.Proofs.PointerSteps
import SchemaGuard.Proofs.Specifiers

/-!
# Names are legal

A name is legal if it is an identifier and no keyword. **Theorem (`derived_names_usable`).** Every
name that is derived from a text is, whatever the text, and claiming it can only fail because it is
reserved or another's.

**Theorem (`names_legal`).** All names that a module binds are identifiers, and those of types that
belong to pointers and of functions are no keywords. The name of a hoisted declaration is put
together from legal parts and not looked at again. It is a keyword only if all that follows the name
of the type was derived from texts that start with neither a letter nor a digit: every other part
brings in a capital letter or a digit, which no keyword has after its first letter. This does happen
(`property_completes_keyword`).
-/

namespace SchemaGuard

/-! ## Letters in upper case -/

namespace Text

/-- Whether one of the ranges, which ascend, holds all code points from one to another. -/
def Ranges.covers (first last : Nat) : Ranges → Bool
  | [] => false
  | range :: ranges => range.1.ble first && (last.ble range.2 || covers first last ranges)

theorem Ranges.has_of_covers {ranges : Ranges} {first last code : Nat}
    (h : ranges.covers first last = true) (hfirst : first ≤ code) (hlast : code ≤ last) :
    ranges.has code = true := by
  induction ranges with
  | nil => cases h
  | cons range ranges ih =>
    obtain ⟨hle, hcovers⟩ := Bool.and_eq_true_iff.1 h
    rw [Nat.ble_eq] at hle
    rw [has, List.any_cons, Bool.or_eq_true]
    refine (Bool.or_eq_true_iff.1 hcovers).imp (fun hrange => ?_) ih
    rw [Nat.ble_eq] at hrange
    simp only [Bool.and_eq_true, decide_eq_true_eq]
    exact ⟨hle.trans hfirst, hlast.trans hrange⟩

theorem isIdentifierPart_of_isUpper {c : Char} (h : c.isUpper = true) :
    isIdentifierPart c = true := by
  have halpha : c.isAlpha = true := Bool.or_eq_true_iff.2 (.inl h)
  rw [isIdentifierPart, if_pos (toNat_lt_of_isAlpha halpha), isAsciiAlphanumeric, halpha]
  rfl

theorem isIdentifierPart_of_isIdentifierStart {c : Char} (h : isIdentifierStart c = true) :
    isIdentifierPart c = true := by
  unfold isIdentifierStart at h
  unfold isIdentifierPart isAsciiAlphanumeric
  split at h
  · rename_i hc
    rw [if_pos hc]
    simp only [Bool.or_eq_true] at h ⊢
    exact h.imp_left .inl
  · rename_i hc
    rw [if_neg hc, h]
    rfl

/-- What may begin an identifier are characters. -/
theorem toNat_ofNat_of_starts {code : Nat} (h : identifierStarts.has code = true) :
    (Char.ofNat code).toNat = code := by
  have hvalid : ∀ range ∈ identifierStarts,
      range.2 < 0xd800 ∨ 0xdfff < range.1 ∧ range.2 < 0x110000 := by decide +kernel
  obtain ⟨range, hmem, hrange⟩ := List.any_eq_true.1 h
  simp only [Bool.and_eq_true, decide_eq_true_eq] at hrange
  have hcode : code.isValidChar := by
    have := hvalid range hmem
    simp only [Nat.isValidChar]
    omega
  rw [Char.ofNat, dif_pos hcode]
  rfl

theorem CaseRun.send?_eq_some {run : CaseRun} {code sent : Nat} (h : run.send? code = some sent) :
    run.first ≤ code ∧ code ≤ run.last ∧ (code - run.first) % run.step = 0 ∧
      sent = run.image + (code - run.first) := by
  unfold send? at h
  split at h
  · rename_i hholds
    simp only [Bool.and_eq_true, decide_eq_true_eq, beq_iff_eq] at hholds
    exact ⟨hholds.1.1, hholds.1.2, hholds.2, (Option.some.inj h).symm⟩
  · cases h

/-- Whether a run sends letters on to letters: what it gives are letters, or what it is given are
none. -/
def CaseRun.isTame (run : CaseRun) : Bool :=
  let count := run.last - run.first
  run.last.blt 0x80 || run.first == run.last && (Char.ofNat run.image).isUpper ||
    Nat.ble 0x80 run.image &&
      (identifierStarts.covers run.image (run.image + count) ||
        (List.range (count + 1)).all (fun k => k % run.step != 0 ||
          identifierStarts.covers (run.image + k) (run.image + k)) ||
        identifierStarts.all fun range => range.2.blt run.first || run.last.blt range.1)

theorem upperRuns_tame : upperRuns.all CaseRun.isTame = true := by
  unfold upperRuns caseRuns casePairs upperPairs
  rw [List.flatMap_cons, List.flatMap_cons, List.flatMap_cons, List.flatMap_nil]
  -- The kernel takes characters from a list sooner than from a text.
  rw [String.toList_ofList, String.toList_ofList, String.toList_ofList, String.toList_ofList]
  decide +kernel

/-- Upper casing makes no underscore, and keeps what may begin an identifier inside of identifiers.
-/
structure Follows (c d : Char) : Prop where
  ne_underscore : d ≠ '_'
  isIdentifierPart : isIdentifierStart c = true → isIdentifierPart d = true

theorem CaseRun.follows_of_isTame {run : CaseRun} (h : run.isTame = true) {c : Char} {code : Nat}
    (hc : 0x80 ≤ c.toNat) (hsent : run.send? c.toNat = some code) :
    Follows c (Char.ofNat code) := by
  obtain ⟨hfirst, hlast, hstep, rfl⟩ := send?_eq_some hsent
  simp only [isTame, Bool.or_eq_true, Bool.and_eq_true, Nat.blt_eq, Nat.ble_eq, beq_iff_eq] at h
  rcases h with (hsmall | ⟨hsingle, hupper⟩) | ⟨himage, hletters⟩
  · omega
  · have hzero : c.toNat - run.first = 0 := by omega
    rw [hzero, Nat.add_zero]
    refine ⟨fun heq => ?_, fun _ => isIdentifierPart_of_isUpper hupper⟩
    rw [heq] at hupper
    cases hupper
  · refine ⟨fun heq => ?_, fun hstart => ?_⟩
    · have hcode := congrArg Char.toNat heq
      by_cases hvalid : (run.image + (c.toNat - run.first)).isValidChar
      · rw [Char.ofNat, dif_pos hvalid] at hcode
        have hcode : run.image + (c.toNat - run.first) = 0x5f := hcode
        omega
      · rw [Char.ofNat, dif_neg hvalid] at hcode
        cases hcode
    · have hhas : identifierStarts.has (run.image + (c.toNat - run.first)) = true := by
        rcases hletters with (hcovers | heach) | hnone
        · exact Ranges.has_of_covers hcovers (by omega) (by omega)
        · have hcode := List.all_eq_true.1 heach (c.toNat - run.first)
            (List.mem_range.2 (by omega))
          rw [hstep] at hcode
          exact Ranges.has_of_covers hcode (Nat.le_refl _) (Nat.le_refl _)
        · -- The run holds nothing that may begin an identifier.
          rw [isIdentifierStart, if_neg (Nat.not_lt.2 hc)] at hstart
          obtain ⟨range, hmem, hrange⟩ := List.any_eq_true.1 hstart
          have hoff := List.all_eq_true.1 hnone range hmem
          simp only [Bool.and_eq_true, decide_eq_true_eq, Bool.or_eq_true, Nat.blt_eq] at hrange hoff
          omega
      apply isIdentifierPart_of_isIdentifierStart
      rw [isIdentifierStart, toNat_ofNat_of_starts hhas, if_neg (by omega)]
      exact hhas

theorem follows_upper {c : Char} (h : c ≠ '_') : ∀ d ∈ upper c, Follows c d := by
  have hexpansions : upperExpansions.all (fun expansion => (expansion.toList.drop 1).all fun d =>
      d != '_' && (d.isUpper || Nat.ble 0x80 d.toNat &&
        (identifierStarts.covers d.toNat d.toNat || identifierMarks.covers d.toNat d.toNat))) =
      true := by decide +kernel
  intro d hd
  unfold upper at hd
  split at hd
  · rename_i hc
    have hupper := forall_ascii (p := fun c => c == '_' || c.toUpper != '_' &&
      (!isIdentifierStart c || isIdentifierPart c.toUpper)) (by decide) hc
    rw [List.mem_singleton.1 hd]
    simp only [beq_iff_eq, h, Bool.or_eq_true, Bool.and_eq_true, false_or, bne_iff_ne] at hupper
    exact ⟨hupper.1, fun hstart => by simpa [hstart] using hupper.2⟩
  · rename_i hc
    split at hd
    · rename_i expansion hfound
      have hletter := List.all_eq_true.1
        (List.all_eq_true.1 hexpansions expansion (List.mem_of_find?_eq_some hfound)) d hd
      simp only [Bool.and_eq_true, Bool.or_eq_true, bne_iff_ne, Nat.ble_eq] at hletter
      refine ⟨hletter.1, fun _ => ?_⟩
      rcases hletter.2 with hupper | ⟨hcode, hcovers⟩
      · exact isIdentifierPart_of_isUpper hupper
      · rw [isIdentifierPart, if_neg (Nat.not_lt.2 hcode), Bool.or_eq_true]
        exact hcovers.imp (Ranges.has_of_covers · (Nat.le_refl _) (Nat.le_refl _))
          (Ranges.has_of_covers · (Nat.le_refl _) (Nat.le_refl _))
    · rw [List.mem_singleton.1 hd]
      cases hsome : upperRuns.findSome? (·.send? c.toNat) with
      | none =>
        rw [Option.getD_none, Char.ofNat_toNat]
        exact ⟨h, isIdentifierPart_of_isIdentifierStart⟩
      | some code =>
        obtain ⟨run, hrun, hcode⟩ := List.exists_of_findSome?_eq_some hsome
        exact CaseRun.follows_of_isTame (List.all_eq_true.1 upperRuns_tame run hrun)
          (Nat.le_of_not_lt hc) hcode

theorem isIdentifier_append {first second : String} (h : isIdentifier first = true)
    (h' : ∀ c ∈ second.toList, isIdentifierPart c = true) :
    isIdentifier (first ++ second) = true := by
  unfold isIdentifier at h ⊢
  rw [String.toList_append]
  split at h
  · cases h
  · obtain ⟨hstart, hrest⟩ := Bool.and_eq_true_iff.1 h
    rename_i hchars
    rw [hchars, List.cons_append]
    dsimp only
    rw [hstart, List.all_append, hrest, List.all_eq_true.2 h']
    rfl

/-- An identifier with a capital letter may follow another one. -/
theorem isIdentifierPart_capitalize {text : String} (h : isIdentifier text = true) :
    ∀ c ∈ (capitalize text).toList, isIdentifierPart c = true := by
  intro d hd
  unfold isIdentifier at h
  unfold capitalize at hd
  split at h
  · cases h
  · rename_i c rest hchars
    obtain ⟨hstart, hrest⟩ := Bool.and_eq_true_iff.1 h
    rw [hchars] at hd
    dsimp only at hd
    rw [String.toList_ofList] at hd
    rcases List.mem_append.1 hd with hupper | hmem
    · by_cases hc : c = '_'
      · rw [hc] at hupper
        rw [List.mem_singleton.1 hupper]
        decide
      · exact (follows_upper hc d hupper).isIdentifierPart hstart
    · exact List.all_eq_true.1 hrest d hmem

/-! ## Splitting at the end -/

/-- If the last part is empty, then so is the text, or it ends with the separator. -/
theorem getLast?_of_splitList {separator : Char} {chars : List Char}
    (h : (splitList separator chars).getLast? = some []) :
    chars = [] ∨ chars.getLast? = some separator := by
  induction chars with
  | nil => exact .inl rfl
  | cons c chars ih =>
    obtain ⟨part, parts, hparts⟩ := List.exists_cons_of_ne_nil (splitList_ne_nil separator chars)
    rw [hparts] at ih
    right
    by_cases hc : c = separator
    · rw [splitList, if_pos (beq_iff_eq.2 hc), hparts, List.getLast?_cons_cons] at h
      rcases ih h with rfl | hlast
      · exact congrArg some hc
      · simp [List.getLast?_cons, hlast]
    · rw [splitList_cons_of_ne hc hparts] at h
      cases parts with
      | nil => cases h
      | cons =>
        rw [List.getLast?_cons_cons] at h
        rcases ih (by rwa [List.getLast?_cons_cons]) with rfl | hlast
        · cases hparts
        · simp [List.getLast?_cons, hlast]

end Text

namespace Name

/-! ## Derived names -/

/-- A name can be given to a type: it is an ASCII identifier and no keyword. -/
structure Usable (name : String) : Prop where
  isIdentifier : Text.isIdentifier name = true
  isAscii : Text.IsAscii name
  not_keyword : Text.isKeyword name = false

variable (text : String)

theorem isIdentifierPart_of_isIdentifierChar {c : Char} (h : isIdentifierChar c = true) :
    Text.isIdentifierPart c = true := by
  rw [Text.isIdentifierPart, if_pos (toNat_lt_of_isIdentifierChar h)]
  exact h

theorem mended_not_keyword (name : String) :
    Text.isKeyword (if Text.isKeyword name then name ++ "Type" else name) = false := by
  have hending : ∀ keyword ∈ Text.keywords, ¬"Type".toList <:+ keyword.toList := by decide
  split
  · rw [Text.isKeyword, ← Bool.not_eq_true, List.contains_iff_mem]
    intro hmem
    refine hending _ hmem ?_
    rw [String.toList_append]
    exact List.suffix_append _ _
  · rename_i hname
    simpa using hname

theorem identifier_not_keyword : Text.isKeyword (identifier text) = false := by
  unfold identifier
  split
  · decide
  · exact mended_not_keyword _

theorem identifier_usable : Usable (identifier text) := by
  obtain ⟨c, rest, hchars, hdigit, hall⟩ := identifier_chars text
  refine ⟨?_, fun d hd => ?_, identifier_not_keyword text⟩
  · have hc := (hall c List.mem_cons_self).1
    rw [Text.isIdentifier, hchars, Bool.and_eq_true, Text.isIdentifierStart,
      if_pos (toNat_lt_of_isIdentifierChar hc), List.all_eq_true]
    refine ⟨?_, fun d hd =>
      isIdentifierPart_of_isIdentifierChar (hall d (List.mem_cons_of_mem _ hd)).1⟩
    simpa [isIdentifierChar, Text.isAsciiAlphanumeric, hdigit] using hc
  · rw [hchars] at hd
    exact toNat_lt_of_isIdentifierChar (hall d hd).1

/-- What needs no mending stays as it is. -/
theorem identifier_eq_self {name : String} {c : Char} {rest : List Char}
    (hchars : name.toList = c :: rest) (hdigit : c.isDigit = false)
    (hall : ∀ d ∈ c :: rest, isIdentifierChar d = true) (hkeyword : Text.isKeyword name = false) :
    identifier name = name := by
  have hname : String.ofList (c :: rest) = name := by rw [← hchars, String.ofList_toList]
  unfold identifier
  rw [hchars, List.filter_eq_self.2 hall]
  dsimp only
  rw [hname, hdigit, if_neg Bool.false_ne_true, hkeyword, if_neg Bool.false_ne_true]

theorem identifier_idempotent : identifier (identifier text) = identifier text := by
  obtain ⟨c, rest, hchars, hdigit, hall⟩ := identifier_chars text
  exact identifier_eq_self hchars hdigit (fun d hd => (hall d hd).1) (identifier_not_keyword text)

theorem isSeparator_of_mem_cutWords {chars word : List Char} (h : word ∈ cutWords chars) {c : Char}
    (hc : c ∈ word) : isSeparator c = false := by
  induction chars generalizing word with
  | nil =>
    rw [List.mem_singleton.1 h] at hc
    cases hc
  | cons d chars ih =>
    rw [cutWords] at h
    split at h
    · rcases List.mem_cons.1 h with rfl | h
      · cases hc
      · exact ih h hc
    · rename_i hd
      split at h
      · rw [List.mem_singleton.1 h, List.mem_singleton] at hc
        simpa [hc] using hd
      · rename_i first words hwords
        rcases List.mem_cons.1 h with rfl | h
        · rcases List.mem_cons.1 hc with rfl | hc
          · simpa using hd
          · exact ih (hwords ▸ List.mem_cons_self) hc
        · exact ih (hwords ▸ List.mem_cons_of_mem _ h) hc

/-- Underscores separate words, and capital letters are none. -/
theorem underscore_notMem_pascalCase : '_' ∉ (pascalCase text).toList := by
  rw [pascalCase, String.toList_join, List.mem_flatMap]
  rintro ⟨_, hmem, hunderscore⟩
  obtain ⟨_, hcapital, rfl⟩ := List.mem_map.1 hmem
  obtain ⟨word, hword, rfl⟩ := List.mem_map.1 hcapital
  have hplain : ∀ c ∈ word, c ≠ '_' := by
    rintro c hc rfl
    have := isSeparator_of_mem_cutWords (List.mem_filter.1 hword).1 hc
    cases this
  rw [Text.capitalize, String.toList_ofList] at hunderscore
  cases word with
  | nil => cases hunderscore
  | cons c rest =>
    dsimp only at hunderscore
    rw [String.toList_ofList] at hunderscore
    rcases List.mem_append.1 hunderscore with hupper | hrest
    · exact (Text.follows_upper (hplain c List.mem_cons_self) _ hupper).ne_underscore rfl
    · exact hplain '_' (List.mem_cons_of_mem _ hrest) rfl

theorem underscore_notMem_ofText : '_' ∉ (ofText text).toList := by
  obtain ⟨c, rest, hchars, -, hall⟩ := identifier_chars (pascalCase text)
  rw [ofText, hchars]
  exact fun hmem => underscore_notMem_pascalCase text ((hall '_' hmem).2 rfl)

end Name

/-- A pointer into a document that does not end with a slash has a last segment. -/
theorem Pointer.exists_lastSegment {pointer : String} (hlocal : isLocal pointer = true)
    (hroot : ¬(pointer == root) = true) (hlast : pointer.toList.getLast? ≠ some '/') :
    ∃ segment, lastSegment pointer = .ok segment := by
  rw [isLocal, Bool.or_eq_true, or_iff_right hroot] at hlocal
  obtain ⟨path, hpath⟩ := Option.isSome_iff_exists.1 hlocal
  rw [path?_eq_some.1 hpath, String.toList_append, List.getLast?_append] at hlast
  have hne : path.toList ≠ [] := by
    intro hempty
    rw [hempty] at hlast
    exact hlast rfl
  obtain ⟨part, hpart⟩ := Option.isSome_iff_exists.1
    (List.getLast?_isSome.2 (Text.splitList_ne_nil '/' path.toList))
  have hlength : String.ofList part ≠ "" := by
    intro hempty
    rw [String.ofList_eq_empty_iff.1 hempty] at hpart
    refine (Text.getLast?_of_splitList hpart).elim hne fun hslash => hlast ?_
    rw [hslash]
    rfl
  have hsegment : (Text.split '/' path).getLastD "" = String.ofList part := by
    rw [Text.split, List.getLastD_eq_getLast?, List.getLast?_map, hpart]
    rfl
  have hsegments : segments pointer = .ok (Text.split '/' path) := by
    rw [segments, hpath]
    exact if_neg fun hempty => hne (by rw [String.isEmpty_iff.1 hempty]; rfl)
  refine ⟨String.ofList part, bind_eq_ok.2 ⟨_, hsegments, ?_⟩⟩
  dsimp only
  rw [hsegment, if_neg fun hempty => hlength (String.isEmpty_iff.1 hempty)]
  rfl

/-- Claiming a name that is visible only fails because it is reserved or another's. -/
theorem Registry.claim_eq_error_iff {registry : Registry} {name owner : String} {error : NameError}
    (hvisible : name.toList.head? ≠ some '_') :
    registry.claim name owner = .error error ↔
      isReserved name = true ∧ error = .reserved name owner ∨
      isReserved name = false ∧ ∃ existing, registry.used.get? name = some existing ∧
        existing ≠ owner ∧ error = .taken name existing owner := by
  unfold claim
  cases hreserved : isReserved name with
  | true => simp [@eq_comm _ _ error]
  | false =>
    rw [if_neg (by simpa using hvisible)]
    cases hused : registry.used.get? name with
    | none => simp
    | some existing =>
      by_cases howner : existing = owner
      · simp [howner]
      · simp [howner, @eq_comm _ _ error]

/-- **Derived names are always usable.** -/
theorem Name.derived_names_usable :
    (∀ text, Usable (ofText text) ∧ '_' ∉ (ofText text).toList ∧
      ∀ c, (ofText text).toList.head? = some c → c.isDigit = false) ∧
    (∀ text, Usable (identifier text) ∧ identifier (identifier text) = identifier text) ∧
    ∀ targets schemaPath pointer, Registry.explicitName? targets pointer = none →
      (Pointer.isLocal pointer = true → pointer.toList.getLast? ≠ some '/' →
        ∃ name, Registry.nameFor targets schemaPath pointer = .ok name) ∧
      ∀ name, Registry.nameFor targets schemaPath pointer = .ok name → Usable name ∧
        ∀ (registry : Registry) owner error, registry.claim name owner = .error error ↔
          Registry.isReserved name = true ∧ error = .reserved name owner ∨
          Registry.isReserved name = false ∧ ∃ existing,
            registry.used.get? name = some existing ∧ existing ≠ owner ∧
            error = .taken name existing owner := by
  refine ⟨fun text => ⟨identifier_usable _, underscore_notMem_ofText text, fun c hc => ?_⟩,
    fun text => ⟨identifier_usable text, identifier_idempotent text⟩,
    fun targets schemaPath pointer hnone => ⟨fun hlocal hlast => ?_,
      fun name hname => ?_⟩⟩
  · obtain ⟨first, rest, hchars, hdigit, -⟩ := identifier_chars (pascalCase text)
    rw [ofText, hchars] at hc
    exact Option.some.inj hc ▸ hdigit
  · rw [Registry.nameFor, hnone]
    dsimp only
    split
    · exact ⟨_, rfl⟩
    · rename_i hroot
      obtain ⟨segment, hsegment⟩ := Pointer.exists_lastSegment hlocal hroot hlast
      exact ⟨ofText segment, by rw [ofPointer, hsegment]; rfl⟩
  · rcases Registry.nameFor_cases hname with hgiven | ⟨-, text, -, rfl⟩
    · rw [hnone] at hgiven
      cases hgiven
    · exact ⟨identifier_usable _, fun registry owner error => Registry.claim_eq_error_iff
        fun hhead => underscore_notMem_ofText text (List.mem_of_head? hhead)⟩

/-- The theorem at a segment whose first character is dropped, so that a keyword is left. -/
theorem Name.derived_names_usable_keyword :
    Pointer.isLocal "#/$defs/$if" = true ∧
      Registry.nameFor [] "schema.json" "#/$defs/$if" = .ok "ifType" ∧ Usable "ifType" := by
  have hlocal : Pointer.isLocal "#/$defs/$if" = true := by decide
  obtain ⟨hderives, husable⟩ := derived_names_usable.2.2 [] "schema.json" "#/$defs/$if" rfl
  obtain ⟨name, hname⟩ := hderives hlocal (by decide)
  have hvalue : Registry.nameFor [] "schema.json" "#/$defs/$if" = .ok "ifType" := by decide +kernel
  obtain rfl := Except.ok.inj (hvalue.symm.trans hname)
  exact ⟨hlocal, hname, (husable _ hname).1⟩

/-! ## Names that continue others -/

namespace Name

theorem Part.isIdentifierPart {part : String} (h : Part part) {c : Char} (hc : c ∈ part.toList) :
    Text.isIdentifierPart c = true := by
  apply isIdentifierPart_of_isIdentifierChar
  cases h with
  | property text =>
    obtain ⟨first, rest, hchars, -, hall⟩ := identifier_chars (pascalCase text)
    rw [ofText, hchars] at hc
    exact (hall c hc).1
  | place hword =>
    have hwords : ∀ word ∈ ["Option", "Item", "Value", "Part"],
        word.toList.all isIdentifierChar = true := by decide
    exact List.all_eq_true.1 (hwords part hword) c hc
  | number n =>
    rw [Nat.toString_eq_repr, Nat.toList_repr] at hc
    simp [isIdentifierChar, Text.isAsciiAlphanumeric,
      Nat.isDigit_of_mem_toDigits (by decide) (by decide) hc]

/-- A part without capital letters and digits is derived from a text that does not start plainly. -/
theorem Part.of_small {part : String} (h : Part part)
    (hsmall : ∀ c ∈ part.toList, c.isUpper = false ∧ c.isDigit = false) :
    ∃ text, part = ofText text ∧ startsPlainly text = false := by
  cases h with
  | property text =>
    refine ⟨text, rfl, ?_⟩
    cases hplain : startsPlainly text with
    | false => rfl
    | true =>
      obtain ⟨c, hc, hupper⟩ := head_ofText hplain
      rw [(hsmall c (List.mem_of_head? hc)).1] at hupper
      cases hupper
  | place hword =>
    have hwords : ∀ word ∈ ["Option", "Item", "Value", "Part"],
        word.toList.any Char.isUpper = true := by decide
    obtain ⟨c, hc, hupper⟩ := List.any_eq_true.1 (hwords part hword)
    rw [(hsmall c hc).1] at hupper
    cases hupper
  | number n =>
    obtain ⟨c, hc⟩ := List.exists_mem_of_ne_nil (Nat.toDigits 10 n)
      (List.ne_nil_of_length_pos Nat.length_toDigits_pos)
    have hdigit := Nat.isDigit_of_mem_toDigits (by decide) (by decide) hc
    rw [← Nat.toList_repr, ← Nat.toString_eq_repr] at hc
    rw [(hsmall c hc).2] at hdigit
    cases hdigit

/-- **What completes a keyword** are names for texts that do not start plainly. -/
theorem Continues.of_keyword {name base : String} (h : Continues name base) (hbase : base ≠ "")
    (hkeyword : Text.isKeyword name = true) :
    ∃ texts : List String, name = base ++ String.join (texts.map ofText) ∧
      ∀ text ∈ texts, startsPlainly text = false := by
  have htails : ∀ keyword ∈ Text.keywords,
      (keyword.toList.drop 1).all (fun c => !c.isUpper && !c.isDigit) = true := by decide
  have hsmall : ∀ c ∈ name.toList.drop 1, c.isUpper = false ∧ c.isDigit = false := by
    simpa using List.all_eq_true.1 (htails name (List.contains_iff_mem.1 hkeyword))
  obtain ⟨parts, hparts, rfl⟩ := h
  obtain ⟨c, rest, hchars⟩ := List.exists_cons_of_ne_nil (mt String.toList_eq_nil_iff.1 hbase)
  rw [String.toList_append, hchars, List.cons_append, List.drop_one, List.tail_cons,
    String.toList_join] at hsmall
  have htexts : ∀ part ∈ parts, ∃ text, part = ofText text ∧ startsPlainly text = false :=
    fun part hmem => (hparts part hmem).of_small fun d hd =>
      hsmall d (List.mem_append_right _ (List.mem_flatMap.2 ⟨part, hmem, hd⟩))
  choose! textOf htextOf using htexts
  have hmap : (parts.map textOf).map ofText = parts := by
    rw [List.map_map]
    exact (List.map_congr_left fun part hmem => (htextOf part hmem).1.symm).trans (List.map_id _)
  refine ⟨parts.map textOf, by rw [hmap], fun text hmem => ?_⟩
  obtain ⟨part, hpart, rfl⟩ := List.mem_map.1 hmem
  exact (htextOf part hpart).2

end Name

theorem Target.isName_of_parse {text name : String} {target : Target}
    (h : parse text = .ok target) (hname : target.name = some name) : isName name = true := by
  by_cases hequals : '=' ∈ text.toList
  · obtain ⟨_, -, -, -, -, hvalid⟩ := (parse_eq_ok_iff hequals).1 h
    exact hvalid name hname
  · rw [parse, if_pos (by simpa using hequals)] at h
    cases h
    cases hname

/-! ## All names of a module -/

namespace Module

variable {document : Json} {schemaPath : String} {targets : List Target}
  {module : Module} {run : Run}

theorem Registered.typeName_legal {registry : Registry} {entry : Entry}
    (h : Registered document schemaPath targets module run registry)
    (htargets : ∀ target ∈ targets, ∃ text, Target.parse text = .ok target)
    (hentry : entry ∈ module.entries) :
    Text.isIdentifier entry.typeName = true ∧ Text.isKeyword entry.typeName = false := by
  rcases h.typeName_cases hentry with hgiven | ⟨-, text, -, hname⟩
  · obtain ⟨-, target, hmem, -, hname⟩ := Registry.explicitName?_eq_some hgiven
    obtain ⟨text, htext⟩ := htargets target hmem
    simpa [Target.isName] using Target.isName_of_parse htext hname
  · rw [hname]
    exact ⟨(Name.identifier_usable _).isIdentifier, (Name.identifier_usable _).not_keyword⟩

theorem function_not_keyword (entry : Entry) {name : String}
    (h : name = Name.validator entry.typeName ∨ name = Name.parser entry.typeName) :
    Text.isKeyword name = false := by
  have hstarts : ∀ keyword ∈ Text.keywords,
      ¬"validate".toList <+: keyword.toList ∧ ¬"parse".toList <+: keyword.toList := by decide
  rw [Text.isKeyword, ← Bool.not_eq_true, List.contains_iff_mem]
  intro hmem
  rcases h with rfl | rfl
  · refine (hstarts _ hmem).1 ?_
    rw [Name.validator, String.toList_append]
    exact List.prefix_append _ _
  · refine (hstarts _ hmem).2 ?_
    rw [Name.parser, String.toList_append]
    exact List.prefix_append _ _

/-- **All names of a module are identifiers**, and all but those of hoisted declarations are no
keywords. Such a name is one only if it was completed by names for texts that start with neither a
letter nor a digit. -/
theorem names_legal (htargets : ∀ target ∈ targets, ∃ text, Target.parse text = .ok target)
    (h : ofDocument document schemaPath targets = (.ok module, run)) :
    (∀ name ∈ module.boundNames, Text.isIdentifier name = true) ∧
    ∀ entry ∈ module.entries,
      (∀ name ∈ entry.typeName :: entry.functionNames, Text.isKeyword name = false) ∧
      ∀ declaration ∈ entry.declarations, Text.isKeyword declaration.name = true →
        ∃ texts : List String,
          declaration.name = entry.typeName ++ String.join (texts.map Name.ofText) ∧ texts ≠ [] ∧
          ∀ text ∈ texts, Name.startsPlainly text = false := by
  obtain ⟨registry, -, hregistered, -⟩ := exists_registered h
  constructor
  · intro name hname
    obtain ⟨entry, hentry, hcases⟩ := hregistered.bound_cases hname
    have htype := (hregistered.typeName_legal htargets hentry).1
    rcases hcases with ⟨parts, hparts, rfl⟩ | rfl | rfl
    · refine Text.isIdentifier_append htype fun c hc => ?_
      rw [String.toList_join] at hc
      obtain ⟨part, hmem, hc⟩ := List.mem_flatMap.1 hc
      exact (hparts part hmem).isIdentifierPart hc
    · exact Text.isIdentifier_append (by decide) (Text.isIdentifierPart_capitalize htype)
    · exact Text.isIdentifier_append (by decide) (Text.isIdentifierPart_capitalize htype)
  · intro entry hentry
    have htype := (hregistered.typeName_legal htargets hentry).2
    refine ⟨fun name hname => ?_, fun declaration hmem hkeyword => ?_⟩
    · rcases List.mem_cons.1 hname with rfl | hfunction
      · exact htype
      · rw [hregistered.functionNames_eq hentry] at hfunction
        refine function_not_keyword entry
          ((List.mem_cons.1 hfunction).imp_right fun hparser => ?_)
        split at hparser
        · exact List.mem_singleton.1 hparser
        · cases hparser
    · obtain ⟨node, hmade⟩ := hregistered.madeBy entry hentry
      obtain ⟨texts, hname, hplain⟩ := (hmade.declared_continues.1 _ hmem).of_keyword
        (hregistered.typeName_ne_empty hentry) hkeyword
      refine ⟨texts, hname, ?_, hplain⟩
      rintro rfl
      rw [hname, List.map_nil, String.join_nil, String.append_empty, htype] at hkeyword
      cases hkeyword

/-- Objects with a property whose name starts with a character that is dropped. -/
def clippedSchema (property : String) : Json :=
  .object [("type", .string "object"), ("properties", .object [
    (property, .object [("type", .string "object"), ("properties", .object [])])])]

/-- The theorem at a given name that a property completes. -/
theorem names_legal_clipped :
    Target.parse "path=#,name=i" = .ok ⟨"#", some "i"⟩ ∧ ∃ module run,
      ofDocument (clippedSchema "$f") "schema.json" [⟨"#", some "i"⟩] = (.ok module, run) ∧
      "if" ∈ module.boundNames ∧ Text.isIdentifier "if" = true ∧
      ∃ texts : List String, "if" = "i" ++ String.join (texts.map Name.ofText) ∧ texts ≠ [] ∧
        ∀ text ∈ texts, Name.startsPlainly text = false := by
  have hparse : Target.parse "path=#,name=i" = .ok ⟨"#", some "i"⟩ := by decide +kernel
  have hruns : generates (clippedSchema "$f") "schema.json" [⟨"#", some "i"⟩] (fun module _ =>
      module.boundNames.contains "if" && module.entries.any fun entry =>
        entry.typeName == "i" && entry.declarations.any (·.name == "if")) = true := by
    decide +kernel
  obtain ⟨module, run, hgenerated, htest⟩ := exists_of_generates hruns
  simp only [Bool.and_eq_true, List.contains_iff_mem, List.any_eq_true, beq_iff_eq] at htest
  obtain ⟨hbound, entry, hentry, htype, declaration, hmem, hname⟩ := htest
  obtain ⟨hidentifiers, hkeywords⟩ := names_legal (by simpa using ⟨_, hparse⟩) hgenerated
  have hcompleted := (hkeywords entry hentry).2 declaration hmem (by rw [hname]; decide)
  rw [hname, htype] at hcompleted
  exact ⟨hparse, module, run, hgenerated, hbound, hidentifiers _ hbound, hcompleted⟩

/-- **A property can complete the name of a type to a keyword**: nothing can be declared by it. -/
theorem property_completes_keyword :
    ∃ module run,
      ofDocument (clippedSchema "$one") "n.json" [] = (.ok module, run) ∧
      "None" ∈ module.boundNames ∧ Text.isKeyword "None" = true := by
  have hruns : generates (clippedSchema "$one") "n.json" []
      (fun module _ => module.boundNames.contains "None") = true := by decide +kernel
  obtain ⟨module, run, hgenerated, hbound⟩ := exists_of_generates hruns
  exact ⟨module, run, hgenerated, List.contains_iff_mem.1 hbound, by decide⟩

end Module

end SchemaGuard
