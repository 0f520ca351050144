import Mathlib.Data.List.SplitBy
import SchemaGuard.Pointer

/-!
# Escaping keys

A key is written into a pointer with its `~`, `/` and `%` escaped, and a segment of a pointer is
decoded before it is looked up. Decoding undoes escaping (`unescape_escape`) by taking back three
steps in turn, and it leaves alone what has neither `~` nor `%` in it (`unescape_eq_self`).

- Percent signs. They are decoded in runs of ASCII characters. Writing `%25` for `%` changes
  neither where the runs begin nor where they end, so decoding can be followed run by run.
- Slashes. In what was escaped every `~` is followed by `0` or by `1`, and by `1` only where a slash
  was.
- Tildes. The `~` that are left are all followed by the `0` that they were written with.
-/

namespace SchemaGuard

/-! ## Replacing characters -/

namespace Text

/-- Writes a text for every occurrence of a character. -/
def replaceChar (c : Char) (text chars : List Char) : List Char :=
  chars.flatMap fun d => if d = c then text else [d]

variable {c : Char} {chars : List Char}

theorem replaceChar_cons_self (c : Char) (text chars : List Char) :
    replaceChar c text (c :: chars) = text ++ replaceChar c text chars := by
  rw [replaceChar, List.flatMap_cons, if_pos rfl]
  rfl

theorem replaceChar_cons_of_ne {d : Char} (h : d ≠ c) (text chars : List Char) :
    replaceChar c text (d :: chars) = d :: replaceChar c text chars := by
  rw [replaceChar, List.flatMap_cons, if_neg h]
  rfl

theorem notMem_replaceChar {d : Char} {text : List Char} (htext : d ∉ text)
    (hchars : d ∈ chars → d = c) : d ∉ replaceChar c text chars := by
  intro hmem
  obtain ⟨e, he, hd⟩ := List.mem_flatMap.1 hmem
  split at hd
  · exact htext hd
  · rename_i hne
    obtain rfl := List.mem_singleton.1 hd
    exact hne (hchars he)

theorem replaceChar_eq_self {text : List Char} (h : c ∉ chars) :
    replaceChar c text chars = chars := by
  induction chars with
  | nil => rfl
  | cons d chars ih =>
    obtain ⟨hd, hchars⟩ := not_or.1 (mt List.mem_cons.2 h)
    rw [replaceChar_cons_of_ne (Ne.symm hd), ih hchars]

/-! ## ASCII -/

/-- An ASCII character is read from its one byte. -/
theorem Utf8.next_ascii (h : Percent.isAscii c = true) (rest : List UInt8) :
    Utf8.next (UInt8.ofNat c.toNat) rest = .ok (c, 1) := by
  have hlt : c.toNat < 128 := of_decide_eq_true h
  have hbyte : (UInt8.ofNat c.toNat).toNat = c.toNat := by
    rw [UInt8.toNat_ofNat']
    omega
  have hlead : Utf8.lead? c.toNat = some (c.toNat, 0, 0, 0) := if_pos hlt
  simp only [Utf8.next, hbyte, hlead, Utf8.continue_, Char.ofNat_toNat]

theorem Utf8.decodeFrom_ascii (replace : List UInt8 → List Char) {run : List Char}
    (h : run.all Percent.isAscii = true) :
    Utf8.decodeFrom replace 0 (run.map fun c => UInt8.ofNat c.toNat) = run := by
  induction run with
  | nil => rfl
  | cons c run ih =>
    rw [List.all_cons, Bool.and_eq_true] at h
    rw [List.map_cons, Utf8.decodeFrom, Utf8.next_ascii h.1]
    dsimp only
    rw [ih h.2]

/-! ## Percent signs -/

namespace Percent

/-- Percent signs written as what stands for them. -/
def encode (chars : List Char) : List Char := replaceChar '%' ['%', '2', '5'] chars

variable {chars run : List Char}

@[simp] theorem encode_nil : encode [] = [] := rfl

theorem encode_percent (chars : List Char) :
    encode ('%' :: chars) = '%' :: '2' :: '5' :: encode chars := replaceChar_cons_self _ _ _

theorem encode_cons {c : Char} (h : c ≠ '%') (chars : List Char) :
    encode (c :: chars) = c :: encode chars := replaceChar_cons_of_ne h _ _

theorem bytes_encode (chars : List Char) :
    bytes (encode chars) = chars.map fun c => UInt8.ofNat c.toNat := by
  induction chars with
  | nil => rfl
  | cons c chars ih =>
    by_cases hc : c = '%'
    · subst hc
      rw [encode_percent, bytes, List.map_cons, ← ih]
      rfl
    · rw [encode_cons hc, bytes.eq_2 c _ fun a b rest hsame => (hc hsame).elim, List.map_cons, ih]

theorem all_isAscii_encode (chars : List Char) :
    (encode chars).all isAscii = chars.all isAscii := by
  induction chars with
  | nil => rfl
  | cons c chars ih =>
    by_cases hc : c = '%'
    · subst hc
      rw [encode_percent, List.all_cons, List.all_cons, List.all_cons, List.all_cons, ih]
      rfl
    · rw [encode_cons hc, List.all_cons, List.all_cons, ih]

theorem head?_encode (chars : List Char) : (encode chars).head? = chars.head? := by
  cases chars with
  | nil => rfl
  | cons c chars =>
    by_cases hc : c = '%'
    · rw [hc, encode_percent, List.head?_cons, List.head?_cons]
    · rw [encode_cons hc, List.head?_cons, List.head?_cons]

theorem encode_append (start rest : List Char) :
    encode (start ++ rest) = encode start ++ encode rest := List.flatMap_append

theorem encode_flatten (runs : List (List Char)) :
    encode runs.flatten = (runs.map encode).flatten := by
  induction runs with
  | nil => rfl
  | cons run runs ih => rw [List.flatten_cons, encode_append, ih, List.map_cons, List.flatten_cons]

theorem encode_ne_nil (h : chars ≠ []) : encode chars ≠ [] := by
  intro hempty
  have hhead := head?_encode chars
  rw [hempty, List.head?_nil] at hhead
  exact h (List.head?_eq_none_iff.1 hhead.symm)

/-- The last character of an encoded text is of the kind of the last character of the text. -/
theorem isAscii_getLast_encode (h : chars ≠ []) :
    isAscii ((encode chars).getLast (encode_ne_nil h)) = isAscii (chars.getLast h) := by
  rcases List.eq_nil_or_concat' chars with hempty | ⟨start, c, rfl⟩
  · exact absurd hempty h
  · by_cases hc : c = '%'
    · subst hc
      simp [encode_append, encode_percent, isAscii]
    · simp [encode_append, encode_cons hc]

/-- Runs of one kind stay runs of one kind. -/
theorem isChain_encode (h : chars.IsChain fun a b => (isAscii a == isAscii b) = true) :
    (encode chars).IsChain fun a b => (isAscii a == isAscii b) = true := by
  induction chars with
  | nil => exact .nil
  | cons c chars ih =>
    obtain ⟨hfirst, hrest⟩ := List.isChain_cons.1 h
    rw [← head?_encode] at hfirst
    by_cases hc : c = '%'
    · subst hc
      rw [encode_percent]
      refine .cons_cons rfl (.cons_cons rfl (List.isChain_cons.2 ⟨?_, ih hrest⟩))
      exact hfirst
    · rw [encode_cons hc]
      exact List.isChain_cons.2 ⟨hfirst, ih hrest⟩

/-- The runs of an encoded text are the encoded runs of the text. -/
theorem splitBy_encode (chars : List Char) :
    (encode chars).splitBy (fun a b => isAscii a == isAscii b) =
      (chars.splitBy fun a b => isAscii a == isAscii b).map encode := by
  obtain ⟨hflatten, hnil, hchains, hbreaks⟩ :=
    List.splitBy_eq_iff.1 (Eq.refl (chars.splitBy fun a b => isAscii a == isAscii b))
  refine List.splitBy_eq_iff.2 ⟨?_, ?_, ?_, ?_⟩
  · rw [← encode_flatten, ← hflatten]
  · intro hmem
    obtain ⟨run, hrun, hempty⟩ := List.mem_map.1 hmem
    have hne : run ≠ [] := fun hsame => hnil (hsame ▸ hrun)
    exact encode_ne_nil hne hempty
  · intro run hrun
    obtain ⟨plain, hplain, rfl⟩ := List.mem_map.1 hrun
    exact isChain_encode (hchains plain hplain)
  · rw [List.isChain_map]
    refine hbreaks.imp ?_
    rintro run next ⟨hrun, hnext, hdiffer⟩
    refine ⟨encode_ne_nil hrun, encode_ne_nil hnext, ?_⟩
    have hhead : (encode next).head (encode_ne_nil hnext) = next.head hnext := by
      rw [List.head_eq_iff_head?_eq_some, head?_encode, List.head?_eq_some_head hnext]
    rw [isAscii_getLast_encode hrun, hhead]
    exact hdiffer

/-- The characters of a run are all of the kind of the first. -/
theorem isAscii_eq_of_isChain {first c : Char}
    (h : (first :: run).IsChain fun a b => (isAscii a == isAscii b) = true)
    (hc : c ∈ first :: run) : isAscii c = isAscii first := by
  induction run generalizing first with
  | nil => rw [List.mem_singleton.1 hc]
  | cons next run ih =>
    obtain ⟨hnext, hrest⟩ := List.isChain_cons_cons.1 h
    rcases List.mem_cons.1 hc with rfl | hc
    · rfl
    · rw [ih hrest hc, eq_of_beq hnext]

theorem all_isAscii_of_percent (h : run.IsChain fun a b => (isAscii a == isAscii b) = true)
    (hpercent : '%' ∈ run) :
    run.all isAscii = true := by
  cases run with
  | nil => cases hpercent
  | cons first run =>
    have hfirst : isAscii first = true := (isAscii_eq_of_isChain h hpercent).symm
    rw [List.all_eq_true]
    intro c hc
    rw [isAscii_eq_of_isChain h hc, hfirst]

/-- A run is ASCII, and its bytes are decoded, or it has no percent sign. -/
theorem decodeRun_encode (h : run.IsChain fun a b => (isAscii a == isAscii b) = true) :
    decodeRun (encode run) = run := by
  by_cases hascii : run.all isAscii = true
  · rw [decodeRun, all_isAscii_encode, if_pos hascii, bytes_encode, Utf8.decodeLossy,
      String.toList_ofList, Utf8.decodeFrom_ascii _ hascii]
  · have hsame : encode run = run := by
      refine replaceChar_eq_self fun hpercent => ?_
      exact hascii (all_isAscii_of_percent h hpercent)
    rw [decodeRun, all_isAscii_encode, if_neg hascii, hsame]

/-- **Decoding gives back the text that was encoded.** -/
theorem decode_encode (chars : List Char) :
    decode (String.ofList (encode chars)) = String.ofList chars := by
  have hruns : ∀ run ∈ chars.splitBy fun a b => isAscii a == isAscii b,
      (decodeRun ∘ encode) run = run :=
    fun run hrun => decodeRun_encode (List.isChain_of_mem_splitBy hrun)
  rw [decode, String.toList_ofList, splitBy_encode, List.flatMap_def, List.map_map,
    List.map_congr_left hruns, List.map_id', List.flatten_splitBy]

theorem decode_eq_self {text : String} (h : '%' ∉ text.toList) : decode text = text := by
  have hdecode := decode_encode text.toList
  rw [encode, replaceChar_eq_self h, String.ofList_toList] at hdecode
  exact hdecode

end Percent

/-! ## Slashes and tildes -/

variable {first : Char}

theorem replacePair_cons_of_ne (h : c ≠ first) (second replacement : Char) (chars : List Char) :
    replacePair first second replacement (c :: chars) =
      c :: replacePair first second replacement chars := by
  cases chars with
  | nil => rfl
  | cons next chars => rw [replacePair, if_neg (by simp [h])]

theorem replacePair_eq_self (second replacement : Char) (h : first ∉ chars) :
    replacePair first second replacement chars = chars := by
  induction chars with
  | nil => rfl
  | cons c chars ih =>
    obtain ⟨hc, hchars⟩ := not_or.1 (mt List.mem_cons.2 h)
    rw [replacePair_cons_of_ne (Ne.symm hc), ih hchars]

theorem replacePair_pair (first second replacement : Char) (chars : List Char) :
    replacePair first second replacement (first :: second :: chars) =
      replacement :: replacePair first second replacement chars := by
  rw [replacePair, if_pos (by simp)]

theorem replacePair_other {second : Char} (h : c ≠ second) (replacement : Char) (chars : List Char)
    :
    replacePair first second replacement (first :: c :: chars) =
      first :: replacePair first second replacement (c :: chars) := by
  rw [replacePair, if_neg (by simp [h])]

/-- In a text with its tildes escaped, `~1` stands for slashes only. -/
theorem replacePair_slashes (chars : List Char) :
    replacePair '~' '1' '/' (replaceChar '/' ['~', '1'] (replaceChar '~' ['~', '0'] chars)) =
      replaceChar '~' ['~', '0'] chars := by
  induction chars with
  | nil => rfl
  | cons c chars ih =>
    by_cases htilde : c = '~'
    · subst htilde
      rw [replaceChar_cons_self, List.cons_append, List.singleton_append,
        replaceChar_cons_of_ne (by decide), replaceChar_cons_of_ne (by decide),
        replacePair_other (by decide), replacePair_cons_of_ne (by decide), ih]
    · rw [replaceChar_cons_of_ne htilde]
      by_cases hslash : c = '/'
      · subst hslash
        rw [replaceChar_cons_self, List.cons_append, List.singleton_append, replacePair_pair, ih]
      · rw [replaceChar_cons_of_ne hslash, replacePair_cons_of_ne htilde, ih]

theorem replacePair_tildes (chars : List Char) :
    replacePair '~' '0' '~' (replaceChar '~' ['~', '0'] chars) = chars := by
  induction chars with
  | nil => rfl
  | cons c chars ih =>
    by_cases htilde : c = '~'
    · subst htilde
      rw [replaceChar_cons_self, List.cons_append, List.singleton_append, replacePair_pair, ih]
    · rw [replaceChar_cons_of_ne htilde, replacePair_cons_of_ne htilde, ih]

end Text

/-! ## Keys and segments -/

namespace Pointer

/-- A key as a segment: `~0` for a tilde, `~1` for a slash and then `%25` for a percent sign. -/
def escape (name : String) : String :=
  String.ofList (Text.replaceChar '%' ['%', '2', '5']
    (Text.replaceChar '/' ['~', '1'] (Text.replaceChar '~' ['~', '0'] name.toList)))

/-- **Decoding undoes escaping.** -/
theorem unescape_escape (name : String) : unescape (escape name) = name := by
  have hdecode : Text.Percent.decode (escape name) = String.ofList
      (Text.replaceChar '/' ['~', '1'] (Text.replaceChar '~' ['~', '0'] name.toList)) :=
    Text.Percent.decode_encode _
  rw [unescape, hdecode, String.toList_ofList, Text.replacePair_slashes, Text.replacePair_tildes,
    String.ofList_toList]

theorem slash_notMem_escape (name : String) : '/' ∉ (escape name).toList := by
  rw [escape, String.toList_ofList]
  refine Text.notMem_replaceChar (by decide) fun hmem => absurd hmem ?_
  exact Text.notMem_replaceChar (by decide) fun _ => rfl

/-- A pointer in which nothing has to be decoded. -/
def Unescaped (ref : String) : Prop := '~' ∉ ref.toList ∧ '%' ∉ ref.toList

instance (ref : String) : Decidable (Unescaped ref) := inferInstanceAs (Decidable (_ ∧ _))

theorem unescape_eq_self {segment : String} (h : Unescaped segment) :
    unescape segment = segment := by
  rw [unescape, Text.Percent.decode_eq_self h.2, Text.replacePair_eq_self _ _ h.1,
    Text.replacePair_eq_self _ _ h.1, String.ofList_toList]

end Pointer

end SchemaGuard
