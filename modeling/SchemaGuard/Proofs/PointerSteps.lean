import Mathlib.Data.List.TakeWhile
import SchemaGuard.Proofs.Parsing

/-!
# Following pointers step by step

A pointer is cut at its slashes, and each segment is one step into the document. Cutting undoes
joining (`splitList_append`), and a position that is written in decimal is read back
(`index_toString`), so a pointer that is longer by a segment is followed by one more step
(`resolve_append`).

An index of more than `Json.maxDigits` digits is refused. `Json.indexable` says of an array that no
position in it needs so many.
-/

namespace SchemaGuard

/-! ## Cutting what was joined -/

namespace Text

variable {separator : Char} {c : Char} {chars : List Char}

theorem splitList_ne_nil (separator : Char) (chars : List Char) :
    splitList separator chars ≠ [] := by
  cases chars with
  | nil => simp [splitList]
  | cons c chars =>
    rw [splitList]
    split
    · simp
    · split <;> simp

theorem splitList_cons_of_ne (h : c ≠ separator) {part : List Char} {parts : List (List Char)}
    (hparts : splitList separator chars = part :: parts) :
    splitList separator (c :: chars) = (c :: part) :: parts := by
  rw [splitList, if_neg (by simpa using h), hparts]

/-- Cutting at one separator and then on either side of it. -/
theorem splitList_append (separator : Char) (before after : List Char) :
    splitList separator (before ++ separator :: after) =
      splitList separator before ++ splitList separator after := by
  induction before with
  | nil => simp [splitList]
  | cons c before ih =>
    by_cases hc : c = separator
    · simp [splitList, hc, ih]
    · obtain ⟨part, parts, hparts⟩ := List.exists_cons_of_ne_nil (splitList_ne_nil separator before)
      rw [hparts] at ih
      rw [splitList_cons_of_ne hc hparts, List.cons_append, splitList_cons_of_ne hc ih]
      rfl

theorem splitList_of_notMem (h : separator ∉ chars) : splitList separator chars = [chars] := by
  induction chars with
  | nil => rfl
  | cons c chars ih =>
    obtain ⟨hc, hchars⟩ := not_or.1 (mt List.mem_cons.2 h)
    exact splitList_cons_of_ne (Ne.symm hc) (ih hchars)

theorem split_of_notMem {text : String} (h : separator ∉ text.toList) :
    split separator text = [text] := by
  rw [split, splitList_of_notMem h, List.map_singleton, String.ofList_toList]

theorem split_append {mark : String} (hmark : mark.toList = [separator]) (before after : String) :
    split separator (before ++ mark ++ after) = split separator before ++ split separator after := by
  rw [split, String.toList_append, String.toList_append, List.append_assoc, hmark]
  exact (congrArg _ (splitList_append separator before.toList after.toList)).trans List.map_append

/-! ## Decimal digits -/

theorem decimalValue?_of_isDigit (h : c.isDigit = true) :
    decimalValue? c = some (c.toNat - '0'.toNat) := by
  obtain ⟨hlow, hhigh⟩ := Char.isDigit_iff_toNat.1 h
  have hrange : 48 ≤ c.toNat ∧ c.toNat < 58 := ⟨hlow, Nat.lt_succ_of_le hhigh⟩
  rw [decimalValue?, decimalZeros, List.find?_cons_of_pos (by simpa using hrange)]
  rfl

theorem foldl_decimalValue? {digits : List Char} (h : ∀ c ∈ digits, c.isDigit = true)
    (start : Nat) :
    digits.foldl (fun number? c => do return 10 * (← number?) + (← decimalValue? c)) (some start) =
      some (Nat.ofDigitChars 10 digits start) := by
  induction digits generalizing start with
  | nil => rfl
  | cons c digits ih =>
    rw [List.foldl_cons, decimalValue?_of_isDigit (h c (by simp)), Nat.ofDigitChars_cons]
    exact ih (fun d hd => h d (by simp [hd])) _

/-- A number is read back from its digits. -/
theorem decimalNumber?_toDigits (n : Nat) : decimalNumber? (Nat.toDigits 10 n) = some n := by
  have hdigits : ∀ c ∈ Nat.toDigits 10 n, c.isDigit = true :=
    fun c hc => Nat.isDigit_of_mem_toDigits (by decide) (by decide) hc
  rw [decimalNumber?, foldl_decimalValue? hdigits, Nat.ofDigitChars_ten_toDigits]

end Text

/-! ## Documents of which every part passes a test -/

namespace Json

mutual

/-- Whether a document and every value in it pass a test. -/
def all (test : Json → Bool) : Json → Bool
  | array items => test (array items) && allItems test items
  | object members => test (object members) && allMembers test members
  | value => test value

def allItems (test : Json → Bool) : List Json → Bool
  | [] => true
  | item :: items => all test item && allItems test items

def allMembers (test : Json → Bool) : List (String × Json) → Bool
  | [] => true
  | (_, member) :: members => all test member && allMembers test members

end

variable {test : Json → Bool} {document inner : Json} {items : List Json}
  {members : List (String × Json)}

theorem allItems_iff : allItems test items = true ↔ ∀ item ∈ items, item.all test = true := by
  induction items with
  | nil => simp [allItems]
  | cons item items ih => simp [allItems, ih]

theorem allMembers_iff :
    allMembers test members = true ↔ ∀ entry ∈ members, entry.2.all test = true := by
  induction members with
  | nil => simp [allMembers]
  | cons entry members ih => simp [allMembers, ih]

theorem all_self (h : document.all test = true) : test document = true := by
  cases document with
  | array items => exact (Bool.and_eq_true_iff.1 h).1
  | object members => exact (Bool.and_eq_true_iff.1 h).1
  | null | bool | number | string => exact h

theorem all_item {item : Json} (h : (array items).all test = true) (hmem : item ∈ items) :
    item.all test = true :=
  allItems_iff.1 (Bool.and_eq_true_iff.1 h).2 item hmem

theorem all_member {name : String} {member : Json} (h : (object members).all test = true)
    (hmem : (name, member) ∈ members) : member.all test = true :=
  allMembers_iff.1 (Bool.and_eq_true_iff.1 h).2 (name, member) hmem

theorem all_inside (h : document.all test = true) (hinside : inner.Inside document) :
    inner.all test = true := by
  induction hinside with
  | item hmem => exact all_item h hmem
  | member hmem => exact all_member h hmem
  | trans _ _ ih ih' => exact ih (ih' h)

theorem all_within (h : document.all test = true) (hwithin : inner.Within document) :
    inner.all test = true := by
  rcases hwithin with rfl | hinside
  · exact h
  · exact all_inside h hinside

/-- Whether every position of an array is written in at most `maxDigits` digits. -/
def indexable : Json → Bool
  | array items => items.length ≤ Nat.pow 10 maxDigits
  | _ => true

end Json

/-! ## Steps -/

namespace Pointer

variable {n : Nat} {ref : String} {document : Json} {c : Char} {items : List Json}
  {item next : Json} {ref' segment : String}

theorem toList_toString (n : Nat) : (toString n).toList = Nat.toDigits 10 n := by
  rw [Nat.toString_eq_repr, Nat.toList_repr]

theorem isDigit_of_mem_toString (h : c ∈ (toString n).toList) : c.isDigit = true := by
  rw [toList_toString] at h
  exact Nat.isDigit_of_mem_toDigits (by decide) (by decide) h

theorem notMem_toString (h : c.isDigit = false) (n : Nat) : c ∉ (toString n).toList := by
  intro hmem
  rw [isDigit_of_mem_toString hmem] at h
  cases h

theorem isIndex_toString (n : Nat) : isIndex (toString n) = true := by
  have hempty : (toString n).isEmpty = false := by simp
  rw [isIndex, hempty, Bool.not_false, Bool.true_and, List.all_eq_true]
  intro c hc
  rw [Text.isDigit, Text.decimalValue?_of_isDigit (isDigit_of_mem_toString hc)]
  rfl

theorem length_toDigits_le {count : Nat} (hcount : 0 < count) (h : n < Nat.pow 10 count) :
    (Nat.toDigits 10 n).length ≤ count :=
  (Nat.length_toDigits_le_iff (by decide) hcount).2 h

theorem index_toString (h : n < Nat.pow 10 Json.maxDigits) :
    index (toString n) = .ok n := by
  have hall : ∀ c ∈ Nat.toDigits 10 n, (Text.decimalValue? c).isSome = true := by
    intro c hc
    rw [Text.decimalValue?_of_isDigit (Nat.isDigit_of_mem_toDigits (by decide) (by decide) hc)]
    rfl
  rw [index, toList_toString, List.takeWhile_eq_self_iff.2 hall,
    if_neg (Nat.not_lt.2 (length_toDigits_le (by decide) h)), Text.decimalNumber?_toDigits]

theorem item?_toString (hitem : items[n]? = some item)
    (hindexable : (Json.array items).indexable = true) :
    item? items (toString n) = .ok (some item) := by
  have hlt : n < items.length := (List.getElem?_eq_some_iff.1 hitem).1
  have hlength : items.length ≤ Nat.pow 10 Json.maxDigits := of_decide_eq_true hindexable
  rw [item?, isIndex_toString, if_pos rfl, index_toString (Nat.lt_of_lt_of_le hlt hlength)]
  exact congrArg Except.ok hitem

theorem step_key (ref : String) {members : List (String × Json)} {name : String} {member : Json}
    (h : Table.get? members name = some member) : step ref (.object members) name = .ok member := by
  simp only [step, h]

theorem step_position (ref : String) (hitem : items[n]? = some item)
    (hindexable : (Json.array items).indexable = true) :
    step ref (.array items) (toString n) = .ok item := by
  simp only [step, item?_toString hitem hindexable]

/-- A step that leads somewhere does so whatever pointer it is a step of. -/
theorem step_change {current : Json} (h : step ref current segment = .ok next) :
    step ref' current segment = .ok next := by
  cases current with
  | object members =>
    simp only [step] at h ⊢
    cases hget : Table.get? members segment with
    | none => simp [hget] at h
    | some member => simpa [hget] using h
  | array items =>
    simp only [step] at h ⊢
    cases hitem : item? items segment with
    | error error => simp [hitem] at h
    | ok found =>
      cases found with
      | none => simp [hitem] at h
      | some item => simpa [hitem] using h
  | null | bool | number | string => simp [step] at h

theorem foldlM_step_change {segments : List String} {found : Json}
    (h : segments.foldlM (step ref) document = .ok found) :
    segments.foldlM (step ref') document = .ok found := by
  induction segments generalizing document with
  | nil => exact h
  | cons segment segments ih =>
    rw [List.foldlM_cons, bind_eq_ok] at h ⊢
    obtain ⟨next, hstep, h⟩ := h
    exact ⟨next, step_change hstep, ih h⟩

/-! ## Pointers -/

variable {path : String} {schema : Json}

theorem path?_eq_some : path? ref = some path ↔ ref = "#/" ++ path := by
  constructor
  · intro h
    unfold path? at h
    split at h
    · rename_i chars hchars
      cases h
      rw [← String.toList_inj, hchars]
      simp
    · cases h
  · rintro rfl
    simp [path?]

theorem ne_root (path : String) : "#/" ++ path ≠ root := by
  intro h
  have hlists := congrArg String.toList h
  simp [root] at hlists

/-- A pointer with a path is followed segment by segment. -/
theorem resolve_path (document : Json) (h : path ≠ "") :
    resolve document ("#/" ++ path) =
      (Text.split '/' path).foldlM (step ("#/" ++ path)) document := by
  have hempty : path.isEmpty = false := by simpa using h
  rw [resolve, if_neg (by simpa using ne_root path), segments, path?_eq_some.2 rfl]
  simp only [hempty, Bool.false_eq_true, if_false]

/-- A pointer that leads somewhere is the root or has a path. -/
theorem path_of_resolve (h : resolve document ref = .ok schema) :
    ref = root ∨ ∃ path, path ≠ "" ∧ ref = "#/" ++ path := by
  by_cases hroot : ref = root
  · exact .inl hroot
  · rw [resolve, if_neg (by simpa using hroot), segments] at h
    cases hpath : path? ref with
    | none => simp [hpath] at h
    | some path =>
      refine .inr ⟨path, ?_, path?_eq_some.1 hpath⟩
      rintro rfl
      simp [hpath] at h

/-- **A pointer that is longer by a segment is followed by one more step.** The pointer with nothing
but an empty segment is the one exception: it has no path. -/
theorem resolve_append (h : resolve document path = .ok schema) (hsegment : '/' ∉ segment.toList)
    (hfirst : path = root → segment ≠ "") (hstep : step path schema segment = .ok next) :
    resolve document (path ++ "/" ++ segment) = .ok next := by
  rcases path_of_resolve h with rfl | ⟨text, htext, rfl⟩
  · rw [resolve, if_pos (beq_self_eq_true root)] at h
    cases h
    have hlonger : root ++ "/" ++ segment = "#/" ++ segment := rfl
    rw [hlonger, resolve_path document (hfirst rfl), Text.split_of_notMem hsegment]
    simp only [List.foldlM_cons, List.foldlM_nil, bind_pure]
    exact step_change hstep
  · have hlonger : "#/" ++ text ++ "/" ++ segment = "#/" ++ (text ++ "/" ++ segment) := by
      simp only [String.append_assoc]
    have hempty : text ++ "/" ++ segment ≠ "" := by simp
    rw [resolve_path document htext] at h
    rw [hlonger, resolve_path document hempty, Text.split_append rfl,
      Text.split_of_notMem hsegment, List.foldlM_append, foldlM_step_change h]
    simp only [List.foldlM_cons, List.foldlM_nil, bind_pure]
    exact step_change hstep

end Pointer

end SchemaGuard
