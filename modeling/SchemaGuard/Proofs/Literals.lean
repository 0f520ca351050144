import Mathlib.Data.List.Induction
import SchemaGuard.Proofs.Origins
import SchemaGuard.Proofs.ReadNumbers
import SchemaGuard.Proofs.ReadStrings

/-!
# Literals denote their values

`literals_read_back`: the text that a value is written as is one complete expression, and evaluates to
the value. It holds of every value in which no number is `nan` and no object repeats a key. The
induction is on the depth of the value, which is also what the reader counts down: numbers and texts
are read by their own readers, and a display is read back if its entries are (`display?_intercalate`).
Each of these statements is about a text with something behind it that `Ends` it, so that a literal is
never continued by what follows it in a display.
-/

namespace SchemaGuard

/-- Entries without a repeated key are kept as they are. -/
theorem Table.ofList_eq {α : Type} {entries : List (String × α)} (h : (Table.keys entries).Nodup) :
    Table.ofList entries = entries := by
  induction entries using List.reverseRecOn with
  | nil => rfl
  | append_singleton entries entry ih =>
    rw [Table.keys, List.map_append, List.nodup_append] at h
    obtain ⟨hearlier, -, hnew⟩ := h
    have hhas : Table.has entries entry.1 = false := by
      rw [← Bool.not_eq_true, Table.has_iff, ← Table.mem_keys]
      exact fun hmem => hnew entry.1 hmem entry.1 (by simp) rfl
    rw [Table.ofList, List.foldl_append]
    change (Table.ofList entries).put entry.1 entry.2 = _
    rw [ih hearlier, Table.put, if_neg (by simp [hhas])]

/-- Whether there is a literal for a value as such: it is not `nan`, and an object has each key once. -/
def Json.denotable : Json → Bool
  | .number value => value != .float .nan
  | value => value.keysOnce

namespace Literal

namespace Reader

open Json.Reader (isAsciiDigit)

/-! ## Displays -/

/-- What the text of an entry begins with: it is no blank, and ends no display. -/
def Begins (text : String) : Prop :=
  ∃ c rest, text.toList = c :: rest ∧ c ≠ ' ' ∧ c ≠ ']' ∧ c ≠ '\x7d'

variable {text : String}

theorem Begins.skipSpaces (h : Begins text) (rest : List Char) :
    skipSpaces (text.toList ++ rest) = text.toList ++ rest := by
  obtain ⟨c, chars, hchars, hblank, -⟩ := h
  simp [Reader.skipSpaces, hchars, hblank]

/-- Texts with commas between them begin as the first one does. -/
theorem exists_intercalate_eq (first : String) (texts : List String) : ∃ more,
    (", ".intercalate (first :: texts)).toList = first.toList ++ more := by
  cases texts with
  | nil => exact ⟨[], by simp⟩
  | cons second texts =>
    refine ⟨(", " ++ ", ".intercalate (second :: texts)).toList, ?_⟩
    rw [String.intercalate_cons_cons, String.append_assoc, String.toList_append]

theorem ends_cons {c : Char} (h : c = ',' ∨ c = ']' ∨ c = '\x7d' ∨ c = ':') (rest : List Char) :
    Ends (c :: rest) := by
  intro first hfirst
  obtain rfl : c = first := by simpa using hfirst
  exact h

section

variable {α : Type} {close : Char} (hclose : close = ']' ∨ close = '\x7d')
  {item? : List Char → Option (α × List Char)} {print : α → String} {elements : List α}
  (hbegins : ∀ element ∈ elements, Begins (print element))
  (hitem : ∀ element ∈ elements, ∀ rest, Ends rest →
    item? ((print element).toList ++ rest) = some (element, rest))

include hclose hbegins hitem

theorem entries?_intercalate (hsome : elements ≠ []) (rest : List Char) {fuel : Nat}
    (hfuel : elements.length ≤ fuel) :
    entries? close item? fuel ((", ".intercalate (elements.map print)).toList ++ close :: rest) =
      some (elements, rest) := by
  induction elements generalizing fuel with
  | nil => exact (hsome rfl).elim
  | cons element elements ih =>
    obtain ⟨fuel, rfl⟩ : ∃ less, fuel = less + 1 := ⟨fuel - 1, by simp at hfuel; omega⟩
    have hread := hitem element List.mem_cons_self
    cases elements with
    | nil =>
      rw [List.map_singleton, String.intercalate_singleton, entries?,
        hread _ (ends_cons (.inr (hclose.imp_right .inl)) rest)]
      have hother : close ≠ ' ' ∧ close ≠ ',' := by rcases hclose with rfl | rfl <;> decide
      simp [skipSpaces, hother]
    | cons next elements =>
      have hothers := ih (fun other hmem => hbegins other (List.mem_cons_of_mem _ hmem))
        (fun other hmem => hitem other (List.mem_cons_of_mem _ hmem)) (by simp)
        (Nat.le_of_succ_le_succ hfuel)
      obtain ⟨more, hmore⟩ := exists_intercalate_eq (print next) (elements.map print)
      have hskip : skipSpaces (' ' :: ((", ".intercalate ((next :: elements).map print)).toList ++
          close :: rest)) = (", ".intercalate ((next :: elements).map print)).toList ++ close :: rest := by
        rw [List.map_cons, hmore, List.append_assoc]
        exact (hbegins next (by simp)).skipSpaces _
      have htext : (", ".intercalate ((element :: next :: elements).map print)).toList ++ close :: rest =
          (print element).toList ++ ',' :: ' ' ::
            ((", ".intercalate ((next :: elements).map print)).toList ++ close :: rest) := by
        simp [String.intercalate_cons_cons]
      rw [htext, entries?, hread _ (ends_cons (.inl rfl) _)]
      generalize (", ".intercalate ((next :: elements).map print)).toList ++ close :: rest = tail at *
      have hcomma : skipSpaces (',' :: ' ' :: tail) = ',' :: ' ' :: tail := by simp [skipSpaces]
      simp [hcomma, hskip, hothers]

omit hclose hitem in
theorem length_le_intercalate :
    elements.length ≤ (", ".intercalate (elements.map print)).toList.length := by
  induction elements with
  | nil => exact Nat.zero_le _
  | cons element elements ih =>
    have hothers := ih fun other hmem => hbegins other (List.mem_cons_of_mem _ hmem)
    obtain ⟨c, chars, hchars, -⟩ := hbegins element List.mem_cons_self
    cases elements with
    | nil => simp [hchars]
    | cons next elements =>
      simp only [List.map_cons, String.intercalate_cons_cons, String.toList_append, List.length_append,
        hchars, List.length_cons] at hothers ⊢
      omega

/-- A display is read back, given that its entries are. -/
theorem display?_intercalate (rest : List Char) :
    display? close item? ((", ".intercalate (elements.map print)).toList ++ close :: rest) =
      some (elements, rest) := by
  cases elements with
  | nil => simp [display?]
  | cons element elements =>
    obtain ⟨more, hmore⟩ := exists_intercalate_eq (print element) (elements.map print)
    obtain ⟨c, chars, hchars, -, hother⟩ := hbegins element List.mem_cons_self
    have hopen : ((", ".intercalate ((element :: elements).map print)).toList ++ close :: rest).head? ≠
        some close := by
      rw [List.map_cons, hmore, hchars]
      rcases hclose with rfl | rfl <;> simp [hother]
    have hfuel := length_le_intercalate hbegins
    rw [display?, if_neg (by simpa using hopen)]
    refine entries?_intercalate hclose hbegins hitem (by simp) rest (hfuel.trans ?_)
    rw [List.length_append]
    exact Nat.le_add_right _ _

end

/-! ## Values -/

theorem ofItems_eq (items : List Json) : ofItems items = items.map ofJson := by
  induction items with
  | nil => rfl
  | cons item items ih => rw [ofItems, ih, List.map_cons]

/-- The text of a key and its value. -/
def ofMember (member : String × Json) : String := Text.quoted member.1 ++ ": " ++ ofJson member.2

variable {value : Json} {rest : List Char}

theorem ofMembers_eq (members : List (String × Json)) : ofMembers members = members.map ofMember := by
  induction members with
  | nil => rfl
  | cons member members ih =>
    obtain ⟨key, value⟩ := member
    rw [ofMembers, ih, List.map_cons, ofMember]

theorem exists_quoted_eq (text : String) : ∃ quote rest, (Text.quoted text).toList = quote :: rest ∧
    (quote = '"' ∨ quote = '\'') :=
  ⟨_, _, String.toList_ofList, Text.chooseQuote_cases text.toList⟩

theorem ofMember_begins (member : String × Json) : Begins (ofMember member) := by
  obtain ⟨quote, rest, hchars, hquote⟩ := exists_quoted_eq member.1
  refine ⟨quote, rest ++ (": " ++ ofJson member.2).toList, ?_, ?_⟩
  · rw [ofMember, String.append_assoc, String.toList_append, hchars, List.cons_append]
  · rcases hquote with rfl | rfl <;> decide

/-- Numbers begin with a minus or a digit. -/
theorem ofNumber_begins {value : Number} (h : value ≠ .float .nan) : Begins (ofNumber value) := by
  obtain ⟨negative, body, htext, hread⟩ := exists_number?_eq h
  have hnothing : Ends [] := fun c hc => by cases hc
  obtain ⟨c, rest, hbody, hdigit⟩ := digit_of_number? (hread [] hnothing)
  rw [List.append_nil] at hbody
  cases negative with
  | true => exact ⟨'-', body, htext, by decide⟩
  | false =>
    refine ⟨c, rest, htext.trans hbody, ?_, ?_, ?_⟩ <;>
      · rintro rfl
        exact absurd hdigit (by decide)

theorem ofJson_begins (h : value.denotable = true) : Begins (ofJson value) := by
  cases value with
  | null => exact ⟨_, _, rfl, by decide⟩
  | bool value => cases value <;> exact ⟨_, _, rfl, by decide⟩
  | number value => exact ofNumber_begins (by simpa [Json.denotable] using h)
  | string text =>
    obtain ⟨quote, rest, hchars, hquote⟩ := exists_quoted_eq text
    refine ⟨quote, rest, hchars, ?_⟩
    rcases hquote with rfl | rfl <;> decide
  | array items =>
    exact ⟨'[', _, by rw [ofJson, String.append_assoc, String.toList_append]; rfl, by decide⟩
  | object members =>
    exact ⟨'\x7b', _, by rw [ofJson, String.append_assoc, String.toList_append]; rfl, by decide⟩

theorem member?_ofMember {value? : List Char → Option (Json × List Char)} (key : String)
    (hbegins : Begins (ofJson value))
    (hvalue : ∀ rest, Ends rest → value? ((ofJson value).toList ++ rest) = some (value, rest))
    (hrest : Ends rest) :
    member? value? ((ofMember (key, value)).toList ++ rest) = some ((key, value), rest) := by
  have htext : (ofMember (key, value)).toList ++ rest =
      (Text.quoted key).toList ++ ':' :: ' ' :: ((ofJson value).toList ++ rest) := by
    simp [ofMember]
  have hcolon : ∀ c, (':' :: ' ' :: ((ofJson value).toList ++ rest)).head? = some c →
      c ≠ '"' ∧ c ≠ '\'' := by
    intro c hc
    obtain rfl : ':' = c := by simpa using hc
    decide
  have hread := hvalue rest hrest
  have hskip : skipSpaces (' ' :: ((ofJson value).toList ++ rest)) = (ofJson value).toList ++ rest :=
    hbegins.skipSpaces rest
  rw [htext, member?, string?_quoted key hcolon]
  generalize (ofJson value).toList ++ rest = tail at *
  have hmark : skipSpaces (':' :: ' ' :: tail) = ':' :: ' ' :: tail := by simp [skipSpaces]
  simp [hmark, hskip, hread]

section

variable {value : Json} {rest : List Char} (hrest : Ends rest) (depth : Nat)

include hrest

theorem value?_number {value : Number} (h : value ≠ .float .nan) :
    value? (depth + 1) ((ofNumber value).toList ++ rest) = some (.number value, rest) := by
  obtain ⟨negative, body, htext, hread⟩ := exists_number?_eq h
  have hnumber := hread rest hrest
  rw [htext]
  cases negative with
  | true => simp [value?, hnumber]
  | false =>
    obtain ⟨c, tail, hbody, hdigit⟩ := digit_of_number? hnumber
    have hother : c ≠ '[' ∧ c ≠ '\x7b' ∧ c ≠ '\'' ∧ c ≠ '"' ∧ c ≠ '-' := by
      refine ⟨?_, ?_, ?_, ?_, ?_⟩ <;>
        · rintro rfl
          exact absurd hdigit (by decide)
    rw [hbody] at hnumber
    simp [hbody, value?, hother, hdigit, hnumber]

end

/-- A text is read by the reader of texts. -/
theorem value?_string {chars : List Char} (h : string? chars = some (text, rest))
    (hquote : chars.head? = some '"' ∨ chars.head? = some '\'') (depth : Nat) :
    value? (depth + 1) chars = some (.string text, rest) := by
  cases chars with
  | nil => simp at hquote
  | cons c chars =>
    have hquote : c = '"' ∨ c = '\'' := by simpa using hquote
    rcases hquote with rfl | rfl <;> simp [value?, h]

/-- **Every value is read back from its expression**, whatever ends it. -/
theorem value?_ofJson (depth : Nat) (hdepth : value.depth < depth)
    (h : value.all Json.denotable = true) (hrest : Ends rest) :
    value? depth ((ofJson value).toList ++ rest) = some (value, rest) := by
  induction depth generalizing value rest with
  | zero => exact (Nat.not_lt_zero _ hdepth).elim
  | succ depth ih =>
    have hself := Json.all_self h
    have hinside : ∀ {inner : Json}, inner.Inside value → Begins (ofJson inner) ∧
        ∀ rest, Ends rest → value? depth ((ofJson inner).toList ++ rest) = some (inner, rest) := by
      intro inner hinner
      have hall := Json.all_inside h hinner
      exact ⟨ofJson_begins (Json.all_self hall),
        fun rest hrest => ih (by have := hinner.depth_lt; omega) hall hrest⟩
    cases value with
    | null => rfl
    | bool value => cases value <;> rfl
    | number value => exact value?_number hrest depth (by simpa [Json.denotable] using hself)
    | string text =>
      obtain ⟨quote, others, hchars, hquote⟩ := exists_quoted_eq text
      refine value?_string (string?_quoted text fun c hc => ?_) ?_ depth
      · rcases hrest c hc with rfl | rfl | rfl | rfl <;> decide
      · rcases hquote with rfl | rfl <;> simp [hchars]
    | array items =>
      have hitems := display?_intercalate (.inl rfl) (fun item hitem => (hinside (.item hitem)).1)
        (fun item hitem => (hinside (.item hitem)).2) rest
      have htext : (ofJson (.array items)).toList ++ rest =
          '[' :: ((", ".intercalate (items.map ofJson)).toList ++ ']' :: rest) := by
        rw [ofJson, ofItems_eq]
        simp
      rw [htext]
      generalize (", ".intercalate (items.map ofJson)).toList ++ ']' :: rest = tail at *
      simp [value?, hitems]
    | object members =>
      have hmembers := display?_intercalate (.inr rfl) (fun member _ => ofMember_begins member)
        (fun member hmember => fun rest hrest => member?_ofMember member.1 (hinside (.member hmember)).1
          (hinside (.member hmember)).2 hrest) rest
      have htext : (ofJson (.object members)).toList ++ rest =
          '\x7b' :: ((", ".intercalate (members.map ofMember)).toList ++ '\x7d' :: rest) := by
        rw [ofJson, ofMembers_eq]
        simp
      have hkeys : Table.ofList members = members := Table.ofList_eq (Json.nodup_keys hself)
      rw [htext]
      generalize (", ".intercalate (members.map ofMember)).toList ++ '\x7d' :: rest = tail at *
      simp [value?, hmembers, hkeys]

/-! ## Whole texts -/

theorem length_le_of_mem {texts : List String} (h : text ∈ texts) :
    text.length ≤ (", ".intercalate texts).length := by
  induction texts with
  | nil => cases h
  | cons first texts ih =>
    cases texts with
    | nil =>
      rw [List.mem_singleton.1 h, String.intercalate_singleton]
    | cons second texts =>
      rw [String.intercalate_cons_cons, String.length_append, String.length_append]
      rcases List.mem_cons.1 h with rfl | h
      · omega
      · have := ih h
        omega

theorem depthItems_le {items : List Json} {bound : Nat} (h : ∀ item ∈ items, item.depth ≤ bound) :
    Json.depthItems items ≤ bound := by
  induction items with
  | nil => exact Nat.zero_le _
  | cons item items ih =>
    obtain ⟨hitem, hitems⟩ := List.forall_mem_cons.1 h
    exact Nat.max_le.2 ⟨hitem, ih hitems⟩

theorem depthMembers_le {members : List (String × Json)} {bound : Nat}
    (h : ∀ member ∈ members, member.2.depth ≤ bound) : Json.depthMembers members ≤ bound := by
  induction members with
  | nil => exact Nat.zero_le _
  | cons member members ih =>
    obtain ⟨hmember, hmembers⟩ := List.forall_mem_cons.1 h
    exact Nat.max_le.2 ⟨hmember, ih hmembers⟩

/-- Every level of a value takes a character, so a text has room for the depth of its value. -/
theorem depth_le_length (value : Json) : value.depth ≤ (ofJson value).length := by
  induction hdepth : value.depth using Nat.strongRecOn generalizing value with
  | ind depth ih =>
    subst hdepth
    have hinside : ∀ {inner : Json}, inner.Inside value → inner.depth ≤ (ofJson inner).length :=
      fun hinner => ih _ hinner.depth_lt _ rfl
    cases value with
    | null | bool | number | string => exact Nat.zero_le _
    | array items =>
      have hitems := depthItems_le fun item hitem =>
        (hinside (.item hitem)).trans (length_le_of_mem (List.mem_map_of_mem hitem))
      rw [Json.depth, ofJson, ofItems_eq, String.length_append, String.length_append]
      have hbracket : "[".length = 1 := rfl
      omega
    | object members =>
      have hmembers : Json.depthMembers members ≤ (", ".intercalate (members.map ofMember)).length := by
        refine depthMembers_le fun member hmember => ?_
        have hlength := length_le_of_mem (List.mem_map_of_mem (f := ofMember) hmember)
        rw [ofMember, String.length_append] at hlength
        have hdepth := hinside (.member hmember)
        omega
      rw [Json.depth, ofJson, ofMembers_eq, String.length_append, String.length_append]
      have hbracket : "\x7b".length = 1 := rfl
      omega

theorem read_ofJson (h : value.all Json.denotable = true) :
    read (ofJson value) = some value := by
  have hnothing : Ends [] := fun c hc => by cases hc
  have hread := value?_ofJson ((ofJson value).length + 1) (Nat.lt_succ_of_le (depth_le_length value)) h
    hnothing
  rw [List.append_nil] at hread
  rw [read, hread]

theorem read_tripleQuoted (text : String) : read (Text.tripleQuoted text) = some (.string text) := by
  obtain ⟨hread, hquote⟩ := string?_tripleQuoted text []
  rw [List.append_nil] at hread hquote
  rw [read, value?_string hread hquote]

theorem read_statement (h : value.all Json.denotable = true) :
    read (statement value) = some value := by
  cases value with
  | string text => exact read_tripleQuoted text
  | null | bool | number | array | object => exact read_ofJson h

end Reader

open Reader

/-- **Literals denote their values.** The expression of a value and the value as a statement are each
one complete expression, and the value of that is the value that was written down: kinds of numbers,
order of members and all characters included. So different values are written differently. -/
theorem literals_read_back (value : Json) (h : value.all Json.denotable = true) :
    read (ofJson value) = some value ∧ read (statement value) = some value ∧
      ∀ other : Json, other.all Json.denotable = true → ∀ text : String,
        text = ofJson value ∨ text = statement value → text = ofJson other ∨ text = statement other →
          value = other := by
  refine ⟨read_ofJson h, read_statement h, ?_⟩
  intro other hother text hvalue hother'
  have hread : read text = some value := by
    rcases hvalue with rfl | rfl
    · exact read_ofJson h
    · exact read_statement h
  have hread' : read text = some other := by
    rcases hother' with rfl | rfl
    · exact read_ofJson hother
    · exact read_statement hother
  exact Option.some.inj (hread.symm.trans hread')

/-- A value with texts that hold quotes of both kinds and numbers of both kinds. -/
def mixedValue : Json := .object [
  ("it's\n", .array [.null, .bool true, .number (.int (-12)), .number (.float (.infinite true)),
    .number (.float (.finite false ⟨1019, by decide⟩ ⟨2702159776422298, by decide⟩))]),
  ("", .string "\"\"\"'''")]

theorem literals_read_back_mixed : mixedValue.all Json.denotable = true ∧
    read (ofJson mixedValue) = some mixedValue := by
  have hdenotable : mixedValue.all Json.denotable = true := by decide +kernel
  exact ⟨hdenotable, (literals_read_back mixedValue hdenotable).1⟩

end Literal

end SchemaGuard
