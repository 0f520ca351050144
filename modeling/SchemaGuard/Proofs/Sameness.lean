import Mathlib.Data.List.Forall2
import Mathlib.Data.List.Perm.Subperm
import SchemaGuard.Proofs.Dependence
import SchemaGuard.Proofs.Quoting

/-!
# Values that are the same

Two values may be the same JSON value and still differ: in the kinds of their numbers, in the kinds
of their sequences, in the order of their members. `Alike` is this relation, on values whose objects
do not repeat a key. It is symmetric and transitive, and it holds through the parts of values: like
arrays have like items at like positions, and like objects have like members under like names.

Distinct items are counted through keys, which have an equality of their own. On values without
repeated keys it is the same one (`key_same`).

A number that compares with nothing is not the same as itself, so no value that holds one is alike
any other.
-/

namespace SchemaGuard

/-! ## Numbers -/

namespace Number

variable {a b : Number}

/-- Numbers are the same if they stand at the same place. -/
theorem same_iff :
    a.same b = true ↔ ∃ place, a.place? = some place ∧ b.place? = some place := by
  unfold same
  split
  · rename_i place place' ha hb
    rw [beq_iff_eq, ha, hb]
    constructor
    · rintro rfl
      exact ⟨place, rfl, rfl⟩
    · rintro ⟨_, hplace, hplace'⟩
      exact (Option.some.inj hplace).trans (Option.some.inj hplace').symm
  · rename_i hnone
    refine ⟨nofun, ?_⟩
    rintro ⟨place, ha, hb⟩
    exact (hnone place place ha hb).elim

theorem place?_eq_of_same (h : a.same b = true) : a.place? = b.place? := by
  obtain ⟨place, ha, hb⟩ := same_iff.1 h
  rw [ha, hb]

/-- Whether a number is whole is told by its place. -/
theorem isWhole_iff {number : Number} : number.isWhole = true ↔
    ∃ units, number.place? = some (.point units) ∧ units % Binary64.unitsPerOne = 0 := by
  cases number with
  | int value => exact ⟨fun _ => ⟨_, rfl, Int.mul_emod_left _ _⟩, fun _ => rfl⟩
  | float value =>
    cases value with
    | nan => exact ⟨nofun, nofun⟩
    | infinite negative =>
      refine ⟨nofun, fun ⟨_, hplace, _⟩ => ?_⟩
      cases negative <;> cases hplace
    | finite negative exponent fraction =>
      simp only [isWhole, Binary64.isWhole, Binary64.units?, place?, beq_iff_eq, Option.some.injEq,
        Place.point.injEq, exists_eq_left']

theorem isWhole_eq_of_place? (h : a.place? = b.place?) : a.isWhole = b.isWhole := by
  rw [Bool.eq_iff_iff, isWhole_iff, isWhole_iff, h]

end Number

/-! ## Induction over values -/

namespace Value

/-- **Induction over values**, with lists and tuples as one kind and parts given by membership. -/
theorem induction {motive : Value → Prop} (null : motive .null)
    (bool : ∀ truth, motive (.bool truth)) (number : ∀ number, motive (.number number))
    (string : ∀ text, motive (.string text)) (bytes : ∀ data, motive (.bytes data))
    (array : ∀ value items, value.elements? = some items → (∀ item ∈ items, motive item) →
      motive value)
    (dict : ∀ members, (∀ entry ∈ members, motive entry.2) → motive (.dict members)) :
    ∀ value, motive value
  | .null => null
  | .bool truth => bool truth
  | .number value => number value
  | .string text => string text
  | .bytes data => bytes data
  | .list items => array _ items rfl fun item _ =>
      induction null bool number string bytes array dict item
  | .tuple items => array _ items rfl fun item _ =>
      induction null bool number string bytes array dict item
  | .dict members => dict members fun entry _ =>
      induction null bool number string bytes array dict entry.2
termination_by value => sizeOf value
decreasing_by
  · have := List.sizeOf_lt_of_mem ‹_›
    simp; omega
  · have := List.sizeOf_lt_of_mem ‹_›
    simp; omega
  · have := List.sizeOf_lt_of_mem ‹_›
    cases entry
    simp at *; omega

/-! ## What values are the same as -/

variable {other value : Value} {others : List (String × Value)} {items : List Value}

theorem same_null : null.same other = true ↔ .null = other := by
  cases other <;> simp [same]

theorem same_bool {truth : Bool} :
    (bool truth).same other = true ↔ .bool truth = other := by
  cases other <;> simp [same]

theorem same_string {text : String} :
    (string text).same other = true ↔ .string text = other := by
  cases other <;> simp [same]

theorem same_bytes {data : List UInt8} :
    (bytes data).same other = true ↔ .bytes data = other := by
  cases other <;> simp [same]

theorem same_number {value : Number} :
    (number value).same other = true ↔ ∃ found, other = .number found ∧
      value.same found = true := by
  cases other <;> simp [same]

theorem sameItems_iff {items others : List Value} : sameItems items others = true ↔
    List.Forall₂ (fun item other => item.same other = true) items others := by
  induction items generalizing others with
  | nil => cases others <;> simp [sameItems]
  | cons item items ih => cases others <;> simp [sameItems, ih]

theorem sameMembers_iff {members : List (String × Value)} :
    sameMembers members others = true ↔ ∀ entry ∈ members, ∃ other,
      Table.get? others entry.1 = some other ∧ entry.2.same other = true := by
  induction members with
  | nil => simp [sameMembers]
  | cons entry members ih =>
    obtain ⟨name, member⟩ := entry
    rw [sameMembers, Bool.and_eq_true, ih, List.forall_mem_cons]
    cases Table.get? others name <;> simp

/-- What is the same as an array is an array of the same items. -/
theorem same_array (h : value.elements? = some items) :
    value.same other = true ↔ ∃ others, other.elements? = some others ∧
      List.Forall₂ (fun item other => item.same other = true) items others := by
  rw [← funext₂ fun items others => propext (@sameItems_iff items others)]
  cases value <;> cases h <;> cases other <;> simp [same, elements?]

/-- What is the same as an object is an object of as many members, with the same ones. -/
theorem same_dict {members : List (String × Value)} :
    (dict members).same other = true ↔ ∃ others, other = .dict others ∧
      members.length = others.length ∧ ∀ entry ∈ members, ∃ member,
        Table.get? others entry.1 = some member ∧ entry.2.same member = true := by
  cases other <;> simp [same, sameMembers_iff]

/-! ## Objects without repeated keys -/

mutual

/-- No object of a value has a key more than once. -/
def Keyed : Value → Prop
  | list items => KeyedItems items
  | tuple items => KeyedItems items
  | dict members => (Table.keys members).Nodup ∧ KeyedMembers members
  | _ => True

def KeyedItems : List Value → Prop
  | [] => True
  | item :: items => item.Keyed ∧ KeyedItems items

def KeyedMembers : List (String × Value) → Prop
  | [] => True
  | (_, member) :: members => member.Keyed ∧ KeyedMembers members

end

theorem keyedItems_iff : KeyedItems items ↔ ∀ item ∈ items, item.Keyed := by
  induction items with
  | nil => simp [KeyedItems]
  | cons item items ih => simp [KeyedItems, ih]

theorem keyedMembers_iff {members : List (String × Value)} :
    KeyedMembers members ↔ ∀ entry ∈ members, entry.2.Keyed := by
  induction members with
  | nil => simp [KeyedMembers]
  | cons entry members ih => simp [KeyedMembers, ih]

theorem Keyed.item {item : Value} (h : value.Keyed) (helements : value.elements? = some items)
    (hitem : item ∈ items) : item.Keyed := by
  cases value <;> cases helements
  · exact keyedItems_iff.1 h item hitem
  · exact keyedItems_iff.1 h item hitem

theorem Keyed.member {members : List (String × Value)} {entry : String × Value}
    (h : (dict members).Keyed) (hentry : entry ∈ members) : entry.2.Keyed :=
  keyedMembers_iff.1 h.2 entry hentry

/-- Objects of as many members, one of which has the keys of the other, have the same keys. -/
theorem mem_keys_iff {members : List (String × Value)} (hkeys : (Table.keys members).Nodup)
    (hlength : members.length = others.length)
    (hsub : ∀ name ∈ Table.keys members, name ∈ Table.keys others) (name : String) :
    name ∈ Table.keys members ↔ name ∈ Table.keys others := by
  have hperm : (Table.keys members).Perm (Table.keys others) :=
    (List.subperm_of_subset hkeys hsub).perm_of_length_le (by simp [Table.keys, hlength])
  exact hperm.mem_iff

/-- Objects without repeated keys are the same if each member of one is one of the other. -/
theorem same_dict_iff {members : List (String × Value)} (hmembers : (Table.keys members).Nodup)
    (hothers : (Table.keys others).Nodup) :
    (dict members).same (dict others) = true ↔
      (∀ entry ∈ members, ∃ other ∈ others, other.1 = entry.1 ∧ entry.2.same other.2 = true) ∧
      ∀ other ∈ others, ∃ entry ∈ members, entry.1 = other.1 ∧ entry.2.same other.2 = true := by
  constructor
  · intro h
    obtain ⟨_, hdict, hlength, hfound⟩ := same_dict.1 h
    cases hdict
    have hsub : ∀ name ∈ Table.keys members, name ∈ Table.keys others := by
      intro name hname
      obtain ⟨member, hget⟩ := Table.mem_keys.1 hname
      obtain ⟨other, hother, -⟩ := hfound _ (Table.mem_of_get? hget)
      exact Table.mem_keys.2 ⟨other, hother⟩
    refine ⟨fun entry hentry => ?_, fun other hother => ?_⟩
    · obtain ⟨other, hget, hsame⟩ := hfound entry hentry
      exact ⟨(entry.1, other), Table.mem_of_get? hget, rfl, hsame⟩
    · have hname : other.1 ∈ Table.keys members :=
        (mem_keys_iff hmembers hlength hsub other.1).2 (List.mem_map_of_mem hother)
      obtain ⟨member, hmember⟩ := Table.mem_keys.1 hname
      obtain ⟨found, hget, hsame⟩ := hfound _ (Table.mem_of_get? hmember)
      rw [Table.get?_of_mem hothers hother] at hget
      cases hget
      exact ⟨(other.1, member), Table.mem_of_get? hmember, rfl, hsame⟩
  · rintro ⟨hsub, hsup⟩
    have hperm : (Table.keys members).Perm (Table.keys others) := by
      refine (List.perm_ext_iff_of_nodup hmembers hothers).2 fun name => ⟨?_, ?_⟩
      · intro hname
        obtain ⟨entry, hentry, rfl⟩ := List.mem_map.1 hname
        obtain ⟨other, hother, hsame, -⟩ := hsub entry hentry
        exact List.mem_map.2 ⟨other, hother, hsame⟩
      · intro hname
        obtain ⟨other, hother, rfl⟩ := List.mem_map.1 hname
        obtain ⟨entry, hentry, hsame, -⟩ := hsup other hother
        exact List.mem_map.2 ⟨entry, hentry, hsame⟩
    refine same_dict.2 ⟨others, rfl, by simpa [Table.keys] using hperm.length_eq,
      fun entry hentry => ?_⟩
    obtain ⟨⟨name, other⟩, hother, rfl, hsame⟩ := hsub entry hentry
    exact ⟨other, Table.get?_of_mem hothers hother, hsame⟩

/-! ## Symmetry and transitivity -/

variable {R : Value → Value → Prop}

theorem forall₂_imp_mem {S : Value → Value → Prop} {others : List Value}
    (h : List.Forall₂ R items others)
    (himp : ∀ item ∈ items, ∀ other ∈ others, R item other → S item other) :
    List.Forall₂ S items others := by
  induction h with
  | nil => exact .nil
  | cons hfirst _ ih =>
    exact .cons (himp _ (by simp) _ (by simp) hfirst)
      (ih fun item hitem other hother => himp item (by simp [hitem]) other (by simp [hother]))

theorem exists_right_of_forall₂ {others : List Value} (h : List.Forall₂ R items others)
    {item : Value} (hitem : item ∈ items) :
    ∃ other ∈ others, R item other := by
  induction h with
  | nil => cases hitem
  | cons hfirst _ ih =>
    rcases List.mem_cons.1 hitem with rfl | hmem
    · exact ⟨_, by simp, hfirst⟩
    · obtain ⟨other, hother, hrelated⟩ := ih hmem
      exact ⟨other, by simp [hother], hrelated⟩

theorem forall₂_trans_mem {firsts seconds thirds : List Value} (h : List.Forall₂ R firsts seconds)
    (h' : List.Forall₂ R seconds thirds)
    (htrans : ∀ first ∈ firsts, ∀ second third, R first second → R second third → R first third) :
    List.Forall₂ R firsts thirds := by
  induction h generalizing thirds with
  | nil =>
    cases h'
    exact .nil
  | cons hfirst _ ih =>
    cases h' with
    | cons hsecond hothers =>
      exact .cons (htrans _ (by simp) _ _ hfirst hsecond)
        (ih hothers fun first hmem => htrans first (by simp [hmem]))

theorem same_symm (hvalue : value.Keyed) (hother : other.Keyed) (h : value.same other = true) :
    other.same value = true := by
  induction value using Value.induction generalizing other with
  | null =>
    cases same_null.1 h
    exact h
  | bool truth =>
    cases same_bool.1 h
    exact h
  | string text =>
    cases same_string.1 h
    exact h
  | bytes data =>
    cases same_bytes.1 h
    exact h
  | number value =>
    obtain ⟨found, rfl, hsame⟩ := same_number.1 h
    obtain ⟨place, hplace, hplace'⟩ := Number.same_iff.1 hsame
    exact Number.same_iff.2 ⟨place, hplace', hplace⟩
  | array value items helements ih =>
    obtain ⟨others, hothers, hitems⟩ := (same_array helements).1 h
    refine (same_array hothers).2 ⟨items, helements, List.Forall₂.flip ?_⟩
    exact forall₂_imp_mem hitems fun item hitem other hmem =>
      ih item hitem (hvalue.item helements hitem) (hother.item hothers hmem)
  | dict members ih =>
    obtain ⟨others, rfl, -⟩ := same_dict.1 h
    obtain ⟨hsub, hsup⟩ := (same_dict_iff hvalue.1 hother.1).1 h
    have hsymm : ∀ entry ∈ members, ∀ other ∈ others, entry.2.same other.2 = true →
        other.2.same entry.2 = true := fun entry hentry other hmem =>
      ih entry hentry (hvalue.member hentry) (hother.member hmem)
    refine (same_dict_iff hother.1 hvalue.1).2 ⟨fun other hmem => ?_, fun entry hentry => ?_⟩
    · obtain ⟨entry, hentry, hname, hsame⟩ := hsup other hmem
      exact ⟨entry, hentry, hname, hsymm entry hentry other hmem hsame⟩
    · obtain ⟨other, hmem, hname, hsame⟩ := hsub entry hentry
      exact ⟨other, hmem, hname, hsymm entry hentry other hmem hsame⟩

theorem same_trans {first second third : Value} (h : first.same second = true)
    (h' : second.same third = true) : first.same third = true := by
  induction first using Value.induction generalizing second third with
  | null =>
    cases same_null.1 h
    exact h'
  | bool truth =>
    cases same_bool.1 h
    exact h'
  | string text =>
    cases same_string.1 h
    exact h'
  | bytes data =>
    cases same_bytes.1 h
    exact h'
  | number value =>
    obtain ⟨found, rfl, hsame⟩ := same_number.1 h
    obtain ⟨last, rfl, hsame'⟩ := same_number.1 h'
    refine same_number.2 ⟨last, rfl, ?_⟩
    rw [Number.same, Number.place?_eq_of_same hsame]
    exact hsame'
  | array first items helements ih =>
    obtain ⟨others, hothers, hsame⟩ := (same_array helements).1 h
    obtain ⟨thirds, hthirds, hsame'⟩ := (same_array hothers).1 h'
    exact (same_array helements).2 ⟨thirds, hthirds,
      forall₂_trans_mem hsame hsame' fun item hitem _ _ => ih item hitem⟩
  | dict members ih =>
    obtain ⟨others, rfl, hlength, hmembers⟩ := same_dict.1 h
    obtain ⟨thirds, rfl, hlength', hothers⟩ := same_dict.1 h'
    refine same_dict.2 ⟨thirds, rfl, hlength.trans hlength', fun entry hentry => ?_⟩
    obtain ⟨other, hother, hsame⟩ := hmembers entry hentry
    obtain ⟨third, hthird, hsame'⟩ := hothers _ (Table.mem_of_get? hother)
    exact ⟨third, hthird, ih entry hentry hsame hsame'⟩

/-! ## Keys -/

theorem sameItems_keyItems {others : List Value} :
    Key.sameItems (keyItems items) (keyItems others) = true ↔
      List.Forall₂ (fun item other => item.key.same other.key = true) items others := by
  induction items generalizing others with
  | nil => cases others <;> simp [keyItems, Key.sameItems]
  | cons item items ih => cases others <;> simp [keyItems, Key.sameItems, ih]

theorem keyMembers_eq_map (members : List (String × Value)) :
    keyMembers members = members.map fun entry => (entry.1, entry.2.key) := by
  induction members with
  | nil => rfl
  | cons entry members ih => rw [keyMembers, ih, List.map_cons]

theorem subset_keyMembers {members : List (String × Value)} :
    Key.subset (keyMembers members) (keyMembers others) = true ↔ ∀ entry ∈ members,
      ∃ other ∈ others, other.1 = entry.1 ∧ entry.2.key.same other.2.key = true := by
  rw [keyMembers_eq_map others]
  induction members with
  | nil => simp [keyMembers, Key.subset]
  | cons entry members ih => simp [keyMembers, Key.subset, ih]

theorem holds_keyMembers {members : List (String × Value)} {name : String} {key : Key} :
    Key.holds (keyMembers members) (name, key) = true ↔
      ∃ entry ∈ members, entry.1 = name ∧ entry.2.key.same key = true := by
  induction members with
  | nil => simp [keyMembers, Key.holds]
  | cons entry members ih => simp [keyMembers, Key.holds, ih]

theorem key_array (h : value.elements? = some items) :
    value.key = .array (keyItems items) := by
  cases value <;> cases h <;> rfl

/-- **Keys are the same if and only if their values are**, where no object repeats a key. -/
theorem key_same (hvalue : value.Keyed) (hother : other.Keyed) :
    value.key.same other.key = true ↔ value.same other = true := by
  induction value using Value.induction generalizing other with
  | null | bool | string | number => cases other <;> simp [key, Key.same, same]
  | bytes data => cases other <;> simp [key, Key.same, same, Text.quotedBytes_inj]
  | array value items helements ih =>
    rw [same_array helements, key_array helements]
    cases hothers : other.elements? with
    | none => cases other <;> cases hothers <;> simp [key, Key.same]
    | some others =>
      rw [key_array hothers, Key.same, sameItems_keyItems]
      have hitems : ∀ item ∈ items, ∀ other ∈ others,
          (item.key.same other.key = true ↔ item.same other = true) :=
        fun item hitem other hmem =>
          ih item hitem (hvalue.item helements hitem) (hother.item hothers hmem)
      constructor
      · intro h
        exact ⟨others, rfl, forall₂_imp_mem h fun item hitem other hmem =>
          (hitems item hitem other hmem).1⟩
      · rintro ⟨_, hsome, h⟩
        cases hsome
        exact forall₂_imp_mem h fun item hitem other hmem => (hitems item hitem other hmem).2
  | dict members ih =>
    cases other with
    | dict others =>
      have hmembers : ∀ entry ∈ members, ∀ other ∈ others,
          (entry.2.key.same other.2.key = true ↔ entry.2.same other.2 = true) :=
        fun entry hentry other hmem =>
          ih entry hentry (hvalue.member hentry) (hother.member hmem)
      rw [same_dict_iff hvalue.1 hother.1, key, key, Key.same, Bool.and_eq_true, subset_keyMembers,
        List.all_eq_true, keyMembers_eq_map others, List.forall_mem_map]
      refine and_congr (forall₂_congr fun entry hentry => ?_) (forall₂_congr fun other hmem => ?_)
      · exact exists_congr fun other => and_congr_right fun hmem =>
          and_congr_right fun _ => hmembers entry hentry other hmem
      · rw [holds_keyMembers]
        exact exists_congr fun entry => and_congr_right fun hentry =>
          and_congr_right fun _ => hmembers entry hentry other hmem
    | null | bool | number | string | bytes | list | tuple => simp [key, Key.same, same]

/-! ## Depth -/

variable {bound : Nat}

theorem depthItems_le (h : ∀ item ∈ items, item.depth ≤ bound) : depthItems items ≤ bound := by
  induction items with
  | nil => exact Nat.zero_le bound
  | cons item items ih =>
    exact Nat.max_le.2 ⟨h item (by simp), ih fun other hother => h other (by simp [hother])⟩

theorem depthMembers_le {members : List (String × Value)}
    (h : ∀ entry ∈ members, entry.2.depth ≤ bound) : depthMembers members ≤ bound := by
  induction members with
  | nil => exact Nat.zero_le bound
  | cons entry members ih =>
    exact Nat.max_le.2 ⟨h entry (by simp), ih fun other hother => h other (by simp [hother])⟩

theorem depth_array (h : value.elements? = some items) :
    value.depth = depthItems items + 1 := by
  cases value <;> cases h <;> rfl

theorem depth_le_of_same (h : value.same other = true) :
    value.depth ≤ other.depth := by
  induction value using Value.induction generalizing other with
  | null =>
    cases same_null.1 h
    exact Nat.le_refl _
  | bool truth =>
    cases same_bool.1 h
    exact Nat.le_refl _
  | string text =>
    cases same_string.1 h
    exact Nat.le_refl _
  | bytes data =>
    cases same_bytes.1 h
    exact Nat.le_refl _
  | number value =>
    obtain ⟨found, rfl, -⟩ := same_number.1 h
    exact Nat.le_refl _
  | array value items helements ih =>
    obtain ⟨others, hothers, hitems⟩ := (same_array helements).1 h
    rw [depth_array helements, depth_array hothers]
    refine Nat.succ_le_succ (depthItems_le fun item hitem => ?_)
    obtain ⟨other, hother, hsame⟩ := exists_right_of_forall₂ hitems hitem
    exact Nat.le_trans (ih item hitem hsame) (depth_le_depthItems hother)
  | dict members ih =>
    obtain ⟨others, rfl, -, hmembers⟩ := same_dict.1 h
    refine Nat.succ_le_succ (depthMembers_le fun entry hentry => ?_)
    obtain ⟨other, hother, hsame⟩ := hmembers entry hentry
    exact Nat.le_trans (ih entry hentry hsame) (depth_le_depthMembers (Table.mem_of_get? hother))

/-! ## Values that are alike -/

/-- The same JSON value, and no object in it repeats a key. -/
structure Alike (value other : Value) : Prop where
  keyed : value.Keyed
  keyed' : other.Keyed
  same : value.same other = true

namespace Alike

variable {value other : Value}

theorem symm (h : value.Alike other) : other.Alike value :=
  ⟨h.keyed', h.keyed, same_symm h.keyed h.keyed' h.same⟩

/-- Alike values are the same as the same values. -/
theorem same_eq (h : value.Alike other) (third : Value) : value.same third = other.same third := by
  rw [Bool.eq_iff_iff]
  exact ⟨fun hthird => same_trans h.symm.same hthird, fun hthird => same_trans h.same hthird⟩

theorem depth_eq (h : value.Alike other) : value.depth = other.depth :=
  Nat.le_antisymm (depth_le_of_same h.same) (depth_le_of_same h.symm.same)

/-- Keys of alike values are the same as keys of alike values. -/
theorem key_same_eq {item item' : Value} (h : value.Alike other) (h' : item.Alike item') :
    value.key.same item.key = other.key.same item'.key := by
  have hsame : value.same item = true ↔ other.same item' = true := by
    rw [h.same_eq item]
    exact ⟨fun hitem => same_trans hitem h'.same, fun hitem => same_trans hitem h'.symm.same⟩
  rw [Bool.eq_iff_iff, key_same h.keyed h'.keyed, key_same h.keyed' h'.keyed', hsame]

/-- Alike arrays have alike items at each position. -/
theorem elements (h : value.Alike other) {items : List Value}
    (helements : value.elements? = some items) :
    ∃ others, other.elements? = some others ∧ List.Forall₂ Alike items others := by
  obtain ⟨others, hothers, hitems⟩ := (same_array helements).1 h.same
  exact ⟨others, hothers, forall₂_imp_mem hitems fun item hitem other hmem hsame =>
    ⟨h.keyed.item helements hitem, h.keyed'.item hothers hmem, hsame⟩⟩

theorem of_members (h : value.Alike other) {members : List (String × Value)}
    (hmembers : value.members? = some members) : (dict members).Alike other := by
  cases value <;> cases hmembers
  exact h

/-- Alike objects have as many members, and alike ones under each name. -/
theorem members {members : List (String × Value)} (h : (dict members).Alike other) :
    ∃ others, other = .dict others ∧ members.length = others.length ∧
      ∀ name member, Table.get? others name = some member →
        ∃ found, Table.get? members name = some found ∧ found.Alike member := by
  obtain ⟨others, rfl, hlength, -⟩ := same_dict.1 h.same
  refine ⟨others, rfl, hlength, fun name member hget => ?_⟩
  have hmem := Table.mem_of_get? hget
  obtain ⟨⟨_, found⟩, hfound, rfl, hsame⟩ :=
    ((same_dict_iff h.keyed.1 h.keyed'.1).1 h.same).2 (name, member) hmem
  exact ⟨found, Table.get?_of_mem h.keyed.1 hfound, h.keyed.member hfound, h.keyed'.member hmem,
    hsame⟩

end Alike

theorem forall₂_alike_symm {others : List Value} (h : List.Forall₂ Alike items others) :
    List.Forall₂ Alike others items :=
  List.Forall₂.flip (h.imp fun _ _ halike => halike.symm)

end Value

end SchemaGuard
