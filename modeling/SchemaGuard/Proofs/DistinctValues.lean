import Mathlib.Data.Finset.Card
import SchemaGuard.Proofs.Sameness

/-!
# Counting distinct values

How many different values a list holds is counted through keys. What is counted are the classes of
the relation of being the same JSON value.

**Theorem (`countUnique_classes`).** On values without `nan`, keys are the same if and only if their
values are, and this is an equivalence relation. The count of a list is the number of classes of its
values; it does not depend on their order, and it is the length of the list if and only if no two
positions hold the same value.

A number that compares with nothing is not the same as itself, and an object that repeats a key has
members that cannot be looked up. `Definite` values are the ones with neither. On these the relation
is a setoid, so a class is an element of the quotient. The count of a list is followed along its
recursion: one more value adds a class exactly when its key is not among the others.
-/

namespace SchemaGuard

theorem Number.same_self {number : Number} (h : number ≠ .float .nan) :
    number.same number = true := by
  have hplace : ∃ place, number.place? = some place := by
    cases number with
    | int value => exact ⟨_, rfl⟩
    | float value =>
      cases value with
      | nan => exact absurd rfl h
      | infinite negative => exact ⟨_, rfl⟩
      | finite negative exponent fraction => exact ⟨_, rfl⟩
  obtain ⟨place, hplace⟩ := hplace
  exact Number.same_iff.2 ⟨place, hplace, hplace⟩

namespace Value

/-! ## Values that are the same as themselves -/

mutual

/-- No number in a value is `nan`. -/
def NanFree : Value → Prop
  | number value => value ≠ .float .nan
  | list items => NanFreeItems items
  | tuple items => NanFreeItems items
  | dict members => NanFreeMembers members
  | _ => True

def NanFreeItems : List Value → Prop
  | [] => True
  | item :: items => item.NanFree ∧ NanFreeItems items

def NanFreeMembers : List (String × Value) → Prop
  | [] => True
  | (_, member) :: members => member.NanFree ∧ NanFreeMembers members

end

theorem nanFreeItems_iff {items : List Value} :
    NanFreeItems items ↔ ∀ item ∈ items, item.NanFree := by
  induction items with
  | nil => simp [NanFreeItems]
  | cons item items ih => simp [NanFreeItems, ih]

theorem nanFreeMembers_iff {members : List (String × Value)} :
    NanFreeMembers members ↔ ∀ entry ∈ members, entry.2.NanFree := by
  induction members with
  | nil => simp [NanFreeMembers]
  | cons entry members ih => simp [NanFreeMembers, ih]

theorem NanFree.item {value item : Value} {items : List Value} (h : value.NanFree)
    (helements : value.elements? = some items) (hitem : item ∈ items) : item.NanFree := by
  cases value <;> cases helements
  · exact nanFreeItems_iff.1 h item hitem
  · exact nanFreeItems_iff.1 h item hitem

theorem same_self {value : Value} (hkeyed : value.Keyed) (hnan : value.NanFree) :
    value.same value = true := by
  induction value using Value.induction with
  | null => exact same_null.2 rfl
  | bool truth => exact same_bool.2 rfl
  | string text => exact same_string.2 rfl
  | bytes data => exact same_bytes.2 rfl
  | number value => exact same_number.2 ⟨value, rfl, Number.same_self hnan⟩
  | array value items helements ih =>
    refine (same_array helements).2 ⟨items, helements, List.forall₂_same.2 fun item hitem => ?_⟩
    exact ih item hitem (hkeyed.item helements hitem) (hnan.item helements hitem)
  | dict members ih =>
    refine same_dict.2 ⟨members, rfl, rfl, fun entry hentry => ?_⟩
    have hsame : entry.2.same entry.2 = true :=
      ih entry hentry (hkeyed.member hentry) (nanFreeMembers_iff.1 hnan entry hentry)
    exact ⟨entry.2, Table.get?_of_mem hkeyed.1 hentry, hsame⟩

theorem keyItems_eq_map (values : List Value) : keyItems values = values.map key := by
  induction values with
  | nil => rfl
  | cons value values ih => rw [keyItems, ih, List.map_cons]

/-! ## Classes of values -/

/-- A value in which every object has each key once and no number is `nan`. -/
structure Definite where
  value : Value
  keyed : value.Keyed
  nanFree : value.NanFree

namespace Definite

/-- Being the same JSON value. -/
instance sameness : Setoid Definite where
  r a b := a.value.same b.value = true
  iseqv :=
    { refl := fun a => same_self a.keyed a.nanFree
      symm := fun {a b} => same_symm a.keyed b.keyed
      trans := same_trans }

instance (a b : Definite) : Decidable (a ≈ b) :=
  inferInstanceAs (Decidable (a.value.same b.value = true))

/-- The JSON values that values stand for. -/
abbrev Class : Type := Quotient sameness

/-- The class of a value. -/
def toClass (a : Definite) : Class := Quotient.mk sameness a

theorem toClass_eq_iff {a b : Definite} : a.toClass = b.toClass ↔ a.value.same b.value = true :=
  Quotient.eq

theorem key_same_iff (a b : Definite) :
    a.value.key.same b.value.key = true ↔ a.toClass = b.toClass := by
  rw [toClass_eq_iff, key_same a.keyed b.keyed]

/-! ## The count -/

variable (values : List Definite)

/-- One more value is counted if its class is not among those of the others. -/
theorem countUnique_cons (a : Definite) (values : List Definite) :
    countUnique ((a :: values).map value) =
      if a.toClass ∈ values.map toClass then countUnique (values.map value)
      else countUnique (values.map value) + 1 := by
  have hmem : (keyItems (values.map value)).any (a.value.key.same ·) = true ↔
      a.toClass ∈ values.map toClass := by
    rw [keyItems_eq_map, List.map_map, List.any_map, List.any_eq_true, List.mem_map]
    exact exists_congr fun b => and_congr_right fun _ => (key_same_iff a b).trans eq_comm
  rw [List.map_cons, countUnique, keyItems, Key.countDistinct]
  exact if_congr hmem rfl rfl

/-- **The count of a list is the number of classes of its values.** -/
theorem countUnique_eq_card :
    countUnique (values.map value) = (values.map toClass).toFinset.card := by
  induction values with
  | nil => rfl
  | cons a values ih =>
    rw [countUnique_cons, ih, List.map_cons, List.toFinset_cons]
    by_cases hmem : a.toClass ∈ values.map toClass
    · rw [if_pos hmem, Finset.insert_eq_of_mem (List.mem_toFinset.2 hmem)]
    · rw [if_neg hmem, Finset.card_insert_of_notMem (mt List.mem_toFinset.1 hmem)]

theorem countUnique_perm {values others : List Definite} (h : values.Perm others) :
    countUnique (values.map value) = countUnique (others.map value) := by
  rw [countUnique_eq_card, countUnique_eq_card, List.toFinset_eq_of_perm _ _ (h.map toClass)]

theorem countUnique_eq_length_iff :
    countUnique (values.map value) = values.length ↔ (values.map toClass).Nodup := by
  have hcount :=
    Multiset.toFinset_card_eq_card_iff_nodup (m := (values.map toClass : Multiset Class))
  rw [Multiset.coe_card, List.length_map, Multiset.coe_nodup] at hcount
  rw [countUnique_eq_card]
  exact hcount

theorem nodup_toClass_iff :
    (values.map toClass).Nodup ↔ ∀ i j : Fin values.length, i ≠ j →
      (values.get i).value.same (values.get j).value = false := by
  have hdiffer : ∀ a b : Definite, a.toClass ≠ b.toClass ↔ a.value.same b.value = false := by
    intro a b
    rw [Ne, toClass_eq_iff, Bool.not_eq_true]
  rw [List.nodup_iff_pairwise_ne, List.pairwise_map, List.pairwise_iff_get]
  simp only [← hdiffer]
  constructor
  · intro h i j hne
    rcases Nat.lt_or_gt_of_ne (Fin.val_ne_of_ne hne) with hlt | hlt
    · exact h i j hlt
    · exact (h j i hlt).symm
  · intro h i j hlt
    exact h i j (Fin.ne_of_lt hlt)

end Definite

/-- **Keys agree with the sameness of values, and counting by keys counts JSON values.** -/
theorem countUnique_classes :
    (∀ a b : Definite, a.value.key.same b.value.key = true ↔ a.value.same b.value = true) ∧
    (Equivalence fun a b : Definite => a.value.same b.value = true) ∧
    (∀ values : List Definite, countUnique (values.map (·.value)) =
      (values.map Definite.toClass).toFinset.card) ∧
    (∀ values others : List Definite, values.Perm others →
      countUnique (values.map (·.value)) = countUnique (others.map (·.value))) ∧
    ∀ values : List Definite, countUnique (values.map (·.value)) = values.length ↔
      ∀ i j : Fin values.length, i ≠ j →
        (values.get i).value.same (values.get j).value = false := by
  refine ⟨fun a b => key_same a.keyed b.keyed, Definite.sameness.iseqv,
    Definite.countUnique_eq_card, fun values others => Definite.countUnique_perm, fun values => ?_⟩
  rw [Definite.countUnique_eq_length_iff, Definite.nodup_toClass_iff]

/-- Values of every kind. The second object has the members of the first in another order, with a
number and a sequence of other kinds. -/
def assorted : List Definite := [
  ⟨.number (.int 1), trivial, by simp [NanFree]⟩,
  ⟨.bool true, trivial, trivial⟩,
  ⟨.bytes [0x27, 0xff], trivial, trivial⟩,
  ⟨.dict [("a", .number (.int 2)), ("b", .list [.null])],
    by simp [Keyed, KeyedMembers, KeyedItems, Table.keys],
    by simp [NanFree, NanFreeMembers, NanFreeItems]⟩,
  ⟨.dict [("b", .tuple [.null]),
      ("a", .number (.float (.finite false ⟨1024, by decide⟩ ⟨0, by decide⟩)))],
    by simp [Keyed, KeyedMembers, KeyedItems, Table.keys],
    by simp [NanFree, NanFreeMembers, NanFreeItems]⟩]

/-- The theorem at values of every kind, five values of four classes. -/
theorem countUnique_classes_assorted : assorted.Perm assorted.reverse ∧
    countUnique (assorted.map (·.value)) = 4 ∧
    countUnique (assorted.reverse.map (·.value)) = 4 := by
  have hperm : assorted.Perm assorted.reverse := (List.reverse_perm assorted).symm
  have hcount : countUnique (assorted.map (·.value)) = 4 := by decide +kernel
  have hreversed := countUnique_classes.2.2.2.1 assorted assorted.reverse hperm
  exact ⟨hperm, hcount, hreversed.symm.trans hcount⟩

end Value

end SchemaGuard
