import SchemaGuard.Table

/-!
# Looking up in tables

A key is in a table if and only if looking it up gives a value, and a value that was set is the one
found.
-/

namespace SchemaGuard.Table

variable {α : Type} {table : Table α} {key : String} {value : α}

theorem has_iff : table.has key = true ↔ ∃ value, table.get? key = some value := by
  unfold has get?
  rw [← Option.isSome_iff_exists, List.lookup_isSome_iff, List.any_eq_true]
  constructor
  · rintro ⟨entry, hmem, hkey⟩
    exact ⟨entry, hmem, by rw [BEq.comm]; exact hkey⟩
  · rintro ⟨entry, hmem, hkey⟩
    exact ⟨entry, hmem, by rw [BEq.comm]; exact hkey⟩

theorem lookup_cons_eq (key other : String) (value : α) (table : List (String × α)) :
    List.lookup other ((key, value) :: table) =
      if other = key then some value else List.lookup other table := by
  rw [List.lookup_cons]
  by_cases heq : other = key
  · simp [heq]
  · have hne : (other == key) = false := by simpa using heq
    simp [hne, heq]

theorem lookup_replaced (key other : String) (value : α) (table : List (String × α)) :
    List.lookup other (table.map fun entry => if entry.1 == key then (key, value) else entry) =
      if other = key then (List.lookup other table).map fun _ => value
      else List.lookup other table := by
  induction table with
  | nil => simp
  | cons entry table ih =>
    obtain ⟨name, found⟩ := entry
    rw [List.map_cons, lookup_cons_eq]
    by_cases hname : name = key
    · subst hname
      simp only [beq_self_eq_true, if_true, lookup_cons_eq, ih]
      split <;> rfl
    · have hne : (name == key) = false := by simpa using hname
      simp only [hne, Bool.false_eq_true, if_false, lookup_cons_eq, ih]
      by_cases hother : other = name
      · subst hother
        simp [hname]
      · simp [hother]

theorem get?_cons (entry : String × α) (table : Table α) (key : String) :
    Table.get? (entry :: table) key = if key = entry.1 then some entry.2 else table.get? key := by
  unfold get?
  rw [lookup_cons_eq]

theorem mem_of_get? (h : table.get? key = some value) : (key, value) ∈ table := by
  obtain ⟨before, after, rfl, _⟩ := List.lookup_eq_some_iff.1 h
  simp

/-- In a table without repeated keys every entry is found. -/
theorem get?_of_mem (hkeys : table.keys.Nodup) (h : (key, value) ∈ table) :
    table.get? key = some value := by
  induction table with
  | nil => cases h
  | cons entry table ih =>
    obtain ⟨hnew, hkeys⟩ := List.nodup_cons.1 hkeys
    rw [get?_cons]
    rcases List.mem_cons.1 h with rfl | hmem
    · rw [if_pos rfl]
    · have hother : key ≠ entry.1 := by
        rintro rfl
        exact hnew (List.mem_map.2 ⟨_, hmem, rfl⟩)
      rw [if_neg hother]
      exact ih hkeys hmem

theorem mem_keys : key ∈ table.keys ↔ ∃ value, table.get? key = some value := by
  rw [← has_iff]
  simp [keys, has]

/-- Looking up after setting a value. -/
@[simp] theorem get?_put (table : Table α) (key other : String) (value : α) :
    (table.put key value).get? other = if other = key then some value else table.get? other := by
  unfold put
  split
  · rename_i hhas
    obtain ⟨found, hfound⟩ := has_iff.1 hhas
    unfold get? at hfound ⊢
    rw [lookup_replaced]
    split
    · rename_i heq
      rw [heq, hfound]
      rfl
    · rfl
  · rename_i hhas
    have hnone : List.lookup key table = none := by
      rw [Option.eq_none_iff_forall_ne_some]
      intro found hfound
      exact hhas (has_iff.2 ⟨found, hfound⟩)
    unfold get?
    rw [List.lookup_append, lookup_cons_eq, List.lookup_nil]
    by_cases heq : other = key
    · subst heq
      simp [hnone]
    · simp [heq]

theorem has_put (table : Table α) (key other : String) (value : α) :
    (table.put key value).has other = true ↔ other = key ∨ table.has other = true := by
  rw [has_iff, has_iff]
  by_cases heq : other = key <;> simp [heq]

theorem mem_keys_put {table : Table α} {key other : String} {value : α} :
    other ∈ (table.put key value).keys ↔ other = key ∨ other ∈ table.keys := by
  rw [mem_keys, ← has_iff, has_put, mem_keys, has_iff]

theorem mem_put {table : Table α} {key : String} {value : α} {entry : String × α}
    (h : entry ∈ table.put key value) : entry = (key, value) ∨ entry ∈ table := by
  unfold put at h
  split at h
  · obtain ⟨found, hmem, rfl⟩ := List.mem_map.1 h
    split
    · exact .inl rfl
    · exact .inr hmem
  · rcases List.mem_append.1 h with hmem | hmem
    · exact .inr hmem
    · exact .inl (List.mem_singleton.1 hmem)

theorem get?_eq_some_iff (hkeys : table.keys.Nodup) :
    table.get? key = some value ↔ (key, value) ∈ table :=
  ⟨mem_of_get?, get?_of_mem hkeys⟩

theorem keys_put (table : Table α) (key : String) (value : α) :
    (table.put key value).keys = if key ∈ table.keys then table.keys else table.keys ++ [key] := by
  have hhas : table.has key = true ↔ key ∈ table.keys := has_iff.trans mem_keys.symm
  unfold put
  by_cases hold : key ∈ table.keys
  · rw [if_pos (hhas.2 hold), if_pos hold, keys, keys, List.map_map]
    refine List.map_congr_left fun entry _ => ?_
    by_cases hkey : entry.1 = key <;> simp [hkey]
  · rw [if_neg (mt hhas.1 hold), if_neg hold]
    simp [keys]

end SchemaGuard.Table
