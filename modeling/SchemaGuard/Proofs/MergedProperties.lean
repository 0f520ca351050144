import SchemaGuard.Proofs.Merging
import SchemaGuard.Proofs.ObjectBranches

/-!
# The properties of an `allOf`

**Theorem (`merge_exact`).** Merging the branches of an `allOf` gives one property for each name that
its object branches declare, where it is declared first, with the schema by which it is declared
last. It is required if and only if its name is listed in time. If objects declare the names that
they list, that is if some object lists it; but a name that is listed before the branch that declares
it is lost (`late_property_optional`).

What is merged so far is known by three views: the names in order, the last schema of a name, and
whether a name is required. Adding a branch acts on each of them as adding its objects does
(`Tabulates.addBranch`), so the induction over branches has to say nothing else of the table.
-/

namespace SchemaGuard

/-! ## First occurrences -/

section FirstOccurrences

variable {α : Type} [BEq α] [LawfulBEq α] {l : List α}

theorem eraseDups_of_nodup (h : l.Nodup) : l.eraseDups = l := by
  induction l with
  | nil => rfl
  | cons a l ih =>
    obtain ⟨hnew, hrest⟩ := List.nodup_cons.1 h
    have hfilter : l.filter (fun b => !b == a) = l := by
      refine List.filter_eq_self.2 fun b hmem => ?_
      have hne : b ≠ a := fun heq => hnew (heq ▸ hmem)
      simpa using hne
    rw [List.eraseDups_cons, hfilter, ih hrest]

/-- What occurred before does not count. -/
theorem eraseDups_append_filter (l m : List α) (p : α → Bool)
    (h : ∀ a ∈ m, p a = false → a ∈ l) : (l ++ m.filter p).eraseDups = (l ++ m).eraseDups := by
  rw [List.eraseDups_append, List.eraseDups_append]
  congr 2
  rw [List.removeAll, List.removeAll, List.filter_filter]
  refine List.filter_congr fun a hmem => ?_
  cases hp : p a with
  | true => simp
  | false =>
    have hold := h a hmem hp
    simp [hold]

theorem eraseDups_append_eraseDups (l m : List α) :
    (l ++ m.eraseDups).eraseDups = (l ++ m).eraseDups := by
  induction hlength : m.length using Nat.strongRecOn generalizing l m with
  | ind n ih =>
    cases m with
    | nil => rfl
    | cons a m =>
      have hshort : (m.filter fun b => !b == a).length < n := by
        have := List.length_filter_le (fun b => !b == a) m
        rw [List.length_cons] at hlength
        omega
      have hold : ∀ b ∈ m, (!b == a) = false → b ∈ l ++ [a] := by
        intro b _ hb
        simp only [Bool.not_eq_false', beq_iff_eq] at hb
        simp [hb]
      calc (l ++ (a :: m).eraseDups).eraseDups
          = ((l ++ [a]) ++ (m.filter fun b => !b == a).eraseDups).eraseDups := by
            rw [List.eraseDups_cons, List.append_assoc]
            rfl
        _ = ((l ++ [a]) ++ m.filter fun b => !b == a).eraseDups := ih _ hshort _ _ rfl
        _ = ((l ++ [a]) ++ m).eraseDups := eraseDups_append_filter _ _ _ hold
        _ = (l ++ a :: m).eraseDups := by rw [List.append_assoc]; rfl

theorem nodup_eraseDups (l : List α) : l.eraseDups.Nodup := by
  induction hlength : l.length using Nat.strongRecOn generalizing l with
  | ind n ih =>
    cases l with
    | nil => exact List.nodup_nil
    | cons a l =>
      have hshort : (l.filter fun b => !b == a).length < n := by
        have := List.length_filter_le (fun b => !b == a) l
        rw [List.length_cons] at hlength
        omega
      rw [List.eraseDups_cons, List.nodup_cons, List.mem_eraseDups]
      exact ⟨by simp, ih _ hshort _ rfl⟩

/-- The first occurrences in two lists, one after the other. -/
theorem eraseDups_append_congr {l l' m m' : List α} (hl : l.eraseDups = l'.eraseDups)
    (hm : m.eraseDups = m'.eraseDups) : (l ++ m).eraseDups = (l' ++ m').eraseDups := by
  have hleft : ∀ k n : List α, (k.eraseDups ++ n).eraseDups = (k ++ n).eraseDups := by
    intro k n
    have hsame : n.removeAll k.eraseDups = n.removeAll k := by
      rw [List.removeAll, List.removeAll]
      refine List.filter_congr fun a _ => ?_
      rw [Bool.not_inj_iff, Bool.eq_iff_iff, List.elem_iff, List.elem_iff, List.mem_eraseDups]
    rw [List.eraseDups_append, List.eraseDups_append, eraseDups_of_nodup (nodup_eraseDups k), hsame]
  rw [← eraseDups_append_eraseDups, ← hleft, hl, hm, hleft, eraseDups_append_eraseDups]

end FirstOccurrences

namespace TypeDecl

/-! ## What a list of properties says of a name -/

/-- The schema that the last property of a name has. -/
def lastNode? (properties : List (Property Node)) (name : String) : Option Node :=
  (properties.reverse.find? (·.name == name)).map (·.node)

/-- A property of the name is required. -/
def requiresIn (properties : List (Property Node)) (name : String) : Bool :=
  properties.any fun property => property.name == name && property.required

theorem lastNode?_append (before after : List (Property Node)) (name : String) :
    lastNode? (before ++ after) name = (lastNode? after name).or (lastNode? before name) := by
  simp [lastNode?, List.reverse_append, List.find?_append, Option.map_or]

theorem lastNode?_cons (property : Property Node) (properties : List (Property Node))
    (name : String) : lastNode? (property :: properties) name =
      (lastNode? properties name).or (if name = property.name then some property.node else none) := by
  have hsingle : lastNode? [property] name =
      if name = property.name then some property.node else none := by
    by_cases heq : name = property.name
    · simp [lastNode?, heq]
    · simp [lastNode?, heq, Ne.symm heq]
  rw [← hsingle, ← lastNode?_append]
  rfl

/-- The entries of a table stand under their names, each under its own. -/
structure Keyed (table : Table (Property Node)) : Prop where
  name : ∀ entry ∈ table, entry.2.name = entry.1
  nodup : table.keys.Nodup

namespace Keyed

variable {table : Table (Property Node)}

theorem names_eq (h : Keyed table) : (table.map (·.2)).map (·.name) = table.keys := by
  rw [List.map_map]
  exact List.map_congr_left h.name

theorem tail {entry : String × Property Node} (h : Keyed (entry :: table)) : Keyed table :=
  ⟨fun other hmem => h.name other (List.mem_cons_of_mem _ hmem), (List.nodup_cons.1 h.nodup).2⟩

theorem lastNode?_eq (h : Keyed table) (name : String) :
    lastNode? (table.map (·.2)) name = (table.get? name).map (·.node) := by
  induction table with
  | nil => rfl
  | cons entry table ih =>
    rw [List.map_cons, lastNode?_cons, ih h.tail, Table.get?_cons,
      h.name entry List.mem_cons_self]
    by_cases heq : name = entry.1
    · subst heq
      have hnone : Table.get? table entry.1 = none := by
        rw [Option.eq_none_iff_forall_ne_some]
        intro value hvalue
        exact (List.nodup_cons.1 h.nodup).1 (Table.mem_keys.2 ⟨value, hvalue⟩)
      simp [hnone]
    · simp [heq]

theorem requiresIn_eq (h : Keyed table) (name : String) :
    requiresIn (table.map (·.2)) name = (table.get? name).any (·.required) := by
  rw [Bool.eq_iff_iff, Option.any_eq_true]
  simp only [requiresIn, List.any_eq_true, List.mem_map, Bool.and_eq_true, beq_iff_eq]
  constructor
  · rintro ⟨property, ⟨entry, hmem, rfl⟩, hname, hrequired⟩
    refine ⟨entry.2, Table.get?_of_mem h.nodup ?_, hrequired⟩
    rw [← hname, h.name entry hmem]
    exact hmem
  · rintro ⟨property, hget, hrequired⟩
    have hmem := Table.mem_of_get? hget
    exact ⟨property, ⟨_, hmem, rfl⟩, h.name _ hmem, hrequired⟩

end Keyed

/-! ## Adding properties -/

section Adding

variable {merged : Table (Property Node)}

theorem addProperty_keyed (h : Keyed merged) (property : Property Node) :
    Keyed (addProperty merged property) := by
  refine ⟨fun entry hmem => ?_, ?_⟩
  · rcases Table.mem_put hmem with rfl | hmem
    · rfl
    · exact h.name entry hmem
  · rw [addProperty, Table.keys_put]
    split
    · exact h.nodup
    · rename_i hnew
      exact List.nodup_append.2 ⟨h.nodup, List.nodup_singleton _, fun a ha b hb hab =>
        hnew (List.mem_singleton.1 hb ▸ hab ▸ ha)⟩

theorem addProperties_keyed (h : Keyed merged) (properties : List (Property Node)) :
    Keyed (properties.foldl addProperty merged) := by
  induction properties generalizing merged with
  | nil => exact h
  | cons property properties ih => exact ih (addProperty_keyed h property)

theorem keys_addProperties (h : Keyed merged) (properties : List (Property Node)) :
    (properties.foldl addProperty merged).keys =
      (merged.keys ++ properties.map (·.name)).eraseDups := by
  induction properties generalizing merged with
  | nil => rw [List.map_nil, List.append_nil, eraseDups_of_nodup h.nodup, List.foldl_nil]
  | cons property properties ih =>
    rw [List.foldl_cons, ih (addProperty_keyed h property), addProperty, Table.keys_put,
      List.map_cons]
    split
    · rename_i hold
      have hdrop := eraseDups_append_filter merged.keys
        (property.name :: properties.map (·.name)) (!merged.keys.contains ·) (by simp)
      have hdrop' := eraseDups_append_filter merged.keys
        (properties.map (·.name)) (!merged.keys.contains ·) (by simp)
      rw [← hdrop, ← hdrop', List.filter_cons]
      simp [hold]
    · rw [List.append_assoc]
      rfl

theorem node_addProperties (properties : List (Property Node)) (name : String) :
    ((properties.foldl addProperty merged).get? name).map (·.node) =
      (lastNode? properties name).or ((merged.get? name).map (·.node)) := by
  induction properties generalizing merged with
  | nil => rfl
  | cons property properties ih =>
    rw [List.foldl_cons, ih, lastNode?_cons, addProperty, Table.get?_put]
    by_cases heq : name = property.name
    · cases lastNode? properties name <;> simp [heq]
    · cases lastNode? properties name <;> simp [heq]

theorem required_addProperties (properties : List (Property Node)) (name : String) :
    ((properties.foldl addProperty merged).get? name).any (·.required) =
      (((merged.get? name).any (·.required)) || requiresIn properties name) := by
  induction properties generalizing merged with
  | nil => simp [requiresIn]
  | cons property properties ih =>
    rw [List.foldl_cons, ih, addProperty, Table.get?_put, requiresIn, requiresIn, List.any_cons]
    by_cases heq : name = property.name
    · subst heq
      cases merged.get? property.name with
      | none => simp
      | some old => simp [Bool.or_left_comm, Bool.or_assoc]
    · simp [heq, beq_eq_false_iff_ne.2 (Ne.symm heq)]

theorem get?_requireNames (names : List String) (name : String) :
    (requireNames merged names).get? name = (merged.get? name).map fun property =>
      { property with required := property.required || names.contains name } := by
  induction merged with
  | nil => rfl
  | cons entry merged ih =>
    rw [requireNames, List.map_cons, Table.get?_cons, Table.get?_cons]
    by_cases heq : name = entry.1
    · simp [heq]
    · rw [if_neg heq, if_neg heq]
      exact ih

theorem required_requireNames (names : List String) (name : String) :
    ((requireNames merged names).get? name).any (·.required) =
      ((merged.get? name).any (·.required) ||
        ((merged.get? name).isSome && names.contains name)) := by
  rw [get?_requireNames]
  cases merged.get? name with
  | none => rfl
  | some property => simp

theorem keys_requireNames (names : List String) :
    (requireNames merged names).keys = merged.keys := by
  simp [requireNames, Table.keys]

theorem requireNames_keyed (h : Keyed merged) (names : List String) :
    Keyed (requireNames merged names) := by
  refine ⟨fun entry hmem => ?_, by rw [keys_requireNames]; exact h.nodup⟩
  obtain ⟨added, hadded, rfl⟩ := List.mem_map.1 hmem
  exact h.name added hadded

end Adding

/-! ## Merging -/

/-- Properties that were found, if any, are those of the object branches of some nodes. -/
structure Collects (document : Json) (branches : List Node) (objects : List ObjectBranch)
    (found : Option (List (Property Node))) : Prop where
  source : Objects document branches objects
  isNone : found = none ↔ objects = []
  names : ((found.getD []).map (·.name)).eraseDups = ((declaredBy objects).map (·.name)).eraseDups
  node : ∀ name, lastNode? (found.getD []) name = lastNode? (declaredBy objects) name
  required : ∀ name, requiresIn (found.getD []) name = true ↔ ListedInTime document branches name

section Merge

variable {document : Json} {branches : List Node} {objects : List ObjectBranch}

/-- Without object branches nothing is found. -/
theorem Collects.none (h : Objects document branches []) : Collects document branches [] none := by
  refine ⟨h, by simp, rfl, fun _ => rfl, fun name => ?_⟩
  constructor
  · intro hname
    cases hname
  · intro hname
    obtain ⟨object, hmem, -⟩ := hname.listed_of h
    cases hmem

/-- The properties of an object schema. -/
theorem Collects.of_object {origin : Origin} {properties : Option (List (Property Node))}
    {required : List String} {additional : Additional Node} {limits : ObjectLimits}
    (hread : Schema.ReadFrom document (.object origin properties required additional limits)) :
    Collects document [.object origin properties required additional limits]
      [⟨properties.getD [], required⟩] (some (properties.getD [])) := by
  have hrequired : ∀ property ∈ properties.getD [],
      property.required = required.contains property.name := by
    cases properties with
    | none => exact fun _ hmem => (List.not_mem_nil hmem).elim
    | some properties => exact fun property hmem => hread.required_eq hmem
  refine ⟨.object .nil, by simp, by simp [declaredBy], fun name => by simp [declaredBy],
    fun name => ?_⟩
  rw [ListedInTime.object_iff, Option.getD_some, requiresIn, List.any_eq_true]
  constructor
  · rintro ⟨property, hmem, hname⟩
    obtain ⟨hname, hlisted⟩ := Bool.and_eq_true_iff.1 hname
    rw [hrequired property hmem, List.contains_iff_mem] at hlisted
    rw [← eq_of_beq hname]
    exact ⟨hlisted, List.mem_map_of_mem hmem⟩
  · rintro ⟨hlisted, hdeclared⟩
    obtain ⟨property, hmem, rfl⟩ := List.mem_map.1 hdeclared
    refine ⟨property, hmem, ?_⟩
    rw [hrequired property hmem, List.contains_iff_mem.2 hlisted]
    simp

/-- The table of the properties merged so far. -/
structure Tabulates (document : Json) (branches : List Node) (objects : List ObjectBranch)
    (merged : Option (Table (Property Node))) : Prop where
  keyed : Keyed (merged.getD [])
  collects : Collects document branches objects (merged.map fun table => table.map (·.2))

variable {merged : Option (Table (Property Node))} {branch : Node} {others : List ObjectBranch}
  {properties : List (Property Node)}

theorem getD_map_values (merged : Option (Table (Property Node))) :
    (merged.map fun table => table.map (·.2)).getD [] = (merged.getD []).map (·.2) := by
  cases merged <;> rfl

/-- What merging so far and one more branch come to. -/
theorem Tabulates.addBranch (h : Tabulates document branches objects merged)
    (hfound : Collects document [branch] others (some properties)) :
    Tabulates document (branches ++ [branch]) (objects ++ others)
      (some (requireNames (properties.foldl addProperty (merged.getD [])) (ownRequired branch))) := by
  obtain ⟨hkeyed, hcollects⟩ := h
  have hadded := addProperties_keyed hkeyed properties
  have hall := requireNames_keyed hadded (ownRequired branch)
  have hnames : (merged.getD []).keys.eraseDups = ((declaredBy objects).map (·.name)).eraseDups := by
    rw [← hcollects.names, getD_map_values, hkeyed.names_eq]
  have hkeys : (properties.foldl addProperty (merged.getD [])).keys =
      ((declaredBy (objects ++ others)).map (·.name)).eraseDups := by
    rw [keys_addProperties hkeyed, declaredBy, List.flatMap_append, List.map_append]
    exact eraseDups_append_congr hnames hfound.names
  refine ⟨hall, hcollects.source.append hfound.source, ?_, ?_, fun name => ?_, fun name => ?_⟩
  · have hsome : others ≠ [] := fun hnone => by cases hfound.isNone.2 hnone
    simp [hsome]
  · rw [getD_map_values, Option.getD_some, hall.names_eq, keys_requireNames, hkeys,
      eraseDups_of_nodup (nodup_eraseDups _)]
  · have hold := hcollects.node name
    rw [getD_map_values, hkeyed.lastNode?_eq] at hold
    rw [getD_map_values, Option.getD_some, hall.lastNode?_eq, get?_requireNames, Option.map_map,
      declaredBy, List.flatMap_append, lastNode?_append]
    refine (node_addProperties properties name).trans ?_
    rw [hold]
    exact congrArg (Option.or · _) (hfound.node name)
  · have hold := hcollects.required name
    rw [getD_map_values, hkeyed.requiresIn_eq] at hold
    have hsome : ((properties.foldl addProperty (merged.getD [])).get? name).isSome = true ↔
        name ∈ (declaredBy (objects ++ others)).map (·.name) := by
      rw [Option.isSome_iff_exists, ← Table.mem_keys, hkeys, List.mem_eraseDups]
    rw [getD_map_values, Option.getD_some, hall.requiresIn_eq, required_requireNames,
      required_addProperties, Bool.or_eq_true, Bool.or_eq_true, Bool.and_eq_true, hold, hsome,
      List.contains_iff_mem, ListedInTime.append_single_iff hcollects.source hfound.source, or_assoc,
      ← hfound.required name]
    exact or_congr_right (or_congr_right and_comm)

/-- A branch that is no object adds nothing. -/
theorem Tabulates.skipBranch (h : Tabulates document branches objects merged)
    (hfound : Collects document [branch] others none) :
    Tabulates document (branches ++ [branch]) objects merged := by
  obtain ⟨hkeyed, hcollects⟩ := h
  obtain rfl : others = [] := hfound.isNone.1 rfl
  have hsource := hcollects.source.append hfound.source
  rw [List.append_nil] at hsource
  refine ⟨hkeyed, hsource, hcollects.isNone, hcollects.names, hcollects.node, fun name => ?_⟩
  have hown : name ∉ ownRequired branch := by
    cases branch with
    | object => cases hfound.source.unique (.object .nil)
    | unknown | const | enum | primitive | union | array | combinator | ref => exact List.not_mem_nil
  have hinside : ¬ListedInTime document [branch] name := fun hlisted => by
    cases (hfound.required name).2 hlisted
  rw [hcollects.required name, ListedInTime.append_single_iff hcollects.source hfound.source]
  simp [hown, hinside]

theorem Tabulates.nil : Tabulates document [] [] none where
  keyed := ⟨fun _ hmem => (List.not_mem_nil hmem).elim, List.nodup_nil⟩
  collects := .none .nil

variable {place : Place} {fuel : Nat} {opened : List String}

/-- Branch after branch. -/
theorem foldlM_tabulates (hnode : ∀ branch s found s', Schema.ReadFrom place.document branch →
      Gives (propertiesOf place fuel opened branch) s found s' →
        ∃ objects, Collects place.document [branch] objects found) {before rest : List Node}
    (hread : ∀ branch ∈ rest, Schema.ReadFrom place.document branch)
    {result : Option (Table (Property Node))}
    (hmerged : Tabulates place.document before objects merged) {s s' : Progress}
    (h : Gives (rest.foldlM (fun merged branch =>
      propertiesOf place fuel opened branch >>= addBranch merged branch) merged) s result s') :
    ∃ objects, Tabulates place.document (before ++ rest) objects result := by
  induction rest generalizing before merged objects s with
  | nil =>
    obtain ⟨rfl, -⟩ := Gives.pure_iff.1 h
    rw [List.append_nil]
    exact ⟨objects, hmerged⟩
  | cons branch rest ih =>
    rw [List.foldlM_cons] at h
    obtain ⟨next, t', hstep, h⟩ := Gives.bind_iff.1 h
    obtain ⟨found, t, hfound, hadd⟩ := Gives.bind_iff.1 hstep
    obtain ⟨others, hothers⟩ := hnode branch _ _ _ (hread branch List.mem_cons_self) hfound
    have hrest : ∀ branch ∈ rest, Schema.ReadFrom place.document branch :=
      fun branch hmem => hread branch (List.mem_cons_of_mem _ hmem)
    rw [List.append_cons]
    cases found with
    | none =>
      have hnext : next = merged := by
        unfold TypeDecl.addBranch at hadd
        dsimp only at hadd
        split at hadd
        · obtain ⟨_, _, -, hadd⟩ := Gives.bind_iff.1 hadd
          exact (Gives.pure_iff.1 hadd).1
        · exact (Gives.pure_iff.1 hadd).1
      exact ih hrest (hnext ▸ hmerged.skipBranch hothers) h
    | some properties =>
      obtain ⟨rfl, -⟩ := Gives.pure_iff.1 hadd
      exact ih hrest (hmerged.addBranch hothers) h

/-- **Collecting finds the properties of the object branches.** -/
theorem collecting_exact (place : Place) (fuel : Nat) :
    (∀ opened node s found s', Schema.ReadFrom place.document node →
      Gives (propertiesOf place fuel opened node) s found s' →
        ∃ objects, Collects place.document [node] objects found) ∧
    ∀ opened branches s merged s', (∀ branch ∈ branches, Schema.ReadFrom place.document branch) →
      Gives (merge place fuel opened branches) s merged s' →
        ∃ objects, Collects place.document branches objects merged ∧
          ((merged.getD []).map (·.name)).Nodup := by
  induction fuel with
  | zero =>
    exact ⟨fun _ _ _ _ _ _ h => (Gives.throw_iff.1 h).elim,
      fun _ _ _ _ _ _ h => (Gives.throw_iff.1 h).elim⟩
  | succ fuel ih =>
    obtain ⟨hproperties, hmerge⟩ := ih
    refine ⟨fun opened node s found s' hread h => ?_, fun opened branches s merged s' hread h => ?_⟩
    · have hother : mayMerge node = false → found = none →
          ∃ objects, Collects place.document [node] objects found := by
        rintro hother rfl
        exact ⟨[], .none (.other hother .nil)⟩
      cases node with
      | combinator origin kind branches =>
        cases kind with
        | allOf =>
          obtain ⟨objects, hcollects, -⟩ := hmerge opened branches s found s'
            (fun branch hmem => hread.part (.branch hmem)) h
          refine ⟨objects, .allOf (by rw [List.append_nil]; exact hcollects.source),
            hcollects.isNone, hcollects.names, hcollects.node, fun name => ?_⟩
          rw [hcollects.required name, ListedInTime.allOf_iff]
        | oneOf => exact hother rfl (Gives.pure_iff.1 h).1
        | anyOf => exact hother rfl (Gives.pure_iff.1 h).1
      | ref origin target =>
        rw [propertiesOf_ref] at h
        split at h
        · exact (Gives.throw_iff.1 h).elim
        · split at h
          · rename_i node hnode
            obtain ⟨objects, hcollects⟩ := hproperties _ node s found s'
              (Schema.nodeAt_readFrom hnode) h
            refine ⟨objects, .ref hnode hcollects.source, hcollects.isNone, hcollects.names,
              hcollects.node, fun name => ?_⟩
            rw [hcollects.required name, ListedInTime.ref_iff hnode]
          · rename_i hnone
            obtain ⟨rfl, -⟩ := Gives.pure_iff.1 h
            exact ⟨[], .none (.dangling hnone .nil)⟩
          · exact (Gives.throw_iff.1 h).elim
          · exact (Gives.throw_iff.1 h).elim
      | object origin properties required additional limits =>
        obtain ⟨rfl, -⟩ := Gives.pure_iff.1 h
        exact ⟨_, .of_object hread⟩
      | unknown | const | enum | primitive | union | array =>
        exact hother rfl (Gives.pure_iff.1 h).1
    · rw [merge_succ] at h
      obtain ⟨table, t, htable, h⟩ := Gives.bind_iff.1 h
      obtain ⟨rfl, -⟩ := Gives.pure_iff.1 h
      obtain ⟨objects, hkeyed, hcollects⟩ := foldlM_tabulates (hproperties opened) hread .nil htable
      refine ⟨objects, hcollects, ?_⟩
      rw [getD_map_values, hkeyed.names_eq]
      exact hkeyed.nodup

/-- In a list with different names a property is the only one of its name. -/
theorem only_of_nodup (hnodup : (properties.map (·.name)).Nodup) {property : Property Node}
    (hmem : property ∈ properties) :
    lastNode? properties property.name = some property.node ∧
      requiresIn properties property.name = property.required := by
  have hkeyed : Keyed (properties.map fun property => (property.name, property)) := by
    refine ⟨fun entry hentry => ?_, by simpa [Table.keys, Function.comp_def] using hnodup⟩
    obtain ⟨other, -, rfl⟩ := List.mem_map.1 hentry
    rfl
  have hvalues : (properties.map fun property => (property.name, property)).map (·.2) =
      properties := by simp [Function.comp_def]
  have hget := Table.get?_of_mem hkeyed.nodup (List.mem_map_of_mem hmem)
  have hnode := hkeyed.lastNode?_eq property.name
  have hrequired := hkeyed.requiresIn_eq property.name
  rw [hvalues, hget] at hnode hrequired
  exact ⟨hnode, hrequired⟩

/-- **The properties of an `allOf`**: one for each name that its object branches declare, where it is
declared first, with the schema by which it is declared last. It is required if and only if its name
is listed in time; if objects declare what they list, that is if some object lists it. -/
theorem merge_exact {origin : Origin} {branches : List Node} {properties : List (Property Node)}
    {s s' : Progress}
    (hread : Schema.ReadFrom place.document (.combinator origin .allOf branches))
    (h : Gives (merge place fuel opened branches) s (some properties) s') :
    ∃ objects, Objects place.document branches objects ∧
      properties.map (·.name) = ((declaredBy objects).map (·.name)).eraseDups ∧
      ∀ property ∈ properties,
        lastNode? (declaredBy objects) property.name = some property.node ∧
        (property.required = true ↔ ListedInTime place.document branches property.name) ∧
        (property.required = true → ∃ object ∈ objects, property.name ∈ object.required) ∧
        ((∀ object ∈ objects, property.name ∈ object.required →
            property.name ∈ object.properties.map (·.name)) →
          (∃ object ∈ objects, property.name ∈ object.required) → property.required = true) := by
  obtain ⟨objects, hcollects, hnodup⟩ := (collecting_exact place fuel).2 opened branches s _ s'
    (fun branch hmem => hread.part (.branch hmem)) h
  rw [Option.getD_some] at hnodup
  refine ⟨objects, hcollects.source, ?_, fun property hmem => ?_⟩
  · rw [← hcollects.names, Option.getD_some, eraseDups_of_nodup hnodup]
  · have hrequired : property.required = true ↔
        ListedInTime place.document branches property.name := by
      rw [← hcollects.required, Option.getD_some, (only_of_nodup hnodup hmem).2]
    refine ⟨?_, hrequired, fun hlisted => (hrequired.1 hlisted).listed_of hcollects.source, ?_⟩
    · rw [← hcollects.node, Option.getD_some, (only_of_nodup hnodup hmem).1]
    · rintro hdeclared ⟨object, hobject, hlisted⟩
      exact hrequired.2 (.of_declared hcollects.source hobject hlisted
        (hdeclared object hobject hlisted))

end Merge

/-- The last branch requires what the first one declares, by a reference. -/
def baseSchema : Json := .object [
  ("allOf", .array [
    .object [("$ref", .string "#/$defs/base")],
    .object [("allOf", .array [.object [("type", .string "object"),
      ("properties", .object [("b", .bool true)]), ("required", .array [.string "b"])]])],
    .object [("type", .string "object"), ("required", .array [.string "a"])]]),
  ("$defs", .object [("base", .object [("type", .string "object"),
    ("properties", .object [("a", .object [("type", .string "string")])])])])]

theorem merge_exact_base : ∃ branches properties s',
    Schema.parse "#" baseSchema = .ok (.combinator ⟨"#", baseSchema⟩ .allOf branches) ∧
    Gives (merge ⟨baseSchema, "#"⟩ 4 [] branches) ⟨Registry.empty, [], []⟩ (some properties) s' ∧
    properties.map (·.name) = ["a", "b"] ∧
    ∀ property ∈ properties, ListedInTime baseSchema branches property.name := by
  obtain ⟨branches, properties, s', hparse, hgives, hnames, hrequired⟩ :
      ∃ branches properties s',
        Schema.parse "#" baseSchema = .ok (.combinator ⟨"#", baseSchema⟩ .allOf branches) ∧
        Gives (merge ⟨baseSchema, "#"⟩ 4 [] branches) ⟨Registry.empty, [], []⟩
          (some properties) s' ∧
        properties.map (·.name) = ["a", "b"] ∧ properties.all (·.required) = true :=
    ⟨_, _, _, rfl, rfl, rfl, rfl⟩
  have hread : Schema.ReadFrom baseSchema (.combinator ⟨"#", baseSchema⟩ .allOf branches) :=
    ⟨"#", baseSchema, fun _ h => h, hparse⟩
  obtain ⟨objects, -, -, hall⟩ := merge_exact hread hgives
  refine ⟨branches, properties, s', hparse, hgives, hnames, fun property hmem => ?_⟩
  exact (hall property hmem).2.1.1 (List.all_eq_true.1 hrequired property hmem)

/-- The second branch declares what the first one requires. -/
def lateSchema : Json := .object [("allOf", .array [
  .object [("type", .string "object"), ("required", .array [.string "a"])],
  .object [("type", .string "object"), ("properties", .object [
    ("a", .object [("type", .string "string")])])]])]

/-- What is required before it is declared stays optional. -/
theorem late_property_optional : ∃ branches properties objects s',
    Schema.parse "#" lateSchema = .ok (.combinator ⟨"#", lateSchema⟩ .allOf branches) ∧
    Gives (merge ⟨lateSchema, "#"⟩ 2 [] branches) ⟨Registry.empty, [], []⟩ (some properties) s' ∧
    Objects lateSchema branches objects ∧ (∃ object ∈ objects, "a" ∈ object.required) ∧
    ∃ property ∈ properties, property.name = "a" ∧ property.required = false := by
  refine ⟨_, _, _, _, rfl, rfl, .object (.object .nil), ?_, ?_⟩
  · exact ⟨_, List.mem_cons_self, List.mem_cons_self⟩
  · exact ⟨_, List.mem_cons_self, rfl, rfl⟩

end TypeDecl

end SchemaGuard
