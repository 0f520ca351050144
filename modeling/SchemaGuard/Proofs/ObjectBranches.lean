import SchemaGuard.TypeDecl.OfNode

/-!
# The object branches of an `allOf`

The object branches of an `allOf` are its object schemas, with those of nested `allOf`s and of
references in their places (`Objects`).

What they say of required names is heard *in time* or not (`ListedInTime`): an object schema is heard
about what it declares itself and about what the branches before it in its own `allOf` declare. What
it lists for a later branch, or for a branch outside a nested `allOf` or a reference that it stands
in, is not heard. An object that declares what it lists is heard about it wherever it stands
(`ListedInTime.of_declared`).
-/

namespace SchemaGuard.TypeDecl

/-- What an object schema among branches says: the properties it declares, the names it lists as
required. -/
structure ObjectBranch where
  properties : List (Property Node)
  required : List String

/-- Nodes that can have properties to merge. -/
def mayMerge : Node → Bool
  | .object .. => true
  | .combinator _ .allOf _ => true
  | .ref .. => true
  | _ => false

/-- The object branches of some nodes, in order: nested `allOf`s and references are replaced by what
they stand for. -/
inductive Objects (document : Json) : List Node → List ObjectBranch → Prop where
  | nil : Objects document [] []
  | object {origin : Origin} {properties : Option (List (Property Node))} {required : List String}
      {additional : Additional Node} {limits : ObjectLimits} {rest : List Node}
      {objects : List ObjectBranch} (hrest : Objects document rest objects) :
      Objects document (.object origin properties required additional limits :: rest)
        (⟨properties.getD [], required⟩ :: objects)
  | allOf {origin : Origin} {branches rest : List Node} {objects : List ObjectBranch}
      (hall : Objects document (branches ++ rest) objects) :
      Objects document (.combinator origin .allOf branches :: rest) objects
  | ref {origin : Origin} {target : String} {node : Node} {rest : List Node}
      {objects : List ObjectBranch} (hnode : Schema.nodeAt document target = .ok node)
      (hall : Objects document (node :: rest) objects) :
      Objects document (.ref origin target :: rest) objects
  | dangling {origin : Origin} {target : String} {error : PointerError} {rest : List Node}
      {objects : List ObjectBranch}
      (hnone : Schema.nodeAt document target = .error (.lookup (.pointer error)))
      (hrest : Objects document rest objects) :
      Objects document (.ref origin target :: rest) objects
  | other {node : Node} {rest : List Node} {objects : List ObjectBranch}
      (hother : mayMerge node = false) (hrest : Objects document rest objects) :
      Objects document (node :: rest) objects

/-- The properties that objects declare, in order. -/
def declaredBy (objects : List ObjectBranch) : List (Property Node) :=
  objects.flatMap (·.properties)

namespace Objects

variable {document : Json} {branches rest : List Node} {objects : List ObjectBranch}
  {others : List ObjectBranch}

theorem unique (h : Objects document branches objects)
    (hothers : Objects document branches others) : others = objects := by
  induction h generalizing others with
  | nil =>
    cases hothers
    rfl
  | object _ ih =>
    cases hothers with
    | object hrest => rw [ih hrest]
    | other hother => cases hother
  | allOf _ ih =>
    cases hothers with
    | allOf hall => exact ih hall
    | other hother => cases hother
  | ref hnode _ ih =>
    cases hothers with
    | ref hnode' hall =>
      rw [hnode] at hnode'
      cases hnode'
      exact ih hall
    | dangling hnone =>
      rw [hnode] at hnone
      cases hnone
    | other hother => cases hother
  | dangling hnone _ ih =>
    cases hothers with
    | ref hnode =>
      rw [hnone] at hnode
      cases hnode
    | dangling _ hrest => exact ih hrest
    | other hother => cases hother
  | other hother _ ih =>
    cases hothers with
    | other _ hrest => exact ih hrest
    | object | allOf | ref | dangling => cases hother

theorem append (h : Objects document branches objects) (hrest : Objects document rest others) :
    Objects document (branches ++ rest) (objects ++ others) := by
  induction h with
  | nil => exact hrest
  | object _ ih => exact .object ih
  | allOf _ ih =>
    rw [List.append_assoc] at ih
    exact .allOf ih
  | ref hnode _ ih => exact .ref hnode ih
  | dangling hnone _ ih => exact .dangling hnone ih
  | other hother _ ih => exact .other hother ih

/-- The object branches of two lists of nodes, one after the other. -/
theorem split (h : Objects document (branches ++ rest) objects) :
    ∃ before after, objects = before ++ after ∧ Objects document branches before ∧
      Objects document rest after := by
  generalize hall : branches ++ rest = all at h
  induction h generalizing branches with
  | nil =>
    obtain ⟨rfl, rfl⟩ := List.append_eq_nil_iff.1 hall
    exact ⟨[], [], rfl, .nil, .nil⟩
  | object hrest ih =>
    rcases List.append_eq_cons_iff.1 hall with ⟨rfl, rfl⟩ | ⟨branches, rfl, rfl⟩
    · exact ⟨[], _, rfl, .nil, .object hrest⟩
    · obtain ⟨before, after, rfl, hbefore, hafter⟩ := ih rfl
      exact ⟨_, after, rfl, .object hbefore, hafter⟩
  | allOf hinner ih =>
    rcases List.append_eq_cons_iff.1 hall with ⟨rfl, rfl⟩ | ⟨branches, rfl, rfl⟩
    · exact ⟨[], _, rfl, .nil, .allOf hinner⟩
    · obtain ⟨before, after, rfl, hbefore, hafter⟩ := ih (List.append_assoc _ _ _)
      exact ⟨before, after, rfl, .allOf hbefore, hafter⟩
  | ref hnode hinner ih =>
    rcases List.append_eq_cons_iff.1 hall with ⟨rfl, rfl⟩ | ⟨branches, rfl, rfl⟩
    · exact ⟨[], _, rfl, .nil, .ref hnode hinner⟩
    · obtain ⟨before, after, rfl, hbefore, hafter⟩ := ih List.cons_append
      exact ⟨before, after, rfl, .ref hnode hbefore, hafter⟩
  | dangling hnone hrest ih =>
    rcases List.append_eq_cons_iff.1 hall with ⟨rfl, rfl⟩ | ⟨branches, rfl, rfl⟩
    · exact ⟨[], _, rfl, .nil, .dangling hnone hrest⟩
    · obtain ⟨before, after, rfl, hbefore, hafter⟩ := ih rfl
      exact ⟨before, after, rfl, .dangling hnone hbefore, hafter⟩
  | other hother hrest ih =>
    rcases List.append_eq_cons_iff.1 hall with ⟨rfl, rfl⟩ | ⟨branches, rfl, rfl⟩
    · exact ⟨[], _, rfl, .nil, .other hother hrest⟩
    · obtain ⟨before, after, rfl, hbefore, hafter⟩ := ih rfl
      exact ⟨before, after, rfl, .other hother hbefore, hafter⟩

/-- The object branches of one of the nodes are among all. -/
theorem of_mem (h : Objects document branches objects) {node : Node} (hmem : node ∈ branches) :
    ∃ found, Objects document [node] found ∧ found ⊆ objects := by
  obtain ⟨before, after, rfl⟩ := List.mem_iff_append.1 hmem
  obtain ⟨first, second, rfl, -, hsecond⟩ := h.split
  rw [← List.singleton_append] at hsecond
  obtain ⟨found, third, rfl, hfound, -⟩ := hsecond.split
  exact ⟨found, hfound, by simp⟩

end Objects

/-! ## Names that are listed in time -/

/-- A name is listed as required where merging the branches hears of it: by an object schema that,
with the branches before it, declares it, or so inside a branch. -/
inductive ListedInTime (document : Json) : List Node → String → Prop where
  | listed {branches before after : List Node} {origin : Origin}
      {properties : Option (List (Property Node))} {required : List String}
      {additional : Additional Node} {limits : ObjectLimits} {objects : List ObjectBranch}
      {name : String}
      (heq : branches = before ++ .object origin properties required additional limits :: after)
      (hobjects : Objects document
        (before ++ [.object origin properties required additional limits]) objects)
      (hdeclared : name ∈ (declaredBy objects).map (·.name)) (hlisted : name ∈ required) :
      ListedInTime document branches name
  | nested {branches inner : List Node} {origin : Origin} {name : String}
      (hbranch : .combinator origin .allOf inner ∈ branches)
      (hinner : ListedInTime document inner name) : ListedInTime document branches name
  | followed {branches : List Node} {origin : Origin} {target : String} {node : Node}
      {name : String} (hbranch : .ref origin target ∈ branches)
      (hnode : Schema.nodeAt document target = .ok node)
      (hinner : ListedInTime document [node] name) : ListedInTime document branches name

namespace ListedInTime

variable {document : Json} {branches rest : List Node} {objects : List ObjectBranch} {name : String}
  {node : Node}

theorem append_right (h : ListedInTime document branches name) (rest : List Node) :
    ListedInTime document (branches ++ rest) name := by
  cases h with
  | listed heq hobjects hdeclared hlisted =>
    exact .listed (by rw [heq, List.append_assoc]; rfl) hobjects hdeclared hlisted
  | nested hbranch hinner => exact .nested (List.mem_append_left _ hbranch) hinner
  | followed hbranch hnode hinner => exact .followed (List.mem_append_left _ hbranch) hnode hinner

theorem append_left (h : ListedInTime document rest name)
    (hobjects : Objects document branches objects) :
    ListedInTime document (branches ++ rest) name := by
  cases h with
  | listed heq hobjects' hdeclared hlisted =>
    have hall := hobjects.append hobjects'
    rw [← List.append_assoc] at hall
    refine .listed (by rw [heq, ← List.append_assoc]) hall ?_ hlisted
    rw [declaredBy, List.flatMap_append, List.map_append]
    exact List.mem_append_right _ hdeclared
  | nested hbranch hinner => exact .nested (List.mem_append_right _ hbranch) hinner
  | followed hbranch hnode hinner => exact .followed (List.mem_append_right _ hbranch) hnode hinner

theorem cons (h : ListedInTime document rest name) (hobjects : Objects document [node] objects) :
    ListedInTime document (node :: rest) name :=
  h.append_left hobjects

/-- What is listed in time is listed. -/
theorem listed_of (h : ListedInTime document branches name)
    (hobjects : Objects document branches objects) : ∃ object ∈ objects, name ∈ object.required := by
  induction h generalizing objects with
  | listed heq _ _ hlisted =>
    obtain ⟨found, hfound, hsub⟩ := hobjects.of_mem (heq ▸ List.mem_append_right _ List.mem_cons_self)
    cases hfound with
    | object => exact ⟨_, hsub List.mem_cons_self, hlisted⟩
    | other hother => cases hother
  | nested hbranch _ ih =>
    obtain ⟨found, hfound, hsub⟩ := hobjects.of_mem hbranch
    cases hfound with
    | allOf hall =>
      obtain ⟨object, hmem, hlisted⟩ := ih (by simpa using hall)
      exact ⟨object, hsub hmem, hlisted⟩
    | other hother => cases hother
  | followed hbranch hnode _ ih =>
    obtain ⟨found, hfound, hsub⟩ := hobjects.of_mem hbranch
    cases hfound with
    | ref hnode' hall =>
      rw [hnode] at hnode'
      cases hnode'
      obtain ⟨object, hmem, hlisted⟩ := ih hall
      exact ⟨object, hsub hmem, hlisted⟩
    | dangling hnone =>
      rw [hnode] at hnone
      cases hnone
    | other hother => cases hother

/-- A node may be read as the nodes that it stands for. -/
theorem of_unfolded {unfolded : List Node}
    (hsame : ∀ after objects, Objects document (unfolded ++ after) objects →
      Objects document (node :: after) objects)
    (hinside : ListedInTime document unfolded name → ListedInTime document [node] name)
    (h : ListedInTime document (unfolded ++ rest) name) :
    ListedInTime document (node :: rest) name := by
  cases h with
  | listed heq hobjects hdeclared hlisted =>
    rcases List.append_eq_append_iff.1 heq with ⟨before, rfl, rfl⟩ | ⟨after, rfl, hafter⟩
    · refine .listed (List.cons_append).symm ?_ hdeclared hlisted
      rw [List.append_assoc] at hobjects
      exact hsame _ _ hobjects
    · rcases List.cons_eq_append_iff.1 hafter with ⟨rfl, rfl⟩ | ⟨after, rfl, rfl⟩
      · simp only [List.append_nil] at hsame
        exact .listed List.singleton_append.symm (hsame _ _ hobjects) hdeclared hlisted
      · exact (hinside (.listed rfl hobjects hdeclared hlisted)).append_right rest
  | nested hbranch hinner =>
    rcases List.mem_append.1 hbranch with hbranch | hbranch
    · exact (hinside (.nested hbranch hinner)).append_right rest
    · exact .nested (List.mem_cons_of_mem _ hbranch) hinner
  | followed hbranch hnode hinner =>
    rcases List.mem_append.1 hbranch with hbranch | hbranch
    · exact (hinside (.followed hbranch hnode hinner)).append_right rest
    · exact .followed (List.mem_cons_of_mem _ hbranch) hnode hinner

/-- An object that lists a name and declares it lists it in time. -/
theorem of_declared (h : Objects document branches objects) {object : ObjectBranch}
    (hmem : object ∈ objects) (hlisted : name ∈ object.required)
    (hdeclared : name ∈ object.properties.map (·.name)) : ListedInTime document branches name := by
  induction h with
  | nil => cases hmem
  | object hrest ih =>
    rcases List.mem_cons.1 hmem with rfl | hmem
    · refine .listed (List.nil_append _).symm (.object .nil) ?_ hlisted
      simpa [declaredBy] using hdeclared
    · exact (ih hmem).cons (.object .nil)
  | allOf _ ih =>
    exact of_unfolded (fun _ _ h => .allOf h) (fun h => .nested List.mem_cons_self h) (ih hmem)
  | ref hnode _ ih =>
    have hunfolded := ih hmem
    rw [← List.singleton_append] at hunfolded
    exact of_unfolded (fun _ _ h => .ref hnode h)
      (fun h => .followed List.mem_cons_self hnode h) hunfolded
  | dangling hnone _ ih => exact (ih hmem).cons (.dangling hnone .nil)
  | other hother _ ih => exact (ih hmem).cons (.other hother .nil)

/-! ### Single nodes -/

variable {origin : Origin}

theorem object_iff {properties : Option (List (Property Node))} {required : List String}
    {additional : Additional Node} {limits : ObjectLimits} :
    ListedInTime document [.object origin properties required additional limits] name ↔
      name ∈ required ∧ name ∈ (properties.getD []).map (·.name) := by
  constructor
  · intro h
    cases h with
    | listed heq hobjects hdeclared hlisted =>
      obtain ⟨rfl, heq⟩ | ⟨before, rfl, heq⟩ := List.cons_eq_append_iff.1 heq
      · cases heq
        cases hobjects.unique (.object .nil)
        exact ⟨hlisted, by simpa [declaredBy] using hdeclared⟩
      · simp at heq
    | nested hbranch => cases List.mem_singleton.1 hbranch
    | followed hbranch => cases List.mem_singleton.1 hbranch
  · rintro ⟨hlisted, hdeclared⟩
    exact of_declared (.object .nil) List.mem_cons_self hlisted hdeclared

theorem allOf_iff :
    ListedInTime document [.combinator origin .allOf branches] name ↔
      ListedInTime document branches name := by
  constructor
  · intro h
    cases h with
    | listed heq =>
      obtain ⟨rfl, heq⟩ | ⟨before, rfl, heq⟩ := List.cons_eq_append_iff.1 heq
      · cases heq
      · simp at heq
    | nested hbranch hinner =>
      cases List.mem_singleton.1 hbranch
      exact hinner
    | followed hbranch => cases List.mem_singleton.1 hbranch
  · exact fun h => .nested List.mem_cons_self h

theorem ref_iff {target : String} (hnode : Schema.nodeAt document target = .ok node) :
    ListedInTime document [.ref origin target] name ↔ ListedInTime document [node] name := by
  constructor
  · intro h
    cases h with
    | listed heq =>
      obtain ⟨rfl, heq⟩ | ⟨before, rfl, heq⟩ := List.cons_eq_append_iff.1 heq
      · cases heq
      · simp at heq
    | nested hbranch => cases List.mem_singleton.1 hbranch
    | followed hbranch hnode' hinner =>
      cases List.mem_singleton.1 hbranch
      rw [hnode] at hnode'
      cases hnode'
      exact hinner
  · exact fun h => .followed List.mem_cons_self hnode h

/-- One more branch: what it passes on, and what it lists itself of all that is declared so far. -/
theorem append_single_iff {others : List ObjectBranch}
    (hobjects : Objects document branches objects) (hothers : Objects document [node] others) :
    ListedInTime document (branches ++ [node]) name ↔
      ListedInTime document branches name ∨ ListedInTime document [node] name ∨
        name ∈ ownRequired node ∧ name ∈ (declaredBy (objects ++ others)).map (·.name) := by
  constructor
  · intro h
    cases h with
    | listed heq hobjects' hdeclared hlisted =>
      rcases List.append_eq_append_iff.1 heq with ⟨before, rfl, hnode⟩ | ⟨after, rfl, hafter⟩
      · obtain ⟨rfl, hnode⟩ | ⟨before, rfl, hnode⟩ := List.cons_eq_append_iff.1 hnode
        · cases hnode
          rw [List.append_nil] at hobjects'
          rw [(hobjects.append hothers).unique hobjects'] at hdeclared
          exact .inr (.inr ⟨hlisted, hdeclared⟩)
        · simp at hnode
      · obtain ⟨rfl, hnode⟩ | ⟨after, rfl, rfl⟩ := List.cons_eq_append_iff.1 hafter
        · cases hnode
          rw [List.append_nil] at hobjects
          rw [(hobjects.append hothers).unique hobjects'] at hdeclared
          exact .inr (.inr ⟨hlisted, hdeclared⟩)
        · exact .inl (.listed rfl hobjects' hdeclared hlisted)
    | nested hbranch hinner =>
      rcases List.mem_append.1 hbranch with hbranch | hbranch
      · exact .inl (.nested hbranch hinner)
      · exact .inr (.inl (.nested hbranch hinner))
    | followed hbranch hnode hinner =>
      rcases List.mem_append.1 hbranch with hbranch | hbranch
      · exact .inl (.followed hbranch hnode hinner)
      · exact .inr (.inl (.followed hbranch hnode hinner))
  · rintro (h | h | ⟨hlisted, hdeclared⟩)
    · exact h.append_right _
    · exact h.append_left hobjects
    · cases node with
      | object => exact .listed rfl (hobjects.append hothers) hdeclared hlisted
      | unknown | const | enum | primitive | union | array | combinator | ref => cases hlisted

end ListedInTime

end SchemaGuard.TypeDecl
