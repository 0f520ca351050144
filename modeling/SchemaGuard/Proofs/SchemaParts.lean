import SchemaGuard.Proofs.Fails
import SchemaGuard.Proofs.Parsing

/-!
# The parts of a schema that are read with it

A schema object is read by the first of its keywords that applies: its `Form`. The form says which
other schemas are read as its parts, and in which of them nothing is: those under keywords that do
not apply are never looked at.

Reading fails only at a schema whose `type` is no type, among those that are read
(`parse_fails`). What a node holds is read from the parts of its schema (`parse_part`).
-/

namespace SchemaGuard.Schema

/-- What a schema object is read as. -/
inductive Form where
  | const (value : Json)
  | enum (values : List Json)
  | combinator (kind : Combinator) (branches : List Json)
  | ref (target : String)
  | typed (type : Json)
  | free

/-- The list under a keyword. -/
def listed? (members : List (String × Json)) (keyword : String) : Option (List Json) :=
  match Table.get? members keyword with
  | some (.array items) => some items
  | _ => none

/-- The first combinator that lists its branches. -/
def combinator? (members : List (String × Json)) : Option (Combinator × List Json) :=
  (listed? members "oneOf").map (Combinator.oneOf, ·) <|>
    (listed? members "anyOf").map (Combinator.anyOf, ·) <|>
    (listed? members "allOf").map (Combinator.allOf, ·)

/-- The form of a schema object. -/
def form (members : List (String × Json)) : Form :=
  match Table.get? members "const" with
  | some value => .const value
  | none =>
    match listed? members "enum" with
    | some values => .enum values
    | none =>
      match combinator? members with
      | some (kind, branches) => .combinator kind branches
      | none =>
        match (Table.get? members "$ref").bind Json.string? with
        | some target => .ref target
        | none =>
          match Table.get? members "type" with
          | some type => .typed type
          | none => .free

/-! ## Reading by the form -/

/-- The node of an object that says a type. -/
def typedNode (path : String) (members : List (String × Json)) : TypeKeyword → Except TypeError Node
  | .several names => return .union ⟨path, .object members⟩ names
  | .single "array" => do
    let items ← parseItems path members
    let leading ← parseListed path "prefixItems" members
    return .array ⟨path, .object members⟩ items leading (arrayLimits members)
  | .single "object" => do
    let properties ← parseProperties path (requiredNames members) members
    let additional ← parseAdditional path members
    return .object ⟨path, .object members⟩ properties (requiredNames members) additional
      (objectLimits members)
  | .single name =>
    match primitive? members name with
    | some type => return .primitive ⟨path, .object members⟩ type
    | none => return .unknown ⟨path, .object members⟩
  | .unknown => return .unknown ⟨path, .object members⟩

/-- The node of an object of some form. -/
def Form.node (path : String) (members : List (String × Json)) : Form → Except TypeError Node
  | const value => return .const ⟨path, .object members⟩ value
  | enum values => return .enum ⟨path, .object members⟩ values
  | combinator kind branches =>
    .combinator ⟨path, .object members⟩ kind <$> parseEach s!"{path}/{kind.keyword}" 0 branches
  | ref target => return .ref ⟨path, .object members⟩ target
  | typed type => typeKeyword type >>= typedNode path members
  | free => return .unknown ⟨path, .object members⟩

variable {members : List (String × Json)} {keyword : String} {items : List Json}

theorem parseListed_eq_listed? (path keyword : String) (members : List (String × Json)) :
    parseListed path keyword members =
      (listed? members keyword).elim (pure none) fun items =>
        some <$> parseEach s!"{path}/{keyword}" 0 items := by
  rw [parseListed_eq, listed?]
  cases Table.get? members keyword with
  | none => rfl
  | some value => cases value <;> rfl

theorem listed?_eq_some :
    listed? members keyword = some items ↔ Table.get? members keyword = some (.array items) := by
  unfold listed?
  cases Table.get? members keyword with
  | none => simp
  | some value => cases value <;> simp

theorem some_bind {ε α β : Type} {x : Except ε α} {f : Option α → Except ε β} {g : α → β}
    (h : ∀ a, f (some a) = .ok (g a)) : (some <$> x >>= f) = g <$> x := by
  cases x with
  | error e => rfl
  | ok a => exact h a

/-- **A schema object is read by its form.** -/
theorem parse_object (path : String) (members : List (String × Json)) :
    parse path (.object members) = (form members).node path members := by
  rw [parse]
  dsimp only
  unfold form
  cases Table.get? members "const" with
  | some value => rfl
  | none =>
    dsimp only
    cases henum : listed? members "enum" with
    | some values =>
      rw [listed?_eq_some.1 henum]
      rfl
    | none =>
      split
      · rename_i values hget
        rw [listed?_eq_some.2 hget] at henum
        cases henum
      · -- The first keyword with a list ends the search, even if the list cannot be read.
        unfold combinator?
        rw [parseListed_eq_listed? path "oneOf"]
        cases listed? members "oneOf" with
        | some branches => exact some_bind fun _ => rfl
        | none =>
          rw [Option.elim_none, pure_bind]
          dsimp only
          rw [parseListed_eq_listed? path "anyOf"]
          cases listed? members "anyOf" with
          | some branches => exact some_bind fun _ => rfl
          | none =>
            rw [Option.elim_none, pure_bind]
            dsimp only
            rw [parseListed_eq_listed? path "allOf"]
            cases listed? members "allOf" with
            | some branches => exact some_bind fun _ => rfl
            | none =>
              rw [Option.elim_none, pure_bind]
              dsimp only
              split
              · rename_i hget
                rw [hget]
                rfl
              · rename_i hother
                have hnone : (Table.get? members "$ref").bind Json.string? = none := by
                  cases hget : Table.get? members "$ref" with
                  | none => rfl
                  | some value =>
                    cases value with
                    | string target => exact (hother target hget).elim
                    | null | bool | number | array | object => rfl
                rw [hnone]
                cases Table.get? members "type" with
                | none => rfl
                | some type => rfl

/-! ## Parts -/

/-- The schemas under `items`. -/
def itemSchemas (members : List (String × Json)) : List Json :=
  match Table.get? members "items" with
  | some (.array schemas) => schemas
  | some .null => []
  | some (.bool false) => []
  | some schema => [schema]
  | none => []

/-- The schemas under `properties`. -/
def propertySchemas (members : List (String × Json)) : List Json :=
  match Table.get? members "properties" with
  | some (.object schemas) => schemas.map (·.2)
  | _ => []

/-- The schema under `additionalProperties`. -/
def additionalSchemas (members : List (String × Json)) : List Json :=
  match Table.get? members "additionalProperties" with
  | some (.object members) => [.object members]
  | _ => []

/-- The parts of an object that says a type. -/
def typedParts (members : List (String × Json)) : TypeKeyword → List Json
  | .single "array" => itemSchemas members ++ (listed? members "prefixItems").getD []
  | .single "object" => propertySchemas members ++ additionalSchemas members
  | _ => []

/-- The parts of an object of some form. -/
def Form.parts (members : List (String × Json)) : Form → List Json
  | combinator _ branches => branches
  | typed type =>
    match typeKeyword type with
    | .ok type => typedParts members type
    | .error _ => []
  | _ => []

/-- The schemas that are read as parts of a schema. -/
def parts : Json → List Json
  | .object members => (form members).parts members
  | _ => []

variable {kind : Combinator} {branches : List Json}

theorem parts_combinator (h : form members = .combinator kind branches) :
    parts (.object members) = branches := by
  rw [parts, h]
  rfl

theorem parts_typed {type : Json} {keyword : TypeKeyword} (h : form members = .typed type)
    (hkeyword : typeKeyword type = .ok keyword) :
    parts (.object members) = typedParts members keyword := by
  rw [parts, h]
  simp only [Form.parts, hkeyword]

/-- One of some schemas is read with a result. -/
def Reads (schemas : List Json) (result : Except TypeError Node) : Prop :=
  ∃ schema ∈ schemas, ∃ path, parse path schema = result

theorem Reads.mono {schemas others : List Json} {result : Except TypeError Node}
    (h : Reads schemas result) (hsub : schemas ⊆ others) : Reads others result := by
  obtain ⟨schema, hmem, hread⟩ := h
  exact ⟨schema, hsub hmem, hread⟩

/-- A schema is read with a node at some path. -/
def Readable (schema : Json) : Prop := ∃ path node, parse path schema = .ok node

/-- Some schemas are read, all of them if none fails, and what a result holds was read from them. -/
structure ReadsAll {α : Type} (schemas : List Json) (x : Except TypeError α)
    (held : α → List Node) : Prop where
  fails : ∀ error, x = .error error → Reads schemas (.error error)
  all : ∀ a, x = .ok a → ∀ schema ∈ schemas, Readable schema
  gives : ∀ a, x = .ok a → ∀ node ∈ held a, Reads schemas (.ok node)

namespace ReadsAll

variable {α β γ : Type} {x : Except TypeError α} {y : Except TypeError β} {schemas others : List Json}
  {held : α → List Node} {held' : β → List Node} {held'' : γ → List Node}

theorem pure {a : α} (h : held a = []) : ReadsAll [] (Pure.pure a) held where
  fails _ hfails := by cases hfails
  all _ _ := by simp
  gives _ hgives := by
    cases hgives
    simp [h]

theorem one (path : String) (schema : Json) : ReadsAll [schema] (parse path schema) ([·]) where
  fails _ hfails := ⟨schema, by simp, path, hfails⟩
  all node hgives := by simpa using ⟨path, node, hgives⟩
  gives node hgives := by simpa using ⟨schema, by simp, path, hgives⟩

theorem map {f : α → β} (h : ReadsAll schemas x held) (hf : ∀ a, held' (f a) ⊆ held a) :
    ReadsAll schemas (f <$> x) held' where
  fails error hfails := h.fails error (map_eq_error.1 hfails)
  all b hgives := by
    obtain ⟨a, ha, -⟩ := map_eq_ok.1 hgives
    exact h.all a ha
  gives b hgives node hmem := by
    obtain ⟨a, ha, rfl⟩ := map_eq_ok.1 hgives
    exact h.gives a ha node (hf a hmem)

theorem both {f : α → β → γ} (hx : ReadsAll schemas x held) (hy : ReadsAll others y held')
    (hf : ∀ a b, held'' (f a b) ⊆ held a ++ held' b) :
    ReadsAll (schemas ++ others) (do return f (← x) (← y)) held'' where
  fails error hfails := by
    rcases bind_eq_error.1 hfails with hfails | ⟨a, -, hfails⟩
    · exact (hx.fails error hfails).mono (List.subset_append_left _ _)
    · rcases bind_eq_error.1 hfails with hfails | ⟨b, -, hfails⟩
      · exact (hy.fails error hfails).mono (List.subset_append_right _ _)
      · cases hfails
  all c hgives := by
    obtain ⟨a, ha, hgives⟩ := bind_eq_ok.1 hgives
    obtain ⟨b, hb, -⟩ := bind_eq_ok.1 hgives
    exact List.forall_mem_append.2 ⟨hx.all a ha, hy.all b hb⟩
  gives c hgives node hmem := by
    obtain ⟨a, ha, hgives⟩ := bind_eq_ok.1 hgives
    obtain ⟨b, hb, hgives⟩ := bind_eq_ok.1 hgives
    cases hgives
    rcases List.mem_append.1 (hf a b hmem) with hmem | hmem
    · exact (hx.gives a ha node hmem).mono (List.subset_append_left _ _)
    · exact (hy.gives b hb node hmem).mono (List.subset_append_right _ _)

end ReadsAll

/-- The nodes that are held for items. -/
def heldItems : Items Node → List Node
  | .absent => []
  | .all node => [node]
  | .each nodes => nodes

/-- The nodes that are held for members that are not declared. -/
def heldAdditional : Additional Node → List Node
  | .schema node => [node]
  | .value _ => []

section Parts

variable {path : String} {members : List (String × Json)} {node part : Node} {error : TypeError}
  {type : TypeKeyword}

theorem parseEach_readsAll (path : String) (position : Nat) (schemas : List Json) :
    ReadsAll schemas (parseEach path position schemas) id := by
  induction schemas generalizing position with
  | nil => exact .pure rfl
  | cons schema schemas ih =>
    rw [parseEach]
    exact (ReadsAll.one _ schema).both (ih _) fun _ _ => List.Subset.refl _

theorem parseMembers_readsAll (path : String) (required : List String)
    (schemas : List (String × Json)) :
    ReadsAll (schemas.map (·.2)) (parseMembers path required schemas) (·.map (·.node)) := by
  induction schemas with
  | nil => exact .pure rfl
  | cons schema schemas ih =>
    rw [parseMembers]
    exact (ReadsAll.one _ schema.2).both ih fun _ _ => List.Subset.refl _

theorem parseListed_readsAll (path keyword : String) (members : List (String × Json)) :
    ReadsAll ((listed? members keyword).getD []) (parseListed path keyword members)
      (·.getD []) := by
  rw [parseListed_eq_listed?]
  cases listed? members keyword with
  | none => exact .pure rfl
  | some items => exact (parseEach_readsAll _ _ items).map fun _ => List.Subset.refl _

theorem parseItems_readsAll (path : String) (members : List (String × Json)) :
    ReadsAll (itemSchemas members) (parseItems path members) heldItems := by
  rw [parseItems_eq]
  unfold itemSchemas
  cases Table.get? members "items" with
  | none => exact .pure rfl
  | some schema =>
    cases schema with
    | array schemas => exact (parseEach_readsAll _ _ schemas).map fun _ => List.Subset.refl _
    | null => exact .pure rfl
    | bool truth =>
      cases truth with
      | false => exact .pure rfl
      | true => exact (ReadsAll.one _ _).map fun _ => List.Subset.refl _
    | number | string | object => exact (ReadsAll.one _ _).map fun _ => List.Subset.refl _

theorem parseProperties_readsAll (path : String) (required : List String)
    (members : List (String × Json)) :
    ReadsAll (propertySchemas members) (parseProperties path required members)
      fun properties => (properties.getD []).map (·.node) := by
  rw [parseProperties_eq]
  unfold propertySchemas
  cases Table.get? members "properties" with
  | none => exact .pure rfl
  | some value =>
    cases value with
    | object schemas =>
      exact (parseMembers_readsAll _ required schemas).map fun _ => List.Subset.refl _
    | null | bool | number | string | array => exact .pure rfl

theorem parseAdditional_readsAll (path : String) (members : List (String × Json)) :
    ReadsAll (additionalSchemas members) (parseAdditional path members) heldAdditional := by
  rw [parseAdditional_eq]
  unfold additionalSchemas
  cases Table.get? members "additionalProperties" with
  | none => exact .pure rfl
  | some value =>
    cases value with
    | object schemas => exact (ReadsAll.one _ _).map fun _ => List.Subset.refl _
    | null | bool | number | string | array => exact .pure rfl

theorem typedNode_readsAll (path : String) (members : List (String × Json)) (type : TypeKeyword) :
    ReadsAll (typedParts members type) (typedNode path members type) Node.parts := by
  unfold typedParts
  split
  · refine (parseItems_readsAll path members).both (parseListed_readsAll path _ members)
      fun items leading => ?_
    cases items <;> simp [Node.parts, heldItems]
  · refine (parseProperties_readsAll path _ members).both (parseAdditional_readsAll path members)
      fun properties additional => ?_
    cases additional <;> simp [Node.parts, heldAdditional]
  · rename_i harray hobject
    unfold typedNode
    split
    · exact .pure rfl
    · exact (harray rfl).elim
    · exact (hobject rfl).elim
    · split
      · exact .pure rfl
      · exact .pure rfl
    · exact .pure rfl

/-- A schema whose `type` is no type, and what is wrong with it. -/
def Untypable (schema : Json) (error : TypeError) : Prop :=
  ∃ members type, schema = .object members ∧ form members = .typed type ∧
    typeKeyword type = .error error

variable {schema : Json} {origin : Origin}

/-- **A schema whose `type` is one, or that says none, is read with its parts.** -/
theorem parse_readsAll (path : String) (h : ∀ error, ¬ Untypable schema error) :
    ReadsAll (parts schema) (parse path schema) Node.parts := by
  cases schema with
  | object members =>
    rw [parse_object]
    cases hform : form members with
    | const | enum | ref | free =>
      rw [parts, hform]
      exact .pure rfl
    | combinator kind branches =>
      rw [parts_combinator hform]
      exact (parseEach_readsAll _ _ branches).map fun _ => List.Subset.refl _
    | typed type =>
      cases hkeyword : typeKeyword type with
      | error error => exact (h error ⟨members, type, rfl, hform, hkeyword⟩).elim
      | ok keyword =>
        rw [parts_typed hform hkeyword, Form.node, hkeyword]
        exact typedNode_readsAll path members keyword
  | null | bool | number | string | array => exact .pure rfl

theorem Untypable.parse_eq (h : Untypable schema error) (path : String) :
    parse path schema = .error error := by
  obtain ⟨members, type, rfl, hform, hkeyword⟩ := h
  rw [parse_object, hform, Form.node, hkeyword]
  rfl

/-- Reading a schema fails at itself or at one of its parts. -/
theorem parse_fails_at (h : parse path schema = .error error) :
    Untypable schema error ∨ Reads (parts schema) (.error error) := by
  by_cases hown : ∃ found, Untypable schema found
  · obtain ⟨found, hown⟩ := hown
    cases (hown.parse_eq path).symm.trans h
    exact .inl hown
  · exact .inr ((parse_readsAll path (not_exists.1 hown)).fails error h)

theorem not_untypable_of_parse (h : parse path schema = .ok node) (error : TypeError) :
    ¬ Untypable schema error :=
  fun hown => nomatch (hown.parse_eq path).symm.trans h

/-- **What a node holds is read from the parts of its schema.** -/
theorem parse_part (h : parse path schema = .ok node) (hpart : node.HasPart part) :
    Reads (parts schema) (.ok part) :=
  (parse_readsAll path (not_untypable_of_parse h)).gives node h part hpart.mem_parts

/-- **A schema is only read with all its parts.** -/
theorem parse_reads_parts (h : Readable schema) {inner : Json} (hpart : inner ∈ parts schema) :
    Readable inner := by
  obtain ⟨path, node, h⟩ := h
  exact (parse_readsAll path (not_untypable_of_parse h)).all node h inner hpart

/-- What is read from an object that says a type is no reference; it is a type without parts only if
the object says its name. -/
theorem typedNode_cases (h : typedNode path members type = .ok node) :
    (∀ origin target, node ≠ .ref origin target) ∧
      ∀ origin primitive, node = .primitive origin primitive →
        ∃ name, type = .single name ∧ primitive? members name = some primitive := by
  unfold typedNode at h
  split at h
  · cases h
    simp
  · obtain ⟨items, -, h⟩ := bind_eq_ok.1 h
    obtain ⟨leading, -, h⟩ := bind_eq_ok.1 h
    cases h
    simp
  · obtain ⟨properties, -, h⟩ := bind_eq_ok.1 h
    obtain ⟨additional, -, h⟩ := bind_eq_ok.1 h
    cases h
    simp
  · split at h
    · rename_i hprimitive
      cases h
      simp [hprimitive]
    · cases h
      simp
  · cases h
    simp

/-- A reference is read from a schema of that form. -/
theorem parse_ref {target : String} (h : parse path schema = .ok (.ref origin target)) :
    ∃ members, schema = .object members ∧ form members = .ref target := by
  cases schema with
  | object members =>
    rw [parse_object] at h
    cases hform : form members with
    | ref found =>
      rw [hform] at h
      cases h
      exact ⟨members, rfl, hform⟩
    | combinator kind branches =>
      rw [hform] at h
      obtain ⟨nodes, -, h⟩ := map_eq_ok.1 h
      cases h
    | typed type =>
      rw [hform] at h
      obtain ⟨keyword, -, h⟩ := bind_eq_ok.1 h
      exact ((typedNode_cases h).1 _ _ rfl).elim
    | const | enum | free =>
      rw [hform] at h
      cases h
  | null | bool | number | string | array => cases h

/-- A schema of texts, and the value of its keyword `pattern`. -/
def HasPattern (schema pattern : Json) : Prop :=
  ∃ members type, schema = .object members ∧ form members = .typed type ∧
    typeKeyword type = .ok (.single "string") ∧ keyword? members "pattern" = some pattern

/-- A type of texts with a pattern is read from a schema that has it. -/
theorem parse_pattern {minLength maxLength : Option Json} {pattern : Json}
    (h : parse path schema = .ok (.primitive origin (.string minLength maxLength (some pattern)))) :
    HasPattern schema pattern := by
  cases schema with
  | object members =>
    rw [parse_object] at h
    cases hform : form members with
    | combinator kind branches =>
      rw [hform] at h
      obtain ⟨nodes, -, h⟩ := map_eq_ok.1 h
      cases h
    | typed type =>
      rw [hform] at h
      obtain ⟨keyword, hkeyword, h⟩ := bind_eq_ok.1 h
      obtain ⟨name, rfl, hprimitive⟩ := (typedNode_cases h).2 _ _ rfl
      unfold primitive? at hprimitive
      split at hprimitive
      · simp only [Option.some.injEq, Primitive.string.injEq] at hprimitive
        exact ⟨members, type, rfl, hform, hkeyword, hprimitive.2.2⟩
      · cases hprimitive
      · cases hprimitive
      · cases hprimitive
      · cases hprimitive
      · cases hprimitive
    | const | enum | ref | free =>
      rw [hform] at h
      cases h
  | null | bool | number | string | array => cases h

end Parts

/-! ## Reading all that there is to read -/

variable {part : Json}

theorem inside_listed? (h : listed? members keyword = some items) {item : Json}
    (hmem : item ∈ items) : item.Inside (.object members) :=
  (Json.Inside.item hmem).trans (Json.inside_get? (listed?_eq_some.1 h))

theorem listed?_of_form (h : form members = .combinator kind branches) :
    listed? members kind.keyword = some branches := by
  have hfound : combinator? members = some (kind, branches) := by
    unfold form at h
    split at h
    · cases h
    split at h
    · cases h
    split at h
    · rename_i hfound
      cases h
      exact hfound
    split at h
    · cases h
    split at h
    · cases h
    · cases h
  unfold combinator? at hfound
  cases hone : listed? members "oneOf" with
  | some items =>
    rw [hone] at hfound
    cases hfound
    exact hone
  | none =>
    rw [hone] at hfound
    cases hany : listed? members "anyOf" with
    | some items =>
      rw [hany] at hfound
      cases hfound
      exact hany
    | none =>
      rw [hany] at hfound
      obtain ⟨items, hall, hsame⟩ := Option.map_eq_some_iff.1 hfound
      cases hsame
      exact hall

theorem inside_typedParts {type : TypeKeyword} (h : part ∈ typedParts members type) :
    part.Inside (.object members) := by
  unfold typedParts at h
  split at h
  · rcases List.mem_append.1 h with h | h
    · unfold itemSchemas at h
      split at h
      · rename_i hget
        exact inside_listed? (listed?_eq_some.2 hget) h
      · cases h
      · cases h
      · rename_i hget
        obtain rfl := List.mem_singleton.1 h
        exact Json.inside_get? hget
      · cases h
    · cases hlisted : listed? members "prefixItems" with
      | none =>
        rw [hlisted] at h
        cases h
      | some items =>
        rw [hlisted] at h
        exact inside_listed? hlisted h
  · rcases List.mem_append.1 h with h | h
    · unfold propertySchemas at h
      split at h
      · rename_i schemas hget
        obtain ⟨entry, hentry, rfl⟩ := List.mem_map.1 h
        exact (Json.Inside.member hentry).trans (Json.inside_get? hget)
      · cases h
    · unfold additionalSchemas at h
      split at h
      · rename_i hget
        obtain rfl := List.mem_singleton.1 h
        exact Json.inside_get? hget
      · cases h
  · cases h

/-- The parts of a schema stand inside it. -/
theorem inside_of_mem_parts {schema : Json} (h : part ∈ parts schema) : part.Inside schema := by
  cases schema with
  | object members =>
    cases hform : form members with
    | combinator kind branches =>
      rw [parts_combinator hform] at h
      exact inside_listed? (listed?_of_form hform) h
    | typed type =>
      cases hkeyword : typeKeyword type with
      | ok keyword =>
        rw [parts_typed hform hkeyword] at h
        exact inside_typedParts h
      | error error => simp [parts, hform, Form.parts, hkeyword] at h
    | const | enum | ref | free => simp [parts, hform, Form.parts] at h
  | null | bool | number | string | array => cases h

/-- **Reading fails only at a schema whose `type` is no type**, one that is read. -/
theorem parse_fails {reach : Json → Prop}
    (hparts : ∀ schema part, reach schema → part ∈ parts schema → reach part) {path : String}
    {schema : Json} {error : TypeError} (hreach : reach schema)
    (h : parse path schema = .error error) : ∃ part, reach part ∧ Untypable part error := by
  rcases parse_fails_at h with hown | ⟨part, hpart, _, hread⟩
  · exact ⟨schema, hreach, hown⟩
  · exact parse_fails hparts (hparts schema part hreach hpart) hread
termination_by schema.depth
decreasing_by exact (inside_of_mem_parts hpart).depth_lt

end SchemaGuard.Schema
