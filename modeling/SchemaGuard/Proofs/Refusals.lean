import SchemaGuard.Proofs.Origins

/-!
# Schemas that cannot be read

Reading a schema visits other schemas inside it. Which ones depends on the keyword that decides what
the schema says: a schema under a keyword that another one goes before is never looked at, and neither
is the `type` of a schema that `const`, `enum`, a combinator or a reference decides.

**Visits.** `Part` names the schemas that are visited one level down, in the words of the keywords;
`Visits` is any number of levels.

**Refusals.** A schema is `Refused` if it comes down to its `type` and that is a value which can be no
type. The reader gives a node if and only if it visits no such schema (`parse_refuses_iff`): from the
schema inwards by `parse_fails`, and outwards because a schema is only read with all its parts
(`parse_reads_parts`).
-/

namespace SchemaGuard

/-- The combinators that go before one. -/
def Combinator.earlier : Combinator → List Combinator
  | oneOf => []
  | anyOf => [oneOf]
  | allOf => [oneOf, anyOf]

namespace Schema

/-! ## The keyword that decides -/

/-- Neither `const` nor a list under `enum` says which values there are. -/
structure Unsettled (members : List (String × Json)) : Prop where
  const : Table.get? members "const" = none
  enum : listed? members "enum" = none

/-- A combinator decides: it has a list of branches, and no combinator before it has one. -/
structure Combines (members : List (String × Json)) (kind : Combinator) (branches : List Json) :
    Prop where
  unsettled : Unsettled members
  branches : listed? members kind.keyword = some branches
  first : ∀ other ∈ kind.earlier, listed? members other.keyword = none

/-- The `type` decides: there is no list under a combinator and no text under `$ref`. -/
structure Typed (members : List (String × Json)) (type : Json) : Prop where
  unsettled : Unsettled members
  combinators : ∀ kind : Combinator, listed? members kind.keyword = none
  ref : ∀ target, Table.get? members "$ref" ≠ some (.string target)
  type : Table.get? members "type" = some type

/-- A `type` names one type, alone or as the one entry of a list. -/
def Says (name : String) (type : Json) : Prop := type = .string name ∨ type = .array [.string name]

/-- The values that can be no type: objects, and lists of just an object or a list. -/
inductive NoType : Json → Prop where
  | object (members : List (String × Json)) : NoType (.object members)
  | listedObject (members : List (String × Json)) : NoType (.array [.object members])
  | listedArray (items : List Json) : NoType (.array [.array items])

/-- The schemas that are visited with a schema object, one level down. -/
inductive Part (members : List (String × Json)) : Json → Prop where
  | branch {kind : Combinator} {branches : List Json} {branch : Json}
      (h : Combines members kind branches) (hmem : branch ∈ branches) : Part members branch
  | listedItem {type item : Json} {items : List Json} (h : Typed members type)
      (hsaid : Says "array" type) (hitems : listed? members "items" = some items)
      (hmem : item ∈ items) : Part members item
  | item {type item : Json} (h : Typed members type) (hsaid : Says "array" type)
      (hitem : Table.get? members "items" = some item) (hlist : ∀ items, item ≠ .array items)
      (hnull : item ≠ .null) (hfalse : item ≠ .bool false) : Part members item
  | leading {type item : Json} {items : List Json} (h : Typed members type)
      (hsaid : Says "array" type) (hitems : listed? members "prefixItems" = some items)
      (hmem : item ∈ items) : Part members item
  | property {type schema : Json} {name : String} {schemas : List (String × Json)}
      (h : Typed members type) (hsaid : Says "object" type)
      (hschemas : Table.get? members "properties" = some (.object schemas))
      (hmem : (name, schema) ∈ schemas) : Part members schema
  | additional {type : Json} {inner : List (String × Json)} (h : Typed members type)
      (hsaid : Says "object" type)
      (hinner : Table.get? members "additionalProperties" = some (.object inner)) :
      Part members (.object inner)

/-- The schemas that are visited with a schema, itself included. -/
inductive Visits : Json → Json → Prop where
  | self (schema : Json) : Visits schema schema
  | inside {members : List (String × Json)} {part inner : Json} (h : Part members part)
      (h' : Visits part inner) : Visits (.object members) inner

/-- A schema object that comes down to a `type` which is none. -/
inductive Refused : Json → Prop where
  | typed {members : List (String × Json)} {type : Json} (h : Typed members type)
      (htype : NoType type) : Refused (.object members)

/-! ## The form of a schema -/

section Form

variable {members : List (String × Json)} {kind : Combinator} {branches : List Json}
  {type schema : Json}

theorem combinator?_eq_some :
    combinator? members = some (kind, branches) ↔ listed? members kind.keyword = some branches ∧
      ∀ other ∈ kind.earlier, listed? members other.keyword = none := by
  unfold combinator?
  cases kind <;> cases hone : listed? members "oneOf" <;> cases hany : listed? members "anyOf" <;>
    simp [Combinator.earlier, Combinator.keyword, hone, hany]

theorem combinator?_eq_none :
    combinator? members = none ↔ ∀ kind : Combinator, listed? members kind.keyword = none := by
  unfold combinator?
  constructor
  · intro h kind
    cases kind <;> simp_all [Combinator.keyword]
  · intro h
    have hone := h .oneOf
    have hany := h .anyOf
    have hall := h .allOf
    simp_all [Combinator.keyword]

theorem ref?_eq_none : (Table.get? members "$ref").bind Json.string? = none ↔
    ∀ target, Table.get? members "$ref" ≠ some (.string target) := by
  cases Table.get? members "$ref" with
  | none => simp
  | some value => cases value <;> simp [Json.string?]

theorem form_eq_combinator :
    form members = .combinator kind branches ↔ Combines members kind branches := by
  constructor
  · intro h
    unfold form at h
    split at h
    · cases h
    split at h
    · cases h
    split at h
    · rename_i hconst _ henum _ _ _ hfound
      cases h
      obtain ⟨hbranches, hfirst⟩ := combinator?_eq_some.1 hfound
      exact ⟨⟨hconst, henum⟩, hbranches, hfirst⟩
    split at h
    · cases h
    split at h
    · cases h
    · cases h
  · rintro ⟨⟨hconst, henum⟩, hbranches, hfirst⟩
    unfold form
    rw [hconst, henum, combinator?_eq_some.2 ⟨hbranches, hfirst⟩]

theorem form_eq_typed : form members = .typed type ↔ Typed members type := by
  constructor
  · intro h
    unfold form at h
    split at h
    · cases h
    split at h
    · cases h
    split at h
    · cases h
    split at h
    · cases h
    split at h
    · rename_i hconst _ henum _ hnone _ href _ _ htype
      cases h
      exact ⟨⟨hconst, henum⟩, combinator?_eq_none.1 hnone, ref?_eq_none.1 href, htype⟩
    · cases h
  · rintro ⟨⟨hconst, henum⟩, hnone, href, htype⟩
    unfold form
    rw [hconst, henum, combinator?_eq_none.2 hnone, ref?_eq_none.2 href, htype]

theorem typeKeyword_eq_single {name : String} :
    typeKeyword type = .ok (.single name) ↔ Says name type := by
  unfold typeKeyword Says
  split <;> simp_all

theorem typeKeyword_eq_error : (∃ error, typeKeyword type = .error error) ↔ NoType type := by
  constructor
  · rintro ⟨error, h⟩
    unfold typeKeyword at h
    split at h
    case h_2 members => exact .object members
    case h_4 members => exact .listedObject members
    case h_5 items => exact .listedArray items
    all_goals cases h
  · rintro (members | members | items)
    · exact ⟨.object, rfl⟩
    · exact ⟨.object, rfl⟩
    · exact ⟨.array, rfl⟩

theorem mem_itemSchemas {item : Json} : item ∈ itemSchemas members ↔
    (∃ items, listed? members "items" = some items ∧ item ∈ items) ∨
      Table.get? members "items" = some item ∧ (∀ items, item ≠ .array items) ∧ item ≠ .null ∧
        item ≠ .bool false := by
  unfold itemSchemas listed?
  cases Table.get? members "items" with
  | none => simp
  | some value =>
    cases value with
    | bool truth => cases truth <;> grind
    | null | number | string | array | object => grind

theorem mem_propertySchemas :
    schema ∈ propertySchemas members ↔
    ∃ name schemas, Table.get? members "properties" = some (.object schemas) ∧
      (name, schema) ∈ schemas := by
  unfold propertySchemas
  cases Table.get? members "properties" with
  | none => simp
  | some value => cases value <;> simp

theorem mem_additionalSchemas :
    schema ∈ additionalSchemas members ↔
    ∃ inner, Table.get? members "additionalProperties" = some (.object inner) ∧
      schema = .object inner := by
  unfold additionalSchemas
  cases Table.get? members "additionalProperties" with
  | none => simp
  | some value => cases value <;> simp

/-- The parts that `Part` names are the parts that are read. -/
theorem mem_parts_iff {part : Json} : part ∈ parts (.object members) ↔ Part members part := by
  constructor
  · intro h
    cases hform : form members with
    | combinator kind branches =>
      rw [parts_combinator hform] at h
      exact .branch (form_eq_combinator.1 hform) h
    | typed type =>
      have htyped := form_eq_typed.1 hform
      cases hkeyword : typeKeyword type with
      | error error => simp [parts, hform, Form.parts, hkeyword] at h
      | ok keyword =>
        rw [parts_typed hform hkeyword] at h
        unfold typedParts at h
        split at h
        · have hsaid := typeKeyword_eq_single.1 hkeyword
          rcases List.mem_append.1 h with h | h
          · rcases mem_itemSchemas.1 h with ⟨items, hitems, hmem⟩ | ⟨hitem, hlist, hnull, hfalse⟩
            · exact .listedItem htyped hsaid hitems hmem
            · exact .item htyped hsaid hitem hlist hnull hfalse
          · cases hlisted : listed? members "prefixItems" with
            | none => simp [hlisted] at h
            | some items => exact .leading htyped hsaid hlisted (by simpa [hlisted] using h)
        · have hsaid := typeKeyword_eq_single.1 hkeyword
          rcases List.mem_append.1 h with h | h
          · obtain ⟨name, schemas, hschemas, hmem⟩ := mem_propertySchemas.1 h
            exact .property htyped hsaid hschemas hmem
          · obtain ⟨inner, hinner, rfl⟩ := mem_additionalSchemas.1 h
            exact .additional htyped hsaid hinner
        · cases h
    | const | enum | ref | free => simp [parts, hform, Form.parts] at h
  · -- Each way of being a part fixes the form, and with it the list that the part is in.
    have harray {type : Json} (h : Typed members type) (hsaid : Says "array" type) :
        parts (.object members) =
          itemSchemas members ++ (listed? members "prefixItems").getD [] :=
      parts_typed (form_eq_typed.2 h) (typeKeyword_eq_single.2 hsaid)
    have hobject {type : Json} (h : Typed members type) (hsaid : Says "object" type) :
        parts (.object members) = propertySchemas members ++ additionalSchemas members :=
      parts_typed (form_eq_typed.2 h) (typeKeyword_eq_single.2 hsaid)
    intro h
    cases h with
    | branch h hmem => rwa [parts_combinator (form_eq_combinator.2 h)]
    | listedItem h hsaid hitems hmem =>
      rw [harray h hsaid, List.mem_append, mem_itemSchemas]
      exact .inl (.inl ⟨_, hitems, hmem⟩)
    | item h hsaid hitem hlist hnull hfalse =>
      rw [harray h hsaid, List.mem_append, mem_itemSchemas]
      exact .inl (.inr ⟨hitem, hlist, hnull, hfalse⟩)
    | leading h hsaid hitems hmem =>
      rw [harray h hsaid, List.mem_append, hitems]
      exact .inr hmem
    | property h hsaid hschemas hmem =>
      rw [hobject h hsaid, List.mem_append, mem_propertySchemas]
      exact .inl ⟨_, _, hschemas, hmem⟩
    | additional h hsaid hinner =>
      rw [hobject h hsaid, List.mem_append, mem_additionalSchemas]
      exact .inr ⟨_, hinner, rfl⟩

theorem refused_iff : Refused schema ↔ ∃ error, Untypable schema error := by
  constructor
  · rintro ⟨h, htype⟩
    obtain ⟨error, herror⟩ := typeKeyword_eq_error.2 htype
    exact ⟨error, _, _, rfl, form_eq_typed.2 h, herror⟩
  · rintro ⟨error, members, type, rfl, hform, herror⟩
    exact ⟨form_eq_typed.1 hform, typeKeyword_eq_error.1 ⟨error, herror⟩⟩

end Form

/-! ## Refusals -/

variable {schema inner : Json}

theorem not_readable_of_refused (h : Refused schema) : ¬ Readable schema := by
  rintro ⟨path, node, hread⟩
  obtain ⟨error, hown⟩ := refused_iff.1 h
  exact not_untypable_of_parse hread error hown

theorem Visits.readable (h : Visits schema inner) (hread : Readable schema) : Readable inner := by
  induction h with
  | self => exact hread
  | inside hpart _ ih => exact ih (parse_reads_parts hread (mem_parts_iff.2 hpart))

theorem Visits.part {part : Json} (h : Visits schema inner) (hpart : part ∈ parts inner) :
    Visits schema part := by
  induction h with
  | self inner =>
    cases inner with
    | object members => exact .inside (mem_parts_iff.1 hpart) (.self part)
    | null | bool | number | string | array => cases hpart
  | inside hfirst _ ih => exact .inside hfirst (ih hpart)

/-- **Reading fails exactly where a schema is visited whose `type` is none.** In every other case it
gives one node, which knows the path and the schema that it was read from. -/
theorem parse_refuses_iff (path : String) (schema : Json) :
    ((∃ error, parse path schema = .error error) ↔
      ∃ inner, Visits schema inner ∧ Refused inner) ∧
    ((∃ node, parse path schema = .ok node ∧ node.origin = ⟨path, schema⟩) ↔
      ¬ ∃ inner, Visits schema inner ∧ Refused inner) := by
  have hfails : (∃ error, parse path schema = .error error) ↔
      ∃ inner, Visits schema inner ∧ Refused inner := by
    constructor
    · rintro ⟨error, h⟩
      obtain ⟨inner, hvisits, hown⟩ : ∃ inner, Visits schema inner ∧ Untypable inner error :=
        parse_fails (fun _ _ hvisits hpart => hvisits.part hpart) (.self schema) h
      exact ⟨inner, hvisits, refused_iff.2 ⟨error, hown⟩⟩
    · rintro ⟨inner, hvisits, hrefused⟩
      cases h : parse path schema with
      | error error => exact ⟨error, rfl⟩
      | ok node =>
        exact (not_readable_of_refused hrefused (hvisits.readable ⟨path, node, h⟩)).elim
  refine ⟨hfails, ?_⟩
  rw [← hfails]
  cases h : parse path schema with
  | error error => simp
  | ok node => simpa using parse_origin h

end Schema

end SchemaGuard
