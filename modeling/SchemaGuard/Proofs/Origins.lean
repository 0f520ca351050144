import SchemaGuard.Proofs.PointerSteps
import SchemaGuard.Proofs.SchemaParts
import SchemaGuard.Proofs.Termination

/-!
# Origins lead back

Every node knows the path of its place in the document and the schema there. The path is built up
while schemas are read, by a keyword and at times a position or a name for each level.

**Theorem (`origins_lead_back`).** In a document without slashes in its keys, the path of every node
that is read from it, and of every declared property, leads back to the schema that was read.

The proof is an induction along the chain of parts from the root, with the invariant `ReadAt`: the
node is what is read from the schema that some path leads to. A part stands below its node by one
keyword, and by a position or a name below that. One more segment is one more step, provided that it
holds no slash and that its digits, if it is a position, can be read back.
-/

namespace SchemaGuard

/-! ## Keys -/

namespace Json

/-- Whether no key of an object is repeated. -/
def keysOnce : Json → Bool
  | object members => decide (Table.keys members).Nodup
  | _ => true

/-- Whether no key of an object holds a slash. -/
def keysUncut : Json → Bool
  | object members => (Table.keys members).all fun key => !key.toList.contains '/'
  | _ => true

variable {members : List (String × Json)}

theorem nodup_keys (h : (object members).keysOnce = true) :
    (Table.keys members).Nodup := of_decide_eq_true h

theorem slash_notMem_key (h : (object members).keysUncut = true) {name : String} {member : Json}
    (hmem : (name, member) ∈ members) : '/' ∉ name.toList := by
  have hname : name ∈ Table.keys members := List.mem_map.2 ⟨(name, member), hmem, rfl⟩
  simpa using List.all_eq_true.1 h name hname

end Json

/-! ## One level down -/

namespace Pointer

variable {document : Json} {path : String} {members : List (String × Json)}

/-- A keyword is a segment. -/
theorem resolve_keyword {value : Json} {keyword : String}
    (h : resolve document path = .ok (.object members))
    (hvalue : Table.get? members keyword = some value) (hkeyword : '/' ∉ keyword.toList)
    (hempty : keyword ≠ "") : resolve document (path ++ ("/" ++ keyword)) = .ok value := by
  rw [← String.append_assoc]
  exact resolve_append h hkeyword (fun _ => hempty) (step_key path hvalue)

theorem resolve_position {items : List Json} {item : Json} {position : Nat}
    (h : resolve document path = .ok (.array items)) (hitem : items[position]? = some item)
    (hindexable : document.all Json.indexable = true) :
    resolve document s!"{path}/{position}" = .ok item := by
  have hslash : '/' ∉ (toString position).toList := notMem_toString (by decide) position
  have hitems : (Json.array items).indexable = true :=
    Json.all_self (Json.all_within hindexable (Schema.within_of_resolve h))
  exact resolve_append h hslash (fun _ => by simp) (step_position path hitem hitems)

theorem resolve_member {name : String} {member : Json}
    (h : resolve document path = .ok (.object members)) (hmem : (name, member) ∈ members)
    (hpath : path ≠ root) (hkeys : document.all Json.keysOnce = true)
    (hslashes : document.all Json.keysUncut = true) :
    resolve document s!"{path}/{name}" = .ok member := by
  have hwithin := Schema.within_of_resolve h
  have honce := Json.nodup_keys (Json.all_self (Json.all_within hkeys hwithin))
  have hslash := Json.slash_notMem_key (Json.all_self (Json.all_within hslashes hwithin)) hmem
  exact resolve_append h hslash (fun hroot => absurd hroot hpath)
    (step_key path (Table.get?_of_mem honce hmem))

end Pointer

/-! ## Nodes at their places -/

namespace Schema

variable {path : String} {node : Node} {schema : Json}

theorem typedNode_origin {members : List (String × Json)} {type : TypeKeyword}
    (h : typedNode path members type = .ok node) : node.origin = ⟨path, .object members⟩ := by
  unfold typedNode at h
  split at h
  · cases h
    rfl
  · obtain ⟨items, -, h⟩ := bind_eq_ok.1 h
    obtain ⟨leading, -, h⟩ := bind_eq_ok.1 h
    cases h
    rfl
  · obtain ⟨properties, -, h⟩ := bind_eq_ok.1 h
    obtain ⟨additional, -, h⟩ := bind_eq_ok.1 h
    cases h
    rfl
  · split at h
    · cases h
      rfl
    · cases h
      rfl
  · cases h
    rfl

/-- A node has the path and the schema that it was read from. -/
theorem parse_origin (h : parse path schema = .ok node) : node.origin = ⟨path, schema⟩ := by
  cases schema with
  | object members =>
    rw [parse_object] at h
    cases hform : form members with
    | const | enum | ref | free =>
      rw [hform] at h
      cases h
      rfl
    | combinator kind branches =>
      rw [hform] at h
      obtain ⟨nodes, -, rfl⟩ := map_eq_ok.1 h
      rfl
    | typed type =>
      rw [hform] at h
      obtain ⟨keyword, -, h⟩ := bind_eq_ok.1 h
      exact typedNode_origin h
  | null | bool | number | string | array =>
    cases h
    rfl

/-- The path of a node leads to its schema, and the node is what is read there. -/
structure ReadAt (document : Json) (node : Node) : Prop where
  leads : Pointer.resolve document node.origin.path = .ok node.origin.raw
  read : parse node.origin.path node.origin.raw = .ok node

theorem ReadAt.of_parse {document : Json} (h : Pointer.resolve document path = .ok schema)
    (hparse : parse path schema = .ok node) : ReadAt document node := by
  have horigin := parse_origin hparse
  constructor
  · rw [horigin]
    exact h
  · rw [horigin]
    exact hparse

section Parts

variable {document : Json} (hkeys : document.all Json.keysOnce = true)
  (hslashes : document.all Json.keysUncut = true) (hindexable : document.all Json.indexable = true)

include hkeys hslashes hindexable

variable {node : Node}

/-- The path of a place leads to the schema there, if the path above it does. -/
theorem Below.resolve {path path' : String} {schema part : Json}
    (hbelow : Below path schema path' part) (h : Pointer.resolve document path = .ok schema) :
    Pointer.resolve document path' = .ok part := by
  have hkeywords : ∀ keyword ∈ partKeywords, '/' ∉ keyword.toList ∧ keyword ≠ "" := by decide
  cases hbelow with
  | keyword hkeyword hget =>
    obtain ⟨hslash, hempty⟩ := hkeywords _ hkeyword
    exact Pointer.resolve_keyword h hget hslash hempty
  | listed hkeyword hget hschema =>
    obtain ⟨hslash, hempty⟩ := hkeywords _ hkeyword
    exact Pointer.resolve_position (Pointer.resolve_keyword h hget hslash hempty) hschema hindexable
  | property hget hschema =>
    have hbelow := Pointer.resolve_keyword h hget (by decide) (by decide)
    have hroot : path ++ "/properties" ≠ Pointer.root := by
      intro hsame
      have hslash : '/' ∈ (path ++ "/properties").toList := by simp
      rw [hsame] at hslash
      exact absurd hslash (by decide)
    exact Pointer.resolve_member hbelow hschema hroot hkeys hslashes

/-- **What a node holds is read where its path says, if the node is.** -/
theorem ReadAt.part {part : Node} (h : ReadAt document node) (hpart : node.HasPart part) :
    ReadAt document part := by
  obtain ⟨path', schema, hbelow, hparse⟩ := readBelow_of_part h.read hpart
  exact .of_parse (hbelow.resolve hkeys hslashes hindexable h.leads) hparse

/-- A property is read below its object, under its name. -/
theorem ReadAt.property {origin : Origin} {properties : List (Property Node)}
    {required : List String} {additional : Additional Node} {limits : ObjectLimits}
    (h : ReadAt document (.object origin (some properties) required additional limits))
    {property : Property Node} (hmem : property ∈ properties) :
    Pointer.resolve document s!"{origin.path}/properties/{property.name}" =
      .ok property.node.origin.raw := by
  obtain ⟨path, schema⟩ := origin
  obtain ⟨hleads, hread⟩ := h
  dsimp only [Node.origin] at hleads hread
  cases schema with
  | object members =>
    cases parsed_of_parse hread with
    | object _ _ hproperties _ =>
      obtain ⟨-, part, hbelow, hparse⟩ := parseProperties_located hproperties hmem
      have hpath : path ++ "/properties/" = path ++ "/properties" ++ "/" := by
        rw [String.append_assoc]
        rfl
      rw [parse_origin hparse]
      exact (congrArg (fun start => Pointer.resolve document (start ++ property.name)) hpath).trans
        (hbelow.resolve hkeys hslashes hindexable hleads)
  | null | bool | number | string | array => cases hread

/-- Whatever is inside the node of a document is read where its path says. -/
theorem ReadAt.inside {root : Node} (hparse : parse Pointer.root document = .ok root)
    (hinside : node.Inside root) : ReadAt document node := by
  induction hinside using Relation.ReflTransGen.head_induction_on with
  | refl => exact .of_parse rfl hparse
  | head hpart _ ih => exact ih.part hkeys hslashes hindexable hpart

end Parts

/-- **Paths of nodes and of properties lead back to what was read there.** -/
theorem origins_lead_back {document : Json} {root : Node}
    (hkeys : document.all Json.keysOnce = true) (hslashes : document.all Json.keysUncut = true)
    (hindexable : document.all Json.indexable = true)
    (hparse : parse Pointer.root document = .ok root) :
    (∀ node : Node, node.Inside root →
      Pointer.resolve document node.origin.path = .ok node.origin.raw) ∧
    ∀ origin properties required additional limits,
      (Node.object origin (some properties) required additional limits).Inside root →
        ∀ property ∈ properties,
          Pointer.resolve document s!"{origin.path}/properties/{property.name}" =
            .ok property.node.origin.raw := by
  refine ⟨fun node hinside => (ReadAt.inside hkeys hslashes hindexable hparse hinside).leads, ?_⟩
  intro origin properties required additional limits hinside property hmem
  have hread := ReadAt.inside hkeys hslashes hindexable hparse hinside
  exact hread.property hkeys hslashes hindexable hmem

/-- A schema with parts of many kinds, below keys that are empty, a digit or full of escapes. -/
def nestedSchema : Json := .object [
  ("type", .string "object"),
  ("properties", .object [
    ("", .object [("anyOf", .array [.bool true, .object [
      ("type", .string "array"),
      ("items", .array [.object [("type", .string "null")]])]])]),
    ("0", .object [("type", .string "array"), ("prefixItems", .array [.null])]),
    ("~1%2F", .object [("type", .string "object"), ("additionalProperties", .object [])])])]

/-- The node four levels below the document. -/
def nestedNode : Node :=
  .primitive ⟨"#/properties//anyOf/1/items/0", .object [("type", .string "null")]⟩ .null

/-- The theorem at a node that stands four levels below its document. -/
theorem origins_lead_back_nested : nestedSchema.all Json.keysOnce = true ∧
    nestedSchema.all Json.keysUncut = true ∧ nestedSchema.all Json.indexable = true ∧
    (∃ root, parse Pointer.root nestedSchema = .ok root ∧ nestedNode.Inside root) ∧
    Pointer.resolve nestedSchema "#/properties//anyOf/1/items/0" =
      .ok (.object [("type", .string "null")]) := by
  have hkeys : nestedSchema.all Json.keysOnce = true := by decide +kernel
  have hslashes : nestedSchema.all Json.keysUncut = true := by decide +kernel
  have hindexable : nestedSchema.all Json.indexable = true := by decide +kernel
  obtain ⟨root, hparse, hinside⟩ : ∃ root, parse Pointer.root nestedSchema = .ok root ∧
      nestedNode.Inside root := by
    refine ⟨_, rfl, .trans ?_ (.single (.property List.mem_cons_self))⟩
    refine .trans ?_ (.single (.branch (List.mem_cons_of_mem _ List.mem_cons_self)))
    exact .single (.listed List.mem_cons_self)
  have hleads := (origins_lead_back hkeys hslashes hindexable hparse).1 nestedNode hinside
  exact ⟨hkeys, hslashes, hindexable, ⟨root, hparse, hinside⟩, hleads⟩

end Schema

end SchemaGuard
