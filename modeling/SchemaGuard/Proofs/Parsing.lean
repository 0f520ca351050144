import SchemaGuard.Proofs.Gives
import SchemaGuard.Proofs.NodeInduction
import SchemaGuard.Proofs.Tables
import SchemaGuard.Schema.Refs

/-!
# What nodes are read from

`Schema.Parsed` says, for each kind of node, what the members of a schema were that a node was read
from. Facts about nodes that hold because of how they are read follow from it by cases.
-/

namespace SchemaGuard

/-! ## Values inside each other -/

namespace Json

/-- A value stands inside another one, at any depth. -/
inductive Inside : Json → Json → Prop where
  | item {items : List Json} {item : Json} (h : item ∈ items) : Inside item (.array items)
  | member {members : List (String × Json)} {name : String} {member : Json}
      (h : (name, member) ∈ members) : Inside member (.object members)
  | trans {inner middle outer : Json} (h : Inside inner middle) (h' : Inside middle outer) :
      Inside inner outer

variable {inner outer : Json} {members : List (String × Json)} {name : String}

theorem depth_le_depthItems {items : List Json} {item : Json} (h : item ∈ items) :
    item.depth ≤ depthItems items := by
  induction items with
  | nil => cases h
  | cons first items ih =>
    rw [depthItems]
    rcases List.mem_cons.1 h with rfl | h
    · exact Nat.le_max_left _ _
    · exact Nat.le_trans (ih h) (Nat.le_max_right _ _)

theorem depth_le_depthMembers {member : Json} (h : (name, member) ∈ members) :
    member.depth ≤ depthMembers members := by
  induction members with
  | nil => cases h
  | cons first members ih =>
    obtain ⟨key, value⟩ := first
    rw [depthMembers]
    rcases List.mem_cons.1 h with heq | h
    · cases heq
      exact Nat.le_max_left _ _
    · exact Nat.le_trans (ih h) (Nat.le_max_right _ _)

theorem Inside.depth_lt (h : inner.Inside outer) :
    inner.depth < outer.depth := by
  induction h with
  | item h => exact Nat.lt_succ_of_le (depth_le_depthItems h)
  | member h => exact Nat.lt_succ_of_le (depth_le_depthMembers h)
  | trans _ _ ih ih' => exact Nat.lt_trans ih ih'

theorem inside_get? {value : Json} (h : Table.get? members name = some value) :
    value.Inside (.object members) :=
  .member (Table.mem_of_get? h)

/-- A value is another one or stands inside it. -/
def Within (inner outer : Json) : Prop := inner = outer ∨ inner.Inside outer

theorem Within.depth_le (h : inner.Within outer) :
    inner.depth ≤ outer.depth := by
  rcases h with rfl | h
  · exact Nat.le_refl _
  · exact Nat.le_of_lt h.depth_lt

theorem Inside.within {middle : Json} (h : inner.Inside middle) (h' : middle.Within outer) :
    inner.Within outer := by
  rcases h' with rfl | h'
  · exact .inr h
  · exact .inr (h.trans h')

end Json

end SchemaGuard

namespace SchemaGuard.Schema

/-- A node read from a schema object, by its kind: what was read, and from where. -/
inductive Parsed (path : String) (members : List (String × Json)) : Node → Prop where
  | const (origin : Origin) (value : Json) : Parsed path members (.const origin value)
  | enum (origin : Origin) (values : List Json) : Parsed path members (.enum origin values)
  | combinator (origin : Origin) {kind : Combinator} {branches : List Node}
      (h : parseListed path kind.keyword members = .ok (some branches)) :
      Parsed path members (.combinator origin kind branches)
  | ref (origin : Origin) {target : String}
      (h : Table.get? members "$ref" = some (.string target)) :
      Parsed path members (.ref origin target)
  | unknown (origin : Origin) : Parsed path members (.unknown origin)
  | union (origin : Origin) (types : List String) : Parsed path members (.union origin types)
  | primitive (origin : Origin) (type : Primitive) : Parsed path members (.primitive origin type)
  | array (origin : Origin) {items : Items Node} {leading : Option (List Node)}
      (limits : ArrayLimits) (hitems : parseItems path members = .ok items)
      (hleading : parseListed path "prefixItems" members = .ok leading) :
      Parsed path members (.array origin items leading limits)
  | object (origin : Origin) {properties : Option (List (Property Node))} {required : List String}
      {additional : Additional Node} (limits : ObjectLimits)
      (hproperties : parseProperties path required members = .ok properties)
      (hadditional : parseAdditional path members = .ok additional) :
      Parsed path members (.object origin properties required additional limits)

variable {path : String} {members : List (String × Json)} {node : Node}

theorem parsed_of_parse (h : parse path (.object members) = .ok node) :
    Parsed path members node := by
  rw [parse] at h
  dsimp only at h
  split at h
  · cases h
    exact .const _ _
  split at h
  · cases h
    exact .enum _ _
  obtain ⟨oneOf, honeOf, h⟩ := bind_eq_ok.1 h
  split at h
  · cases h
    exact .combinator _ honeOf
  obtain ⟨anyOf, hanyOf, h⟩ := bind_eq_ok.1 h
  split at h
  · cases h
    exact .combinator _ hanyOf
  obtain ⟨allOf, hallOf, h⟩ := bind_eq_ok.1 h
  split at h
  · cases h
    exact .combinator _ hallOf
  split at h
  · rename_i href
    cases h
    exact .ref _ href
  split at h
  · cases h
    exact .unknown _
  obtain ⟨type, -, h⟩ := bind_eq_ok.1 h
  split at h
  · cases h
    exact .union _ _
  · obtain ⟨items, hitems, h⟩ := bind_eq_ok.1 h
    obtain ⟨leading, hleading, h⟩ := bind_eq_ok.1 h
    cases h
    exact .array _ _ hitems hleading
  · obtain ⟨properties, hproperties, h⟩ := bind_eq_ok.1 h
    obtain ⟨additional, hadditional, h⟩ := bind_eq_ok.1 h
    cases h
    exact .object _ _ hproperties hadditional
  · split at h
    · cases h
      exact .primitive _ _
    · cases h
      exact .unknown _
  · cases h
    exact .unknown _

/-! ## Parts of nodes come from parts of schemas -/

variable {name : String} {member : Json}

theorem refs_of_item {items : List Json} {item : Json} (hmem : item ∈ items) :
    refs item ⊆ refs (.array items) := by
  rw [refs]
  induction items with
  | nil => cases hmem
  | cons first items ih =>
    rw [refsOfItems]
    rcases List.mem_cons.1 hmem with rfl | hmem
    · exact List.subset_append_left _ _
    · exact List.Subset.trans (ih hmem) (List.subset_append_right _ _)

theorem refs_of_member (hmem : (name, member) ∈ members) :
    refs member ⊆ refs (.object members) := by
  rw [refs]
  refine List.Subset.trans ?_ (List.subset_append_right _ _)
  induction members with
  | nil => cases hmem
  | cons first members ih =>
    rw [refsOfMembers]
    rcases List.mem_cons.1 hmem with rfl | hmem
    · exact List.subset_append_left _ _
    · exact List.Subset.trans (ih hmem) (List.subset_append_right _ _)

/-- A node is read from a schema, or from a part of it, whose references are among those of the
schema. -/
def ReadFrom (schema : Json) (node : Node) : Prop :=
  ∃ path part, refs part ⊆ refs schema ∧ parse path part = .ok node

variable {schema : Json} {required : List String} {properties : List (Property Node)}
  {property : Property Node}

theorem ReadFrom.mono {larger : Json} (h : ReadFrom schema node)
    (hsub : refs schema ⊆ refs larger) : ReadFrom larger node := by
  obtain ⟨path, part, hpart, hparse⟩ := h
  exact ⟨path, part, List.Subset.trans hpart hsub, hparse⟩

theorem readFrom_of_parse (h : parse path schema = .ok node) :
    ReadFrom schema node := ⟨path, schema, List.Subset.refl _, h⟩

/-- Schemas in a list are read at their positions. -/
theorem parseEach_located {position : Nat} {schemas : List Json} {nodes : List Node}
    (h : parseEach path position schemas = .ok nodes) (hmem : node ∈ nodes) :
    ∃ i schema, schemas[i]? = some schema ∧ parse s!"{path}/{position + i}" schema = .ok node := by
  induction schemas generalizing position nodes with
  | nil =>
    cases h
    cases hmem
  | cons schema schemas ih =>
    rw [parseEach] at h
    obtain ⟨first, hfirst, h⟩ := bind_eq_ok.1 h
    obtain ⟨others, hothers, h⟩ := bind_eq_ok.1 h
    cases h
    rcases List.mem_cons.1 hmem with rfl | hmem
    · exact ⟨0, schema, rfl, hfirst⟩
    · obtain ⟨i, read, hread, hparse⟩ := ih hothers hmem
      refine ⟨i + 1, read, hread, ?_⟩
      rwa [Nat.add_right_comm] at hparse

/-- Schemas under names are read at their names. -/
theorem parseMembers_located {schemas : List (String × Json)}
    (h : parseMembers path required schemas = .ok properties) (hmem : property ∈ properties) :
    property.required = required.contains property.name ∧
      ∃ schema, (property.name, schema) ∈ schemas ∧
        parse s!"{path}/{property.name}" schema = .ok property.node := by
  induction schemas generalizing properties with
  | nil =>
    cases h
    cases hmem
  | cons schema schemas ih =>
    rw [parseMembers] at h
    obtain ⟨first, hfirst, h⟩ := bind_eq_ok.1 h
    obtain ⟨others, hothers, h⟩ := bind_eq_ok.1 h
    cases h
    rcases List.mem_cons.1 hmem with rfl | hmem
    · exact ⟨rfl, schema.2, by simp, hfirst⟩
    · obtain ⟨hrequired, member, hmember, hparse⟩ := ih hothers hmem
      exact ⟨hrequired, member, by simp [hmember], hparse⟩

/-! ### Keywords

Reading goes through the members to the one under a keyword. -/

theorem parseListed_eq (path keyword : String) (members : List (String × Json)) :
    parseListed path keyword members = match Table.get? members keyword with
      | some (.array schemas) => some <$> parseEach s!"{path}/{keyword}" 0 schemas
      | _ => pure none := by
  induction members with
  | nil => rfl
  | cons member members ih =>
    rw [Table.get?_cons]
    unfold parseListed
    split
    · rename_i hname
      rw [if_pos (eq_of_beq hname).symm]
      cases member.2 <;> rfl
    · rename_i hname
      rw [if_neg fun heq => hname (beq_iff_eq.2 heq.symm), ih]

theorem parseItems_eq (path : String) (members : List (String × Json)) :
    parseItems path members = match Table.get? members "items" with
      | some (.array schemas) => .each <$> parseEach s!"{path}/items" 0 schemas
      | some .null => pure .absent
      | some (.bool false) => pure .absent
      | some schema => .all <$> parse s!"{path}/items" schema
      | none => pure .absent := by
  induction members with
  | nil => rfl
  | cons member members ih =>
    rw [Table.get?_cons]
    unfold parseItems
    split
    · rename_i hname
      rw [if_pos (eq_of_beq hname).symm]
      cases member.2 with
      | bool truth => cases truth <;> rfl
      | _ => rfl
    · rename_i hname
      rw [if_neg fun heq => hname (beq_iff_eq.2 heq.symm), ih]

theorem parseProperties_eq (path : String) (required : List String)
    (members : List (String × Json)) :
    parseProperties path required members = match Table.get? members "properties" with
      | some (.object schemas) => some <$> parseMembers s!"{path}/properties" required schemas
      | _ => pure none := by
  induction members with
  | nil => rfl
  | cons member members ih =>
    rw [Table.get?_cons]
    unfold parseProperties
    split
    · rename_i hname
      rw [if_pos (eq_of_beq hname).symm]
      cases member.2 <;> rfl
    · rename_i hname
      rw [if_neg fun heq => hname (beq_iff_eq.2 heq.symm), ih]

theorem parseAdditional_eq (path : String) (members : List (String × Json)) :
    parseAdditional path members = match Table.get? members "additionalProperties" with
      | some .null => pure (.value none)
      | some (.object members) => .schema <$> parse s!"{path}/additionalProperties"
        (.object members)
      | some raw => pure (.value (some raw))
      | none => pure (.value none) := by
  induction members with
  | nil => rfl
  | cons member members ih =>
    rw [Table.get?_cons]
    unfold parseAdditional
    split
    · rename_i hname
      rw [if_pos (eq_of_beq hname).symm]
      cases member.2 <;> rfl
    · rename_i hname
      rw [if_neg fun heq => hname (beq_iff_eq.2 heq.symm), ih]

theorem refs_of_get? (h : Table.get? members name = some member) :
    refs member ⊆ refs (.object members) :=
  refs_of_member (Table.mem_of_get? h)

/-! ### Places

What a node holds was read somewhere in the schema of the node, and the path says where. -/

/-- The keywords under which a schema has other schemas, those of properties apart. -/
def partKeywords : List String :=
  ["oneOf", "anyOf", "allOf", "items", "prefixItems", "additionalProperties"]

/-- The places of the schemas in a schema: under a keyword, in a list under a keyword, or under a
name among the properties. -/
inductive Below (path : String) : Json → String → Json → Prop where
  | keyword {members : List (String × Json)} {keyword : String} {schema : Json}
      (hkeyword : keyword ∈ partKeywords) (hget : Table.get? members keyword = some schema) :
      Below path (.object members) (path ++ ("/" ++ keyword)) schema
  | listed {members : List (String × Json)} {keyword : String} {schemas : List Json}
      {position : Nat} {schema : Json} (hkeyword : keyword ∈ partKeywords)
      (hget : Table.get? members keyword = some (.array schemas))
      (hschema : schemas[position]? = some schema) :
      Below path (.object members) (path ++ ("/" ++ keyword) ++ "/" ++ toString position) schema
  | property {members schemas : List (String × Json)} {name : String} {schema : Json}
      (hget : Table.get? members "properties" = some (.object schemas))
      (hschema : (name, schema) ∈ schemas) :
      Below path (.object members) (path ++ "/properties" ++ "/" ++ name) schema

theorem Below.refs_subset {path' : String} {part : Json} (h : Below path schema path' part) :
    refs part ⊆ refs schema := by
  cases h with
  | keyword _ hget => exact refs_of_get? hget
  | listed _ hget hschema =>
    exact List.Subset.trans (refs_of_item (List.mem_of_getElem? hschema)) (refs_of_get? hget)
  | property hget hschema =>
    exact List.Subset.trans (refs_of_member hschema) (refs_of_get? hget)

/-- A node is read at one of the places in a schema. -/
def ReadBelow (path : String) (schema : Json) (node : Node) : Prop :=
  ∃ path' part, Below path schema path' part ∧ parse path' part = .ok node

section Places

variable {path : String} {members : List (String × Json)} {node : Node} {nodes : List Node}
  {keyword : String}

theorem parseEach_readBelow {schemas : List Json} (hkeyword : keyword ∈ partKeywords)
    (hget : Table.get? members keyword = some (.array schemas))
    (h : parseEach (path ++ ("/" ++ keyword)) 0 schemas = .ok nodes) (hmem : node ∈ nodes) :
    ReadBelow path (.object members) node := by
  obtain ⟨i, schema, hschema, hparse⟩ := parseEach_located h hmem
  rw [Nat.zero_add] at hparse
  exact ⟨_, schema, .listed hkeyword hget hschema, hparse⟩

theorem parseListed_readBelow (hkeyword : keyword ∈ partKeywords)
    (h : parseListed path keyword members = .ok (some nodes)) (hmem : node ∈ nodes) :
    ReadBelow path (.object members) node := by
  rw [parseListed_eq] at h
  split at h
  · rename_i hget
    obtain ⟨listed, hlisted, h⟩ := map_eq_ok.1 h
    cases h
    have hpath : path ++ "/" ++ keyword = path ++ ("/" ++ keyword) := String.append_assoc
    exact parseEach_readBelow hkeyword hget (hpath ▸ hlisted) hmem
  · cases h

theorem parseItems_all (h : parseItems path members = .ok (.all node)) :
    ReadBelow path (.object members) node := by
  rw [parseItems_eq] at h
  split at h
  · obtain ⟨nodes, -, h⟩ := map_eq_ok.1 h
    cases h
  · cases h
  · cases h
  · rename_i hget
    obtain ⟨read, hread, h⟩ := map_eq_ok.1 h
    cases h
    exact ⟨_, _, .keyword (by decide) hget, hread⟩
  · cases h

theorem parseItems_each (h : parseItems path members = .ok (.each nodes)) (hmem : node ∈ nodes) :
    ReadBelow path (.object members) node := by
  rw [parseItems_eq] at h
  split at h
  · rename_i hget
    obtain ⟨listed, hlisted, h⟩ := map_eq_ok.1 h
    cases h
    exact parseEach_readBelow (by decide) hget hlisted hmem
  · cases h
  · cases h
  · obtain ⟨read, -, h⟩ := map_eq_ok.1 h
    cases h
  · cases h

theorem parseProperties_located {required : List String} {properties : List (Property Node)}
    (h : parseProperties path required members = .ok (some properties)) {property : Property Node}
    (hmem : property ∈ properties) :
    property.required = required.contains property.name ∧
      ∃ schema,
        Below path (.object members) (path ++ "/properties" ++ "/" ++ property.name) schema ∧
        parse (path ++ "/properties" ++ "/" ++ property.name) schema = .ok property.node := by
  rw [parseProperties_eq] at h
  split at h
  · rename_i hget
    obtain ⟨listed, hlisted, h⟩ := map_eq_ok.1 h
    cases h
    obtain ⟨hrequired, schema, hschema, hparse⟩ := parseMembers_located hlisted hmem
    exact ⟨hrequired, schema, .property hget hschema, hparse⟩
  · cases h

theorem parseAdditional_readBelow (h : parseAdditional path members = .ok (.schema node)) :
    ReadBelow path (.object members) node := by
  rw [parseAdditional_eq] at h
  split at h
  · cases h
  · rename_i hget
    obtain ⟨read, hread, h⟩ := map_eq_ok.1 h
    cases h
    exact ⟨_, _, .keyword (by decide) hget, hread⟩
  · cases h
  · cases h

end Places

variable {origin : Origin} {target : String}

/-- **What a node holds is read at a place in its schema.** -/
theorem readBelow_of_part {part : Node} (h : parse path schema = .ok node)
    (hpart : node.HasPart part) :
    ReadBelow path schema part := by
  cases schema with
  | object members =>
    cases parsed_of_parse h with
    | const | enum | ref | unknown | union | primitive => cases hpart
    | @combinator origin kind branches hlisted =>
      cases hpart with
      | branch hmem => exact parseListed_readBelow (by cases kind <;> decide) hlisted hmem
    | array origin limits hitems hleading =>
      cases hpart with
      | item => exact parseItems_all hitems
      | listed hmem => exact parseItems_each hitems hmem
      | leading hmem => exact parseListed_readBelow (by decide) hleading hmem
    | object origin limits hproperties hadditional =>
      cases hpart with
      | property hmem =>
        obtain ⟨-, schema, hbelow, hparse⟩ := parseProperties_located hproperties hmem
        exact ⟨_, schema, hbelow, hparse⟩
      | additional => exact parseAdditional_readBelow hadditional
  | null | bool | number | string | array =>
    cases h
    cases hpart

/-- **What a node holds is read from its schema too.** -/
theorem ReadFrom.part {part : Node} (h : ReadFrom schema node) (hpart : node.HasPart part) :
    ReadFrom schema part := by
  obtain ⟨path, read, hsub, hparse⟩ := h
  obtain ⟨path', inner, hbelow, hinner⟩ := readBelow_of_part hparse hpart
  exact ⟨path', inner, List.Subset.trans hbelow.refs_subset hsub, hinner⟩

/-- A property is required if the object that declares it lists its name. -/
theorem ReadFrom.required_eq {additional : Additional Node} {limits : ObjectLimits}
    (h : ReadFrom schema (.object origin (some properties) required additional limits))
    (hmem : property ∈ properties) : property.required = required.contains property.name := by
  obtain ⟨path, read, -, hparse⟩ := h
  cases read with
  | object members =>
    cases parsed_of_parse hparse with
    | object _ _ hproperties _ => exact (parseProperties_located hproperties hmem).1
  | null | bool | number | string | array => cases hparse

/-- A reference that is read from a schema is one of its references. -/
theorem ReadFrom.mem_refs (h : ReadFrom schema (.ref origin target)) : target ∈ refs schema := by
  obtain ⟨path, read, hsub, hparse⟩ := h
  cases read with
  | object members =>
    cases parsed_of_parse hparse with
    | ref _ hget =>
      refine hsub ?_
      rw [refs, hget]
      exact List.mem_append_left _ (List.mem_singleton_self _)
  | null | bool | number | string | array => cases hparse

/-! ## Places in a document -/

variable {ref : String} {document : Json} {segment : String} {current next : Json}

theorem refs_of_within {inner outer : Json} (h : inner.Within outer) : refs inner ⊆ refs outer := by
  rcases h with rfl | h
  · exact List.Subset.refl _
  · induction h with
    | item hmem => exact refs_of_item hmem
    | member hmem => exact refs_of_member hmem
    | trans _ _ ih ih' => exact List.Subset.trans ih ih'

theorem inside_of_step (h : Pointer.step ref current segment = .ok next) : next.Inside current := by
  unfold Pointer.step at h
  split at h
  · split at h
    · rename_i hget
      cases h
      exact Json.inside_get? hget
    · cases h
  · split at h
    · rename_i hitem
      cases h
      unfold Pointer.item? at hitem
      split at hitem
      · obtain ⟨position, -, hitem⟩ := bind_eq_ok.1 hitem
        exact .item (List.mem_of_getElem? (pure_eq_ok.1 hitem))
      · cases hitem
    · cases h
    · cases h
  · cases h

/-- A step by a decoded segment is a step, though other errors are made of it. -/
theorem stepDecoded_eq_ok :
    Pointer.stepDecoded ref current segment = .ok next ↔
      Pointer.step ref current segment = .ok next := by
  unfold Pointer.stepDecoded Pointer.step
  cases current with
  | object members => cases Table.get? members segment <;> simp
  | array items =>
    dsimp only
    cases Pointer.item? items segment with
    | error error => simp
    | ok found => cases found <;> simp
  | null | bool | number | string => simp

theorem within_of_resolve (h : Pointer.resolve document ref = .ok schema) :
    schema.Within document := by
  unfold Pointer.resolve at h
  split at h
  · cases h
    exact .inl rfl
  · split at h
    · cases h
    · exact foldlM_preserves (P := (Json.Within · document))
        (fun _ _ _ _ hwithin hstep => (inside_of_step hstep).within hwithin) (.inl rfl) h

theorem within_of_resolveEscaped (h : Pointer.resolveEscaped document ref = .ok schema) :
    schema.Within document := by
  unfold Pointer.resolveEscaped at h
  split at h
  · cases h
    exact .inl rfl
  · split at h
    · cases h
    · exact foldlM_preserves (P := (Json.Within · document)) (fun _ _ _ _ hwithin hstep =>
        (inside_of_step (stepDecoded_eq_ok.1 hstep)).within hwithin) (.inl rfl) h

theorem refs_of_resolve (h : Pointer.resolve document ref = .ok schema) :
    refs schema ⊆ refs document :=
  refs_of_within (within_of_resolve h)

theorem nodeAt_eq_ok (h : nodeAt document target = .ok node) :
    ∃ schema, Pointer.resolveEscaped document target = .ok schema ∧
      parse target schema = .ok node := by
  unfold nodeAt at h
  split at h
  · cases h
  · rename_i schema hschema
    split at h
    · cases h
    · rename_i hparse
      cases h
      exact ⟨schema, hschema, hparse⟩

theorem nodeAt_readFrom (h : nodeAt document ref = .ok node) : ReadFrom document node := by
  obtain ⟨schema, hresolve, hparse⟩ := nodeAt_eq_ok h
  exact (readFrom_of_parse hparse).mono (refs_of_within (within_of_resolveEscaped hresolve))

theorem definitionNode_readFrom (h : definitionNode document name = .ok (some node)) :
    ReadFrom document node := by
  unfold definitionNode at h
  split at h
  · cases h
  · rename_i path schema hdefinition
    obtain ⟨read, hparse, h⟩ := map_eq_ok.1 h
    cases h
    refine (readFrom_of_parse hparse).mono ?_
    obtain ⟨container, -, hfound⟩ := List.exists_of_findSome?_eq_some hdefinition
    split at hfound
    · rename_i definitions hcontainer
      obtain ⟨found, hget, heq⟩ := Option.map_eq_some_iff.1 hfound
      cases heq
      cases document with
      | object members => exact List.Subset.trans (refs_of_get? hget) (refs_of_get? hcontainer)
      | null | bool | number | string | array => cases hcontainer
    · cases hfound

end SchemaGuard.Schema
