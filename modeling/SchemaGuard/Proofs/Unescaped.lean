import SchemaGuard.Proofs.Escapes
import SchemaGuard.Proofs.PointerSteps
import SchemaGuard.Proofs.Reading

/-!
# Pointers without escapes

A pointer is followed in two ways: for a name its segments are taken as they stand, for an expansion
they are decoded first. Decoding only changes what has a tilde or a percent sign in it, so a pointer
without either is followed to the same place both ways.

**Theorem (`resolvers_agree`).** Both ways of following a pointer without escapes fail on the same
pointers, with the same kind of error; otherwise the node at the pointer is read from the schema
that it leads to.

**Theorem (`leadsTo_of_nodeOf`).** A reference without escapes that has a node as a pointer is
expanded to that same node.

The ways differ in the texts of their errors, so that what one step of each gives is related by
`Agree`, and the relation is carried along the segments.
-/

namespace SchemaGuard

namespace Text

/-! ## Characters of segments -/

variable {separator c : Char}

theorem mem_of_mem_splitList {chars part : List Char} (hpart : part ∈ splitList separator chars)
    (hc : c ∈ part) : c ∈ chars := by
  induction chars generalizing part with
  | nil =>
    cases List.mem_singleton.1 hpart
    cases hc
  | cons first chars ih =>
    rw [splitList] at hpart
    split at hpart
    · rcases List.mem_cons.1 hpart with rfl | hpart
      · cases hc
      · exact List.mem_cons_of_mem _ (ih hpart hc)
    · split at hpart
      · cases List.mem_singleton.1 hpart
        exact List.mem_cons.2 (.inl (List.mem_singleton.1 hc))
      · rename_i head tail hsplit
        rcases List.mem_cons.1 hpart with rfl | hpart
        · rcases List.mem_cons.1 hc with rfl | hc
          · exact List.mem_cons_self
          · exact List.mem_cons_of_mem _ (ih (hsplit ▸ List.mem_cons_self) hc)
        · exact List.mem_cons_of_mem _ (ih (hsplit ▸ List.mem_cons_of_mem _ hpart) hc)

theorem mem_of_mem_split {text part : String} (hpart : part ∈ split separator text)
    (hc : c ∈ part.toList) : c ∈ text.toList := by
  obtain ⟨chars, hchars, rfl⟩ := List.mem_map.1 hpart
  rw [String.toList_ofList] at hc
  exact mem_of_mem_splitList hchars hc

end Text

namespace Pointer

/-! ## Following what has no escapes -/

variable {ref path : String}

theorem mem_of_path? {c : Char} (h : path? ref = some path) (hc : c ∈ path.toList) :
    c ∈ ref.toList := by
  rw [path?_eq_some.1 h, String.toList_append]
  exact List.mem_append_right _ hc

theorem unescape_split (h : Unescaped ref) (hpath : path? ref = some path) :
    (Text.split '/' path).map unescape = Text.split '/' path := by
  have hsegments : ∀ segment ∈ Text.split '/' path, unescape segment = segment :=
    fun segment hsegment => unescape_eq_self
      ⟨fun hmem => h.1 (mem_of_path? hpath (Text.mem_of_mem_split hsegment hmem)),
        fun hmem => h.2 (mem_of_path? hpath (Text.mem_of_mem_split hsegment hmem))⟩
  rw [List.map_congr_left hsegments, List.map_id']

/-- Two ways of following a pointer come to the same: to one place, to errors about pointers, whose
texts may differ, or to the same error about an index. -/
inductive Agree : Except LookupError Json → Except LookupError Json → Prop where
  | ok (found : Json) : Agree (.ok found) (.ok found)
  | pointer (error other : PointerError) : Agree (.error (.pointer error)) (.error (.pointer other))
  | index (error : IndexError) : Agree (.error (.index error)) (.error (.index error))

namespace Agree

variable {first second : Except LookupError Json}

theorem ok_iff (h : Agree first second) (found : Json) :
    first = .ok found ↔ second = .ok found := by
  cases h <;> simp

theorem index_iff (h : Agree first second) (error : IndexError) :
    first = .error (.index error) ↔ second = .error (.index error) := by
  cases h <;> simp

theorem pointer_iff (h : Agree first second) :
    (∃ error, first = .error (.pointer error)) ↔ ∃ error, second = .error (.pointer error) := by
  cases h <;> simp

end Agree

variable {document found : Json}

/-- The two ways of taking a step look at keys and positions alike and differ in their texts. -/
theorem step_agree (ref current segment) :
    Agree (step ref current segment) (stepDecoded ref current segment) := by
  unfold step stepDecoded
  cases current with
  | object members =>
    dsimp only
    cases Table.get? members segment with
    | none => exact .pointer _ _
    | some member => exact .ok member
  | array items =>
    dsimp only
    cases item? items segment with
    | error error => exact .index error
    | ok found =>
      cases found with
      | none => exact .pointer _ _
      | some item => exact .ok item
  | null | bool | number | string => exact .pointer _ _

theorem foldlM_agree (ref : String) (segments : List String) (document : Json) :
    Agree (segments.foldlM (step ref) document) (segments.foldlM (stepDecoded ref) document) := by
  induction segments generalizing document with
  | nil => exact .ok document
  | cons segment segments ih =>
    rw [List.foldlM_cons, List.foldlM_cons]
    have hstep := step_agree ref document segment
    generalize step ref document segment = first at hstep ⊢
    generalize stepDecoded ref document segment = second at hstep ⊢
    cases hstep with
    | ok next => exact ih next
    | pointer error other => exact .pointer error other
    | index error => exact .index error

/-- A pointer without escapes is followed to the same end both ways. The one that has nothing but an
empty segment is left out: taken as it stands it has no path. -/
theorem resolve_agree (document : Json) (hplain : Unescaped ref) (href : ref ≠ "#/") :
    Agree (resolve document ref) (resolveEscaped document ref) := by
  unfold resolve resolveEscaped segments
  by_cases hroot : ref = root
  · rw [if_pos (beq_iff_eq.2 hroot), if_pos (beq_iff_eq.2 hroot)]
    exact .ok document
  · rw [if_neg (mt beq_iff_eq.1 hroot), if_neg (mt beq_iff_eq.1 hroot)]
    cases hpath : path? ref with
    | none => exact .pointer _ _
    | some path =>
      have hempty : path.isEmpty = false := by
        rw [String.isEmpty_eq_false_iff]
        rintro rfl
        exact href (path?_eq_some.1 hpath)
      dsimp only
      rw [hempty, unescape_split hplain hpath]
      exact foldlM_agree ref (Text.split '/' path) document

/-- A pointer without escapes that leads somewhere as it stands leads there when decoded. -/
theorem resolveEscaped_of_resolve (hplain : Unescaped ref) (h : resolve document ref = .ok found) :
    resolveEscaped document ref = .ok found := by
  have href : ref ≠ "#/" := by
    rintro rfl
    cases h
  exact ((resolve_agree document hplain href).ok_iff found).1 h

theorem isLocal_of_resolve (h : resolve document ref = .ok found) : isLocal ref = true := by
  unfold resolve at h
  unfold isLocal
  split at h
  · rename_i hroot
    rw [hroot, Bool.true_or]
  · unfold segments at h
    cases hpath : path? ref with
    | none =>
      rw [hpath] at h
      cases h
    | some path => rw [Option.isSome_some, Bool.or_true]

end Pointer

variable {document : Json} {ref : String}

/-- The node at a pointer is read from the schema that the pointer leads to. -/
theorem Schema.nodeAt_eq {schema : Json} (h : Pointer.resolveEscaped document ref = .ok schema) :
    nodeAt document ref = (parse ref schema).mapError .type := by
  unfold nodeAt
  rw [h]
  dsimp only
  cases parse ref schema <;> rfl

/-- **Both ways of following a pointer agree on pointers without escapes.** -/
theorem Pointer.resolvers_agree (document : Json) (ref : String) (hplain : Unescaped ref)
    (href : ref ≠ "#/") :
    ((∃ error, resolve document ref = .error (.pointer error)) ↔
      ∃ error, resolveEscaped document ref = .error (.pointer error)) ∧
    (∀ error, resolve document ref = .error (.index error) ↔
      resolveEscaped document ref = .error (.index error)) ∧
    ∀ schema, resolve document ref = .ok schema →
      Schema.nodeAt document ref = (Schema.parse ref schema).mapError .type := by
  have hagree := resolve_agree document hplain href
  refine ⟨hagree.pointer_iff, hagree.index_iff, fun schema h => ?_⟩
  exact Schema.nodeAt_eq ((hagree.ok_iff schema).1 h)

/-- The theorem where an index is made of digits that write no number. -/
theorem Pointer.resolvers_agree_superscript : Unescaped "#/a/0/\u00b2" ∧ "#/a/0/\u00b2" ≠ "#/" ∧
    resolveEscaped (.object [("a", .array [.array []])]) "#/a/0/\u00b2" =
      .error (.index (.notDecimal "\u00b2")) := by
  have hplain : Unescaped "#/a/0/\u00b2" := by decide
  have href : "#/a/0/\u00b2" ≠ "#/" := by decide
  refine ⟨hplain, href, ?_⟩
  exact ((resolvers_agree _ _ hplain href).2.1 _).1 (by rfl)

/-- **A reference without escapes is expanded to the node it has as a pointer.** -/
theorem leadsTo_of_nodeOf {node : Node} (hplain : Pointer.Unescaped ref)
    (h : Module.nodeOf document ref = .ok node) : leadsTo document ref = some node := by
  obtain ⟨schema, hresolve, hparse⟩ := Module.nodeOf_eq_ok h
  have hnode : Schema.nodeAt document ref = .ok node := by
    simp only [Schema.nodeAt, Pointer.resolveEscaped_of_resolve hplain hresolve, hparse]
  simp only [leadsTo, Pointer.isLocal_of_resolve hresolve, if_true, hnode]

end SchemaGuard
