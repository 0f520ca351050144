import SchemaGuard.Proofs.Unescaped

/-!
# Every location has an address

A location in a document is a sequence of keys and positions. Its address is the pointer that writes
them one after another: positions in decimal, and keys with `~`, `/` and `%` escaped.

**Theorem (`address_reaches`).** Following the address of a location leads to what is there, and the
node at the address is what is read from it.

An address is cut at its slashes, of which the escaped keys have none, and decoding undoes escaping.
So its segments are the keys and positions of the location, and one step of the location is one step
of the address.
-/

namespace SchemaGuard

/-! ## Locations and their addresses -/

namespace Pointer

/-- One step of a location: a key of an object or a position in an array. -/
inductive Token where
  | key (name : String)
  | position (index : Nat)
deriving DecidableEq

end Pointer

namespace Json

/-- The part of a document one step in. -/
def child? : Json → Pointer.Token → Option Json
  | object members, .key name => Table.get? members name
  | array items, .position index => items[index]?
  | _, _ => none

/-- The part of a document at a location. -/
def at? (document : Json) : List Pointer.Token → Option Json
  | [] => some document
  | token :: tokens => (document.child? token).bind (·.at? tokens)

end Json

namespace Pointer

def Token.text : Token → String
  | key name => escape name
  | position index => toString index

/-- The pointer that writes a location. -/
def address : List Token → String
  | [] => root
  | token :: tokens => "#/" ++ "/".intercalate ((token :: tokens).map Token.text)

/-! ## Segments -/

/-- What a step is taken by once it is decoded. -/
def Token.segment : Token → String
  | key name => name
  | position index => toString index

theorem unescape_toString (n : Nat) : unescape (toString n) = toString n :=
  unescape_eq_self ⟨notMem_toString (by decide) n, notMem_toString (by decide) n⟩

theorem Token.unescape_text (token : Token) : unescape token.text = token.segment := by
  cases token with
  | key name => exact unescape_escape name
  | position index => exact unescape_toString index

theorem Token.slash_notMem_text (token : Token) : '/' ∉ token.text.toList := by
  cases token with
  | key name => exact slash_notMem_escape name
  | position index => exact notMem_toString (by decide) index

theorem split_intercalate {segments : List String} (hne : segments ≠ [])
    (h : ∀ segment ∈ segments, '/' ∉ segment.toList) :
    Text.split '/' ("/".intercalate segments) = segments := by
  induction segments with
  | nil => exact absurd rfl hne
  | cons segment segments ih =>
    cases segments with
    | nil => exact Text.split_of_notMem (h segment (by simp))
    | cons next segments =>
      rw [String.intercalate_cons_cons, Text.split_append rfl,
        Text.split_of_notMem (h segment (by simp)),
        ih (by simp) fun other hother => h other (by simp [hother]), List.singleton_append]

/-! ## Following addresses -/

variable {document next : Json} {token : Token}

theorem child?_eq_some (h : document.child? token = some next) :
    (∃ members name, document = .object members ∧ token = .key name ∧
      Table.get? members name = some next) ∨
    ∃ items index, document = .array items ∧ token = .position index ∧
      items[index]? = some next := by
  cases document with
  | object members =>
    cases token with
    | key name => exact .inl ⟨members, name, rfl, rfl, h⟩
    | position index => cases h
  | array items =>
    cases token with
    | key name => cases h
    | position index => exact .inr ⟨items, index, rfl, rfl, h⟩
  | null | bool | number | string => cases token <;> cases h

/-- One step of a location is one step of its address. -/
theorem stepDecoded_segment (ref : String) (hindexable : document.all Json.indexable = true)
    (h : document.child? token = some next) :
    stepDecoded ref document token.segment = .ok next := by
  rw [Schema.stepDecoded_eq_ok]
  obtain ⟨members, name, rfl, rfl, hmember⟩ | ⟨items, index, rfl, rfl, hitem⟩ := child?_eq_some h
  · exact step_key ref hmember
  · exact step_position ref hitem (Json.all_self hindexable)

theorem child?_inside (h : document.child? token = some next) : next.Inside document := by
  obtain ⟨members, name, rfl, rfl, hmember⟩ | ⟨items, index, rfl, rfl, hitem⟩ := child?_eq_some h
  · exact Json.inside_get? hmember
  · exact .item (List.mem_of_getElem? hitem)

/-- The steps of an address lead along its location. -/
theorem foldlM_segments (ref : String) {found : Json} {location : List Token}
    (hindexable : document.all Json.indexable = true) (h : document.at? location = some found) :
    (location.map Token.segment).foldlM (stepDecoded ref) document = .ok found := by
  induction location generalizing document with
  | nil =>
    cases h
    rfl
  | cons token location ih =>
    obtain ⟨next, hnext, hrest⟩ := Option.bind_eq_some_iff.1 h
    rw [List.map_cons, List.foldlM_cons, stepDecoded_segment ref hindexable hnext]
    exact ih (Json.all_inside hindexable (child?_inside hnext)) hrest

theorem resolveEscaped_address {found : Json} {location : List Token}
    (hindexable : document.all Json.indexable = true) (h : document.at? location = some found) :
    resolveEscaped document (address location) = .ok found := by
  cases location with
  | nil =>
    cases h
    rfl
  | cons token location =>
    have hslashes : ∀ segment ∈ (token :: location).map Token.text, '/' ∉ segment.toList := by
      intro segment hsegment
      obtain ⟨step, -, rfl⟩ := List.mem_map.1 hsegment
      exact step.slash_notMem_text
    have hsegments : (token :: location).map (unescape ∘ Token.text) =
        (token :: location).map Token.segment :=
      List.map_congr_left fun step _ => step.unescape_text
    rw [address, resolveEscaped, if_neg (mt beq_iff_eq.1 (ne_root _)), path?_eq_some.2 rfl]
    dsimp only
    rw [split_intercalate (by simp) hslashes, List.map_map, hsegments]
    exact foldlM_segments _ hindexable h

/-- **The address of a location leads to what is there, and the node at the address is what is read
from it.** -/
theorem address_reaches {document found : Json} {location : List Token}
    (hindexable : document.all Json.indexable = true) (h : document.at? location = some found) :
    resolveEscaped document (address location) = .ok found ∧
      Schema.nodeAt document (address location) =
        (Schema.parse (address location) found).mapError .type := by
  have hresolve := resolveEscaped_address hindexable h
  exact ⟨hresolve, Schema.nodeAt_eq hresolve⟩

/-- A document with keys that are empty, look like positions or hold what looks like escapes. -/
def oddKeys : Json := .object [
  ("", .array [.null, .object [("0", .object [("~1/~01%2F\u00e9%25", .string "here")])]])]

/-- The theorem at a location below such keys. -/
theorem address_reaches_odd : oddKeys.all Json.indexable = true ∧
    oddKeys.at? [.key "", .position 1, .key "0", .key "~1/~01%2F\u00e9%25"] =
      some (.string "here") ∧
    resolveEscaped oddKeys "#//1/0/~01~1~001%252F\u00e9%2525" = .ok (.string "here") ∧
    Schema.nodeAt oddKeys "#//1/0/~01~1~001%252F\u00e9%2525" =
      (Schema.parse "#//1/0/~01~1~001%252F\u00e9%2525" (.string "here")).mapError .type := by
  have hindexable : oddKeys.all Json.indexable = true := by decide +kernel
  have hplace : oddKeys.at? [.key "", .position 1, .key "0", .key "~1/~01%2F\u00e9%25"] =
      some (.string "here") := rfl
  have haddress : address [.key "", .position 1, .key "0", .key "~1/~01%2F\u00e9%25"] =
      "#//1/0/~01~1~001%252F\u00e9%2525" := by decide +kernel
  have hreaches := address_reaches hindexable hplace
  rw [haddress] at hreaches
  exact ⟨hindexable, hplace, hreaches⟩

end Pointer

end SchemaGuard
