import SchemaGuard.Pointer

/-!
# References in a schema

Every text under a `$ref`, anywhere in a document: an object's own before those of its members, in
member order. The walk is blind to what a schema means there.
-/

namespace SchemaGuard.Schema

mutual

/-- The references in a document, in order of discovery and with repetitions. -/
def refs : Json → List String
  | .array items => refsOfItems items
  | .object members =>
    (match Table.get? members "$ref" with
      | some (.string ref) => [ref]
      | _ => []) ++ refsOfMembers members
  | _ => []

def refsOfItems : List Json → List String
  | [] => []
  | item :: items => refs item ++ refsOfItems items

def refsOfMembers : List (String × Json) → List String
  | [] => []
  | (_, member) :: members => refs member ++ refsOfMembers members

end

/-- The references that stay inside the document. -/
def localRefs (schema : Json) : List String := (refs schema).filter Pointer.isLocal

/-- The references that leave the document. -/
def externalRefs (schema : Json) : List String := (refs schema).filter (!Pointer.isLocal ·)

end SchemaGuard.Schema
