import SchemaGuard.Emit
import SchemaGuard.Name.Registry
import SchemaGuard.Schema.Layout
import SchemaGuard.Schema.Refs
import SchemaGuard.TypeDecl

/-!
# Types of nodes

A node's type. Objects with declared properties are dictionary types; an object inside another type
is hoisted: it gets a name of its own, made from the names around it, and a declaration before the
one it came from. The object branches of an `allOf` are merged into one object.

References to named pointers are names, other references are expanded. An expansion is guarded
against meeting itself, but the properties that a merge takes from a reference are typed after its
guard is lifted, so the recursion is bounded by `fuel` alone.
-/

namespace SchemaGuard.TypeDecl

/-- What compiling types builds up. -/
structure Progress where
  registry : Registry
  hoisted : List TypeDecl
  notices : List Notice

abbrev Compile := ExceptT EmitError (StateM Progress)

def note (notice : Notice) : Compile Unit :=
  modify fun progress => { progress with notices := progress.notices ++ [notice] }

/-- The document and the pointer that is compiled. -/
structure Place where
  document : Json
  pointer : String

/-- Claims a fresh name for the pointer. -/
def freshName (place : Place) (base : String) : Compile String := do
  let progress ← get
  let (name, registry) := progress.registry.claimUnique base place.pointer
  set { progress with registry }
  return name

def addHoisted (declaration : TypeDecl) : Compile Unit :=
  modify fun progress => { progress with hoisted := progress.hoisted ++ [declaration] }

/-- The node to expand a reference to. -/
def expand (place : Place) (opened : List String) (ref path : String) : Compile (Option Node) := do
  let resolution := Emit.resolve .types place.document opened ref path
  resolution.notices.forM note
  match resolution.outcome with
  | .ok node => return node
  | .error error => throw error

/-! ## Types without parts -/

/-- The type of a type name, if it is one. -/
def ofTypeName? : String → Option TypeExpr
  | "string" => some (.name "str")
  | "integer" => some (.name "float")
  | "number" => some (.name "float")
  | "boolean" => some (.name "bool")
  | "null" => some .none
  | "array" => some (.list .any)
  | "object" => some (.dict .any)
  | _ => none

def ofPrimitive (type : Primitive) : TypeExpr := (ofTypeName? type.typeName).getD .any

/-- The constant of a literal type. Floating-point numbers are none. -/
def constant? : Json → Option Constant
  | .string value => some (.string value)
  | .number (.int value) => some (.int value)
  | .bool value => some (.bool value)
  | _ => none

def isFloat : Json → Bool
  | .number (.float _) => true
  | _ => false

def isNull : Json → Bool
  | .null => true
  | _ => false

def isContainer : Json → Bool
  | .array _ => true
  | .object _ => true
  | _ => false

def ofConst (value : Json) : TypeExpr :=
  match constant? value with
  | some constant => .literal [constant]
  | none => if isNull value then .none else if isFloat value then .name "float" else .any

def ofEnum (values : List Json) : TypeExpr :=
  if values.any isContainer then
    .any
  else
    let constants := values.filterMap constant?
    .unionOf
      ((if constants.isEmpty then [] else [.literal constants]) ++
        (if values.any isFloat then [.name "float"] else []) ++
        (if values.any isNull then [.none] else []))

/-! ## Merging -/

/-- Adds a property to those merged so far: the later type counts, and a property stays required. -/
def addProperty (merged : Table (Property Node)) (property : Property Node) : Table (Property Node) :=
  let wasRequired := ((merged.get? property.name).map (·.required)).getD false
  merged.put property.name { property with required := property.required || wasRequired }

/-- Makes the named properties required, of those merged so far. -/
def requireNames (merged : Table (Property Node)) (names : List String) : Table (Property Node) :=
  merged.map fun (name, property) =>
    (name, { property with required := property.required || names.contains name })

/-- The names that a branch itself requires. -/
def ownRequired : Node → List String
  | .object _ _ required _ _ => required
  | _ => []

mutual

/-- Declares a name as the type of a node. -/
def declare (place : Place) : Nat → List String → Node → String → Compile TypeDecl
  | 0, _, _, _ => throw .tooDeep
  | fuel + 1, opened, node, name => do
    match node with
    | .object _ (some properties) _ _ _ => dictOf place fuel opened name properties
    | .combinator _ .allOf branches =>
      match ← merge place fuel opened branches with
      | some properties => dictOf place fuel opened name properties
      | none => return .synonym name (← intersect place fuel opened node.path branches name)
    | _ => return .synonym name (← typeOf place fuel opened node name)

/-- Declares an object under a fresh name, and refers to it. -/
def hoist (place : Place) : Nat → List String → List (Property Node) → String → Compile TypeExpr
  | 0, _, _, _ => throw .tooDeep
  | fuel + 1, opened, properties, base => do
    let name ← freshName place base
    addHoisted (← dictOf place fuel opened name properties)
    return .name name

/-- The dictionary type of some properties. -/
def dictOf (place : Place) : Nat → List String → String → List (Property Node) → Compile TypeDecl
  | 0, _, _, _ => throw .tooDeep
  | fuel + 1, opened, name, properties => do
    let fields ← properties.mapM fun property => do
      let type ← typeOf place fuel opened property.node (name ++ Name.ofText property.name)
      return { name := property.name, type, required := property.required : Field }
    return .dict name fields

/-- The type of a node. Declarations that are hoisted from it have names that start with `base`. -/
def typeOf (place : Place) : Nat → List String → Node → String → Compile TypeExpr
  | 0, _, _, _ => throw .tooDeep
  | fuel + 1, opened, node, base => do
    match node with
    | .unknown _ => return .any
    | .const _ value => return ofConst value
    | .enum _ values => return ofEnum values
    | .combinator _ .allOf branches =>
      match ← merge place fuel opened branches with
      | some properties => hoist place fuel opened properties base
      | none => intersect place fuel opened node.path branches base
    | .combinator _ _ branches =>
      return .unionOf (← typesOf place fuel opened (base ++ "Option") branches)
    | .ref _ target =>
      match (← get).registry.typeName? target with
      | some name => return .name name
      | none =>
        match ← expand place opened target node.path with
        | none => return .any
        | some resolved => typeOf place fuel (target :: opened) resolved base
    | .primitive _ type => return ofPrimitive type
    | .union _ types => return .unionOf (types.filterMap ofTypeName?)
    | .array _ items leading _ =>
      let layout := Layout.of items leading
      if layout.isTuple then
        let elements ← typesOf place fuel opened (base ++ "Item") layout.positions
        match layout.rest? with
        | none => return .tuple elements none
        | some rest =>
          let rest ← typeOf place fuel opened rest (base ++ "Item")
          return if elements.isEmpty then .list rest else .tuple elements (some rest)
      else
        match items with
        | .all item => return .list (← typeOf place fuel opened item (base ++ "Item"))
        | _ => return .list .any
    | .object _ (some properties) _ _ _ => hoist place fuel opened properties base
    | .object _ none _ (.schema additional) _ =>
      return .dict (← typeOf place fuel opened additional (base ++ "Value"))
    | .object _ none _ (.value _) _ => return .dict .any

/-- The types of nodes whose names are numbered from one. -/
def typesOf (place : Place) : Nat → List String → String → List Node → Compile (List TypeExpr)
  | 0, _, _, _ => throw .tooDeep
  | fuel + 1, opened, base, nodes =>
    nodes.zipIdx.mapM fun (node, position) => typeOf place fuel opened node s!"{base}{position + 1}"

/-- The properties that a node declares as an object, if it is one. -/
def propertiesOf (place : Place) : Nat → List String → Node → Compile (Option (List (Property Node)))
  | 0, _, _ => throw .tooDeep
  | fuel + 1, opened, node => do
    match node with
    | .object _ properties _ _ _ => return some (properties.getD [])
    | .combinator _ .allOf branches => merge place fuel opened branches
    | .ref _ target =>
      if opened.contains target then
        throw (.cyclicAllOf target node.path)
      match Schema.nodeAt place.document target with
      | .ok resolved => propertiesOf place fuel (target :: opened) resolved
      | .error (.lookup (.pointer _)) => return none
      | .error (.lookup (.index error)) => throw (.index error)
      | .error (.type error) => throw (.type error)
    | _ => return none

/-- The properties of the object branches of an `allOf`, if there are any. -/
def merge (place : Place) : Nat → List String → List Node → Compile (Option (List (Property Node)))
  | 0, _, _ => throw .tooDeep
  | fuel + 1, opened, branches => do
    let merged ← branches.foldlM
      (fun (merged : Option (Table (Property Node))) branch => do
        match ← propertiesOf place fuel opened branch with
        | none =>
          if !branch.isUnknown then
            note (.nonObjectBranch branch.path)
          return merged
        | some properties =>
          let added := properties.foldl addProperty (merged.getD [])
          return some (requireNames added (ownRequired branch)))
      none
    return merged.map fun merged => merged.map (·.2)

/-- The type of an `allOf` without object branches: the one type that its branches have, if it is
one. -/
def intersect (place : Place) : Nat → List String → String → List Node → String → Compile TypeExpr
  | 0, _, _, _, _ => throw .tooDeep
  | fuel + 1, opened, path, branches, base => do
    let known := branches.zipIdx.filter fun (branch, _) => !branch.isUnknown
    let types ← known.mapM fun (branch, position) =>
      typeOf place fuel opened branch s!"{base}Part{position + 1}"
    match TypeExpr.distinct types with
    | [type] => return type
    | [] => return .any
    | _ =>
      note (.inexpressible path)
      return .any

end

/-- Enough fuel for expansions that come to an end: at most twice for every reference, and once more, a
part of the document is gone through, which takes at most four steps for each of its levels. -/
def fuelFor (document : Json) : Nat :=
  4 * (document.depth + 2) * (2 * (Schema.refs document).length + 2)

/-- The declarations for a pointer: those hoisted, then its own. -/
def ofNode (place : Place) (node : Node) (name : String) : Compile (List TypeDecl) := do
  modify fun progress => { progress with hoisted := [] }
  let declaration ← declare place (fuelFor place.document) [] node name
  return (← get).hoisted ++ [declaration]

end SchemaGuard.TypeDecl
