import SchemaGuard.Name.Derive
import SchemaGuard.Target

/-!
# The registry of names

The names of a generated module share one space: types, validators, parse functions and the names
that the module itself imports or uses. The registry keeps who owns which name. A name is claimed for
an owner, which fails if the name is reserved or someone else's, or it is made unique by a number.

`resolve` names every pointer of a run: first all types, then their functions.
-/

namespace SchemaGuard

/-- What a module imports to write types with. -/
def typingImports : List String := ["Any", "Literal", "NotRequired", "TypedDict", "cast"]

/-- What a module imports to validate with. -/
def runtimeImports : List String := [
  "ValidationError", "ValidationFailure", "ValidationIssue", "ValidationOptions",
  "ValidationResult", "ValidationSuccess", "add_issue", "count_unique", "get_type", "is_integer",
  "is_number", "is_one_of", "json_equals", "stringify"]

/-- The variables of the functions of a module. -/
def functionLocals : List String := ["value", "options", "issues", "abort_early", "result"]

/-- The names that no generated type or function may have. -/
def reservedNames : List String :=
  typingImports ++ runtimeImports ++ functionLocals ++ ["re", "annotations"]

/-- Why names cannot be assigned. -/
inductive NameError where
  | reserved (name owner : String)
  | taken (name existing owner : String)
  | typeTaken (name existing pointer : String)
deriving DecidableEq

def NameError.hint : String :=
  "Please specify unique names using --target format \"path=<pointer>,name=<Name>\"."

def NameError.message : NameError → String
  | reserved name owner =>
    s!"Name \"{name}\" derived for \"{owner}\" is reserved by the generated module. {hint}"
  | taken name existing owner =>
    s!"Name collision: \"{name}\" is used by both \"{existing}\" and \"{owner}\". {hint}"
  | typeTaken name existing pointer =>
    s!"Type name collision: \"{name}\" is used by both \"{existing}\" and \"{pointer}\". {hint}"

/-- The names of a run. -/
structure Registry where
  /-- The type of each pointer. -/
  types : Table String
  /-- The pointer of each type. -/
  names : Table String
  /-- The validator of each pointer. -/
  validators : Table String
  /-- The pointers that were asked for. -/
  exported : List String
  /-- The owner of each name. -/
  used : Table String

namespace Registry

def empty : Registry := ⟨[], [], [], [], []⟩

def typeName? (registry : Registry) (pointer : String) : Option String := registry.types.get? pointer

def validatorName? (registry : Registry) (pointer : String) : Option String :=
  registry.validators.get? pointer

def isExported (registry : Registry) (pointer : String) : Bool := registry.exported.contains pointer

def isReserved (name : String) : Bool := reservedNames.contains name

/-- Claims a name for an owner, who may hold it already. -/
def claim (registry : Registry) (name owner : String) : Except NameError Registry :=
  if isReserved name || name.toList.head? == some '_' then
    .error (.reserved name owner)
  else
    let claimed := { registry with used := registry.used.put name owner }
    match registry.used.get? name with
    | none => .ok claimed
    | some existing => if existing == owner then .ok claimed else .error (.taken name existing owner)

/-- The names tried for a base: the base, then the base with 2, 3, …. -/
def candidate (base : String) : Nat → String
  | 0 => base
  | n + 1 => base ++ toString (n + 2)

def isFree (registry : Registry) (name : String) : Bool :=
  !registry.used.has name && !isReserved name

/-- The first free name for a base. One more candidate than there are names is enough. -/
def freeName (registry : Registry) (base : String) : String :=
  let tries := List.range (registry.used.length + reservedNames.length + 1)
  ((tries.map (candidate base)).find? registry.isFree).getD base

/-- Claims the first free name for a base. -/
def claimUnique (registry : Registry) (base owner : String) : String × Registry :=
  let name := registry.freeName base
  (name, { registry with used := registry.used.put name owner })

/-! ## Naming a run -/

/-- Why the pointers of a run cannot be named. -/
inductive Error where
  | pointer (error : PointerError)
  | name (error : NameError)
deriving DecidableEq

def Error.message : Error → String
  | pointer error => error.message
  | name error => error.message

/-- The name given to a pointer by the last target that names it. -/
def explicitName? (targets : List Target) (pointer : String) : Option String :=
  targets.reverse.findSome? fun target =>
    match target.name with
    | some name => if target.path == pointer && !name.isEmpty then some name else none
    | none => none

/-- The type name of a pointer: given, made from the schema's file name for the root, or made from
the last segment. -/
def nameFor (targets : List Target) (schemaPath pointer : String) : Except PointerError String :=
  match explicitName? targets pointer with
  | some name => .ok name
  | none => if pointer == Pointer.root then .ok (Name.ofSchemaPath schemaPath) else Name.ofPointer pointer

/-- Names the type of a pointer. -/
def addType (targets : List Target) (schemaPath : String) (registry : Registry) (pointer : String) :
    Except Error Registry :=
  match nameFor targets schemaPath pointer with
  | .error error => .error (.pointer error)
  | .ok name =>
    match (registry.names.get? name).filter (· != pointer) with
    | some existing => .error (.name (.typeTaken name existing pointer))
    | none =>
      match registry.claim name pointer with
      | .error error => .error (.name error)
      | .ok registry =>
        .ok { registry with
          names := registry.names.put name pointer
          types := registry.types.put pointer name }

/-- Names the functions of a pointer whose type is named. -/
def addFunctions (registry : Registry) (entry : String × String) : Except Error Registry :=
  let (pointer, typeName) := entry
  match registry.claim (Name.validator typeName) pointer with
  | .error error => .error (.name error)
  | .ok registry =>
    let registry :=
      { registry with validators := registry.validators.put pointer (Name.validator typeName) }
    if registry.isExported pointer then
      match registry.claim (Name.parser typeName) pointer with
      | .error error => .error (.name error)
      | .ok registry => .ok registry
    else
      .ok registry

/-- Names the pointers of a run. -/
def resolve (pointers : List String) (targets : List Target) (schemaPath : String) :
    Except Error Registry := do
  let start := { empty with exported := (targets.map (·.path)).eraseDups }
  let typed ← pointers.foldlM (addType targets schemaPath) start
  typed.types.foldlM addFunctions typed

end Registry

end SchemaGuard
