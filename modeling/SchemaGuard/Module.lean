import SchemaGuard.Check.OfNode
import SchemaGuard.Dependencies
import SchemaGuard.TypeDecl.OfNode

/-!
# Modules

A module has an entry for every pointer of a run: the targets and everything they refer to. Names are
given to all pointers first, so that each can be compiled knowing the names of the others.
-/

namespace SchemaGuard

/-- What is generated for one pointer. -/
structure Entry where
  pointer : String
  typeName : String
  isExported : Bool
  declarations : List TypeDecl
  validator : Check.Validator

/-- Why no module can be generated. -/
inductive GenerateError where
  | lookup (error : LookupError)
  | name (error : NameError)
  | type (error : TypeError)
  | emit (error : EmitError)
deriving DecidableEq

def GenerateError.message : GenerateError → String
  | lookup error => error.message
  | name error => error.message
  | type error => error.message
  | emit error => error.message

def GenerateError.ofRegistry : Registry.Error → GenerateError
  | .pointer error => lookup (.pointer error)
  | .name error => name error

/-- A generated module. -/
structure Module where
  entries : List Entry
  /-- Whether a validator matches a text pattern. -/
  needsPatterns : Bool

/-- What compiling the pointers of a run builds up. -/
structure Run where
  registry : Registry
  needsPatterns : Bool
  notices : List Notice

namespace Run

/-- Compiles the types of a pointer. -/
def types (run : Run) (document : Json) (pointer : String) (node : Node) (name : String) :
    Except EmitError (List TypeDecl) × Run :=
  let (result, progress) :=
    (TypeDecl.ofNode ⟨document, pointer⟩ node name).run.run ⟨run.registry, [], run.notices⟩
  (result, { run with registry := progress.registry, notices := progress.notices })

/-- Compiles the validator of a pointer. -/
def validator (run : Run) (document : Json) (node : Node) (name typeName : String) :
    Except EmitError Check.Validator × Run :=
  let (result, progress) :=
    (Check.validatorOf ⟨document, run.registry⟩ node name typeName).run.run
      ⟨0, run.needsPatterns, run.notices⟩
  (result, { run with needsPatterns := progress.needsPatterns, notices := progress.notices })

end Run

namespace Module

abbrev Generate := ExceptT GenerateError (StateM Run)

def note (notice : Notice) : Generate Unit :=
  modify fun run => { run with notices := run.notices ++ [notice] }

def compileTypes (document : Json) (pointer : String) (node : Node) (name : String) :
    Generate (List TypeDecl) := do
  let (result, run) := (← get).types document pointer node name
  set run
  match result with
  | .ok declarations => return declarations
  | .error error => throw (.emit error)

def compileValidator (document : Json) (node : Node) (name typeName : String) :
    Generate Check.Validator := do
  let (result, run) := (← get).validator document node name typeName
  set run
  match result with
  | .ok validator => return validator
  | .error error => throw (.emit error)

/-- The node at a pointer. -/
def nodeOf (document : Json) (pointer : String) : Except GenerateError Node :=
  match Pointer.resolve document pointer with
  | .error error => .error (.lookup error)
  | .ok schema =>
    match Schema.parse pointer schema with
    | .error error => .error (.type error)
    | .ok node => .ok node

/-- Generates the entry of a pointer. -/
def entry (document : Json) (pointer : String) : Generate Entry := do
  let registry := (← get).registry
  match registry.typeName? pointer, registry.validatorName? pointer with
  | some typeName, some validatorName =>
    let node ← nodeOf document pointer
    note (.generating typeName pointer)
    let declarations ← compileTypes document pointer node typeName
    let validator ← compileValidator document node validatorName typeName
    return ⟨pointer, typeName, registry.isExported pointer, declarations, validator⟩
  | _, _ => throw (.emit (.unnamed pointer))

/-- The pointers of a run: the targets and all they refer to. -/
def pointers (document : Json) (targets : List Target) : Generate (List String) := do
  let run ← get
  let (result, notices) := (Dependencies.collect document (targets.map (·.path))).run.run run.notices
  set { run with notices }
  match result with
  | .ok pointers => return pointers
  | .error error => throw (.lookup (.index error))

/-- Generates a module. -/
def generate (document : Json) (schemaPath : String) (targets : List Target) : Generate Module := do
  let pointers ← pointers document targets
  match Registry.resolve pointers targets schemaPath with
  | .error error => throw (.ofRegistry error)
  | .ok registry =>
    modify fun run => { run with registry }
    let entries ← pointers.mapM (entry document)
    return ⟨entries, (← get).needsPatterns⟩

/-- The run that nothing was compiled in. -/
def start : Run := ⟨.empty, false, []⟩

/-- Generates a module for the targets, or for the whole document if there are none. -/
def ofDocument (document : Json) (schemaPath : String) (targets : List Target) :
    Except GenerateError Module × Run :=
  let targets := if targets.isEmpty then [⟨Pointer.root, none⟩] else targets
  (generate document schemaPath targets).run.run start

end Module

end SchemaGuard
