import SchemaGuard.Check.Run
import SchemaGuard.Module
import SchemaGuard.Source.Lexer
import SchemaGuard.TypeDecl.Printer

/-!
# Running modules

A module is loaded first: its text is read, and its declarations are made one after another. Then a
value is validated by the validator of a pointer, which may call those of all the others. Names are
bound by their normal forms: of several declarations or functions with the same one, the last counts,
and a name that is not in its normal form is not found from outside.

All this is as in version 3.11 of the language with `type` statements added to it, each of which binds
its name to a function without parameters. The stacks of its parser and of its calls are left aside.
-/

namespace SchemaGuard.Module

def validators (module : Module) : List Check.Validator := module.entries.map (·.validator)

def entry? (module : Module) (pointer : String) : Option Entry :=
  module.entries.find? (·.pointer == pointer)

/-! ## What names stand for -/

/-- How a declaration hides a helper of its name. -/
def hidingOf : TypeDecl → Check.Hiding
  | .dict _ _ => .dictType
  | .synonym _ _ => .synonym

/-- What the names that validators use stand for in a module. -/
def names (module : Module) : Check.Names := fun helper =>
  let declarations := module.entries.flatMap (·.declarations)
  let homonyms := declarations.filter fun declaration => Text.normalForm declaration.name == helper.name
  homonyms.getLast?.map hidingOf

/-- What a module binds names to. -/
inductive Binding where
  | type (declaration : TypeDecl)
  | validator (validator : Check.Validator)
  | parser (entry : Entry)

/-- The names that are bound for an entry, in their order. -/
def bindingsOf (entry : Entry) : List (String × Binding) :=
  entry.declarations.map (fun declaration => (declaration.name, .type declaration)) ++
    (entry.validator.name, .validator entry.validator) ::
      if entry.isExported then [(Name.parser entry.validator.typeName, .parser entry)] else []

/-- All names that are bound, in their order. -/
def bindings (module : Module) : List (String × Binding) := module.entries.flatMap bindingsOf

/-- What a name is bound to in the end. -/
def bound? (module : Module) (name : String) : Option Binding :=
  let homonyms := module.bindings.filter fun binding =>
    Text.normalForm binding.1 == Text.normalForm name
  homonyms.getLast?.map Prod.snd

/-- The type that a name is bound to, unless it is bound to a function. -/
def typeNamed? (module : Module) (name : String) : Option TypeDecl :=
  match module.bound? name with
  | some (.type declaration) => some declaration
  | _ => none

/-- The validators that no type hides. -/
def functions (module : Module) : List Check.Validator :=
  module.validators.filter fun validator => (module.typeNamed? validator.name).isNone

/-! ## Loading -/

/-- The name of what dictionary types are based on. -/
def baseName : String := "TypedDict"

/-- Whether nothing can be bound to a name. -/
def isConstant (name : String) : Bool := Text.isKeyword name || Text.normalForm name == "__debug__"

/-- Whether a declaration cannot be read: neither its name nor an attribute of a class may be a
constant, and no type may have more brackets inside each other than are allowed. -/
def isMalformed : TypeDecl → Bool
  | .dict name fields =>
    isConstant name || TypeDecl.isClass fields && fields.any (isConstant ·.name) ||
      fields.any fun field => Source.maxBrackets < field.type.brackets + (!field.required).toNat
  | .synonym name type => isConstant name || Source.maxBrackets < type.brackets

/-- How many brackets are inside each other in what a value is compared with. -/
def constantBrackets : Check.Test → Nat
  | .notConst _ expected => expected.depth
  | .notEnum _ allowed => Json.depthItems allowed + 1
  | _ => 0

/-- The number of loops that may be inside each other in one function. -/
def maxLoops : Nat := 20

mutual

/-- Whether a statement can be read that is inside so many blocks and loops. -/
def fits (blocks loops : Nat) : Check.Stmt → Bool
  | .ifElse test body orelse =>
    constantBrackets test < Source.maxBrackets && fitAll (blocks + 1) loops body &&
      fitAll (if Check.isSingleIf orelse then blocks else blocks + 1) loops orelse
  | .forItems _ _ _ _ body => decide (loops < maxLoops) && fitAll (blocks + 1) (loops + 1) body
  | .forKeys _ _ body => decide (loops < maxLoops) && fitAll (blocks + 1) (loops + 1) body
  | .branch _ body => fitAll (blocks + 1) 0 body
  | .abort inBranch => inBranch || decide (blocks + 1 < Source.maxIndents)
  | _ => true

def fitAll (blocks loops : Nat) : List Check.Stmt → Bool
  | [] => decide (blocks < Source.maxIndents)
  | statement :: statements => fits blocks loops statement && fitAll blocks loops statements

end

/-- Whether the text of a module can be read. -/
def isReadable (module : Module) : Bool :=
  (module.entries.flatMap (·.declarations)).all (!isMalformed ·) &&
    module.validators.all (fitAll 1 0 ·.body)

/-- Makes a declaration, given the type that hides the base of dictionary types, if one does. -/
def declare (base : Option Check.Hiding) : TypeDecl → Except Check.Fault Unit
  | .synonym _ _ => .ok ()
  | .dict _ fields =>
    match base with
    | none => .ok ()
    | some type =>
      if !TypeDecl.isClass fields then .error (type.callFault 2)
      else if type = .synonym then .error .noBase
      else .ok ()

/-- Makes declarations one after another. -/
def declareAll (base : Option Check.Hiding) : List TypeDecl → Except Check.Fault Unit
  | [] => .ok ()
  | declaration :: declarations => do
    declare base declaration
    let hides := Text.normalForm declaration.name == baseName
    declareAll (if hides then some (hidingOf declaration) else base) declarations

/-- Loads a module. -/
def load (module : Module) : Except Check.Fault Unit :=
  if module.isReadable then declareAll none (module.entries.flatMap (·.declarations))
  else .error .malformed

/-! ## Validating -/

/-- Why a value cannot be validated. -/
inductive RunError where
  | noPointer (pointer : String)
  | noFunction (name : String)
  | fault (fault : Check.Fault)
deriving DecidableEq

/-- The entry of a pointer. -/
def entryAt (module : Module) (pointer : String) : Except RunError Entry :=
  match module.entry? pointer with
  | some entry => .ok entry
  | none => .error (.noPointer pointer)

/-- A name as it is looked up from outside. -/
def boundName (name : String) : Except RunError Unit :=
  if Text.normalForm name == name then .ok () else .error (.noFunction name)

/-- What goes wrong in a module: a validator that is not found is one that a type hides, and the type is
called in its place. -/
def explain (module : Module) : Check.Fault → RunError
  | .noValidator name =>
    match module.typeNamed? name with
    | some declaration => .fault ((hidingOf declaration).callFault 2)
    | none => .fault (.noValidator name)
  | fault => .fault fault

/-- Runs the validator of a name. -/
def runValidator (module : Module) (name : String) (abortEarly : Bool) (value : Value) :
    Except RunError Check.Outcome := do
  module.load.mapError .fault
  (Check.validate module.names module.functions abortEarly name value).mapError module.explain

/-- Validates a value against the schema of a pointer. -/
def validate (module : Module) (pointer : String) (abortEarly : Bool) (value : Value) :
    Except RunError Check.Outcome := do
  let entry ← module.entryAt pointer
  boundName entry.validator.name
  module.runValidator entry.validator.name abortEarly value

/-! ## Parsing -/

/-- Why a value is refused. -/
structure Refusal where
  typeName : String
  issues : List Issue

def Refusal.message (refusal : Refusal) : String := Issue.refusal refusal.typeName refusal.issues

/-- What is given back for a value: itself, or a table that a type makes of it. -/
inductive Parsed where
  | value (value : Value)
  | table (table : Check.ValueTable)

/-- Runs the parse function of an entry. A type that hides the validator makes a table, which is no
result. -/
def runParser (module : Module) (entry : Entry) (value : Value) :
    Except RunError (Except Refusal Parsed) := do
  match module.typeNamed? entry.validator.name with
  | some declaration =>
    ((hidingOf declaration).apply value fun _ => do
      let _ ← module.names.isInstance [(.failure, false)]
      throw (.noAttribute "data")).mapError .fault
  | none =>
    let outcome ← module.runValidator entry.validator.name false value
    if ← (module.names.isInstance [(.failure, outcome.isFailure)]).mapError .fault then
      (module.names.call .refusal 2).mapError .fault
      return .error ⟨entry.typeName, outcome.issues⟩
    else
      return .ok (.value value)

/-- Gives a value back if it satisfies the schema of a pointer that was asked for. -/
def parse (module : Module) (pointer : String) (value : Value) :
    Except RunError (Except Refusal Parsed) := do
  let asked ← module.entryAt pointer
  let name := Name.parser asked.typeName
  boundName name
  match module.bound? name with
  | some (.parser entry) => module.runParser entry value
  | some (.type declaration) =>
    ((hidingOf declaration).apply value fun table => .ok (.ok (.table table))).mapError .fault
  | _ => throw (.noFunction name)

end SchemaGuard.Module
