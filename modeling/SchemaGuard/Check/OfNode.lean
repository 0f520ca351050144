import SchemaGuard.Check.Printer
import SchemaGuard.Emit
import SchemaGuard.Name.Registry
import SchemaGuard.Schema.Refs

/-!
# Checks of nodes

The checks that a value at some place must pass to satisfy a node. A reference to a named pointer is
a call of its validator, any other reference is expanded in place.

The checks of a node follow its structure. What to do about a reference is a parameter; expanding
references in place is then a recursion on how many more may be opened, and the number of references
in the document is enough, since none is opened inside itself.
-/

namespace SchemaGuard.Check

/-- What compiling checks builds up. -/
structure Progress where
  /-- The last number given to a local name. -/
  counter : Nat
  /-- Whether a check matches a text pattern. -/
  needsPatterns : Bool
  notices : List Notice

abbrev Compile := ExceptT EmitError (StateM Progress)

def note (notice : Notice) : Compile Unit :=
  modify fun progress => { progress with notices := progress.notices ++ [notice] }

/-- A local name with a new number. -/
def fresh (kind : LocalKind) : Compile Local := do
  let progress ← get
  set { progress with counter := progress.counter + 1 }
  return ⟨kind, progress.counter + 1⟩

/-- Where checks apply: the value looked at, the path to it, and whether they are in a branch. -/
structure Scope where
  operand : Operand
  path : List Step
  inBranch : Bool

namespace Scope

/-- The scope one step further in. -/
def inner (scope : Scope) (operand : Operand) (step : Step) : Scope :=
  { scope with operand, path := scope.path ++ [step] }

/-- Reports an issue at a path, and aborts. -/
def reportAt (scope : Scope) (path : List Step) (code : Code) (expected : String) (received : Received) :
    List Stmt :=
  [.report code path expected received, .abort scope.inBranch]

/-- Reports an issue, and aborts. -/
def report (scope : Scope) (code : Code) (expected : String) (received : Received) : List Stmt :=
  scope.reportAt scope.path code expected received

/-- Reports an issue if a test holds. -/
def reportIf (scope : Scope) (test : Test) (code : Code) (expected : String) (received : Received) : Stmt :=
  .ifElse test (scope.report code expected received) []

end Scope

/-! ## Checks without parts -/

def ofConst (scope : Scope) (value : Json) : List Stmt :=
  [scope.reportIf (.notConst scope.operand value) .invalidValue value.text (.shown scope.operand)]

def ofEnum (scope : Scope) (values : List Json) : List Stmt :=
  let expected := " | ".intercalate (values.map Json.text)
  [scope.reportIf (.notEnum scope.operand values) .invalidValue expected (.shown scope.operand)]

/-- The test for a type name, if it is one. -/
def typeTest? : String → Option TypeTest
  | "string" => some .string
  | "number" => some .number
  | "integer" => some .integer
  | "boolean" => some .boolean
  | "null" => some .null
  | "array" => some .array
  | "object" => some .object
  | _ => none

def ofUnion (scope : Scope) (types : List String) : List Stmt :=
  match types.filterMap typeTest? with
  | [] => []
  | tests =>
    [scope.reportIf (.noType scope.operand tests) .invalidType (" | ".intercalate types)
      (.typeName scope.operand)]

/-- The check of a value's type. What else there is to check is only checked when it passes. -/
def typeCheck (scope : Scope) (test : TypeTest) (typeName : String) (constraints : List Stmt) : List Stmt :=
  [.ifElse (.notType scope.operand test)
    (scope.report .invalidType typeName (.typeName scope.operand)) constraints]

/-- The checks of a least and a greatest count. Only integers and truth values bound a count. -/
def countChecks (scope : Scope) (least most : Option Json) (atLeast atMost : Count → String)
    (counted : Counted) : List Stmt :=
  let received := Received.length counted scope.operand
  (match least.bind Count.ofJson? with
    | some bound =>
      [scope.reportIf (.length scope.operand .lt bound) .tooSmall (atLeast bound) received]
    | none => []) ++
  (match most.bind Count.ofJson? with
    | some bound =>
      [scope.reportIf (.length scope.operand .gt bound) .tooBig (atMost bound) received]
    | none => [])

/-- The check of a pattern. One that cannot be read is noted and skipped. -/
def patternCheck (scope : Scope) (path : String) : Option Json → Compile (List Stmt)
  | none => return []
  | some (.string pattern) =>
    match Pattern.parse pattern with
    | .ok _ => do
      modify fun progress => { progress with needsPatterns := true }
      return [scope.reportIf (.noMatch scope.operand pattern) .invalidString
        s!"string matching pattern /{pattern}/" (.itself scope.operand)]
    | .error .invalid => do
      note (.badPattern (.string pattern) path)
      return []
    | .error error => throw (.pattern error)
  | some pattern => do
    note (.badPattern pattern path)
    return []

def stringChecks (scope : Scope) (path : String) (minLength maxLength pattern : Option Json) :
    Compile (List Stmt) := do
  let counts := countChecks scope minLength maxLength
    (fun bound => s!"string with length >= {bound.text}")
    (fun bound => s!"string with length <= {bound.text}") .characters
  return counts ++ (← patternCheck scope path pattern)

/-- The number under a keyword; truth values are none. -/
def number? : Option Json → Option Number
  | some (.number value) => some value
  | _ => none

def isTrue : Option Json → Bool
  | some (.bool true) => true
  | _ => false

def numberText (value : Number) : String := value.text Json.numberSpelling

/-- The check of one bound of a number. -/
def boundCheck (scope : Scope) (code : Code) (comparison : Comparison) (sign : String) (bound : Number) :
    Stmt :=
  scope.reportIf (.number scope.operand comparison bound) code s!"number {sign} {numberText bound}"
    (.shown scope.operand)

/-- The checks of the bounds of a number: below, then above, the plain bound before the exclusive one.
The plain bound is itself exclusive if the exclusive one is true. -/
def boundChecks (scope : Scope) (bounds : Bounds) : List Stmt :=
  (match number? bounds.minimum with
    | some bound =>
      if isTrue bounds.exclusiveMinimum then [boundCheck scope .tooSmall .le ">" bound]
      else [boundCheck scope .tooSmall .lt ">=" bound]
    | none => []) ++
  (match number? bounds.exclusiveMinimum with
    | some bound => [boundCheck scope .tooSmall .le ">" bound]
    | none => []) ++
  (match number? bounds.maximum with
    | some bound =>
      if isTrue bounds.exclusiveMaximum then [boundCheck scope .tooBig .ge "<" bound]
      else [boundCheck scope .tooBig .gt "<=" bound]
    | none => []) ++
  (match number? bounds.exclusiveMaximum with
    | some bound => [boundCheck scope .tooBig .ge "<" bound]
    | none => [])

def ofPrimitive (scope : Scope) (path : String) : Primitive → Compile (List Stmt)
  | .string minLength maxLength pattern => do
    return typeCheck scope .string "string" (← stringChecks scope path minLength maxLength pattern)
  | .integer bounds =>
    let whole := scope.reportIf (.notInteger scope.operand) .notInteger "integer" (.shown scope.operand)
    return typeCheck scope .number "integer" (whole :: boundChecks scope bounds)
  | .number bounds => return typeCheck scope .number "number" (boundChecks scope bounds)
  | .boolean => return typeCheck scope .boolean "boolean" []
  | .null => return typeCheck scope .null "null" []

/-! ## Checks with parts -/

/-- The checks of how many items there are and whether they differ. -/
def arrayLimitChecks (scope : Scope) (limits : ArrayLimits) : List Stmt :=
  countChecks scope limits.minItems limits.maxItems
    (fun bound => s!"array with at least {bound.text} items")
    (fun bound => s!"array with at most {bound.text} items") .items ++
  (if limits.uniqueItems then
    [scope.reportIf (.notUnique scope.operand) .notUnique "array with unique items"
      (.fixed "array with duplicate items")]
  else
    [])

/-- The check that an array has its fixed positions, and no others if it is closed. -/
def tupleLengthCheck (scope : Scope) (count : Nat) (isClosed : Bool) : List Stmt :=
  let received := Received.length .elements scope.operand
  if isClosed then
    [scope.reportIf (.length scope.operand .ne (.int count)) .invalidType
      s!"tuple with {count} elements" received]
  else if count = 0 then
    []
  else
    [scope.reportIf (.length scope.operand .lt (.int count)) .tooSmall
      s!"tuple with at least {count} elements" received]

def objectLimitChecks (scope : Scope) (limits : ObjectLimits) : List Stmt :=
  countChecks scope limits.minProperties limits.maxProperties
    (fun bound => s!"object with at least {bound.text} properties")
    (fun bound => s!"object with at most {bound.text} properties") .properties

def requiredCheck (scope : Scope) (key : String) : Stmt :=
  scope.reportIf (.missing scope.operand key) .missingKey
    s!"object with required property \"{key}\"" (.fixed s!"object without property \"{key}\"")

/-- Checks that only apply under a condition; none need no condition. -/
def guarded (test : Test) (checks : List Stmt) : List Stmt :=
  if checks.isEmpty then [] else [.ifElse test checks []]

/-- The check of the branches of a `oneOf` or `anyOf`, which have been defined. -/
def branchCheck (scope : Scope) (kind : Combinator) (branches : List Local) : Compile (List Stmt) := do
  match kind with
  | .oneOf =>
    let matchCount ← fresh .matchCount
    return [.countMatches matchCount branches,
      scope.reportIf (.notOneMatch matchCount) .invalidType "value matching exactly one schema"
        (.matchCount matchCount)]
  | _ =>
    return [scope.reportIf (.noBranch branches) .invalidType "value matching at least one schema"
      (.fixed "value matching no schemas")]

/-- What to do about a reference to a target, at a path of the document. -/
abbrev OnRef := (target path : String) → Scope → Compile (List Stmt)

/-- A loop over items, in which the checks of an item are compiled. -/
def itemsLoop (scope : Scope) (start : Option Nat) (checks : Scope → Compile (List Stmt)) :
    Compile (List Stmt) := do
  let index ← fresh .index
  let item ← fresh .item
  let body ← checks (scope.inner (.item item) (.bound index))
  return if body.isEmpty then [] else [.forItems index item scope.operand start body]

/-- A loop over the keys that are not declared, in which the checks of a member are compiled. -/
def keysLoop (scope : Scope) (known : List String) (checks : Local → Scope → Compile (List Stmt)) :
    Compile (List Stmt) := do
  let key ← fresh .key
  let body ← checks key (scope.inner (.memberAt scope.operand key) (.bound key))
  if body.isEmpty then
    return []
  let body := if known.isEmpty then body else [.ifElse (.unknownKey key known) body []]
  return [.forKeys key scope.operand body]

/-- Reports a key that is not declared. -/
def unrecognized (scope : Scope) (known : List String) (key : Local) (inner : Scope) : List Stmt :=
  scope.reportAt inner.path .unrecognizedKey
    ("one of known properties (" ++ ", ".intercalate known ++ ")") (.key key)

mutual

/-- The checks of a node. -/
def ofNode (onRef : OnRef) : Node → Scope → Compile (List Stmt)
  | .unknown _, _ => return []
  | .const _ value, scope => return ofConst scope value
  | .enum _ values, scope => return ofEnum scope values
  | .combinator origin kind branches, scope => do
    if kind = .allOf then
      note (.unchecked origin.path)
      return []
    if branches.isEmpty then
      note (.noBranches kind origin.path)
      return []
    let defined ← ofBranches onRef branches { scope with inBranch := true }
    let check ← branchCheck scope kind (defined.map (·.1))
    return defined.map (fun (name, body) => .branch name body) ++ check
  | .ref origin target, scope => onRef target origin.path scope
  | .primitive origin type, scope => ofPrimitive scope origin.path type
  | .union _ types, scope => return ofUnion scope types
  | .array _ items leading limits, scope => do
    let parts ←
      match leading, items with
      | some nodes, .all rest => do
        let positions ← ofPositions onRef nodes 0 scope
        let loop ← itemsLoop scope (some nodes.length) (ofNode onRef rest)
        pure (tupleLengthCheck scope nodes.length false ++ positions ++ loop)
      | some nodes, _ => do
        let positions ← ofPositions onRef nodes 0 scope
        pure (tupleLengthCheck scope nodes.length true ++ positions)
      | none, .each nodes => do
        let positions ← ofPositions onRef nodes 0 scope
        pure (tupleLengthCheck scope nodes.length true ++ positions)
      | none, .all node => itemsLoop scope none (ofNode onRef node)
      | none, .absent => pure []
    return typeCheck scope .array "array" (parts ++ arrayLimitChecks scope limits)
  | .object _ properties required additional limits, scope => do
    let declared ←
      match properties with
      | some properties => ofProperties onRef properties scope
      | none => pure []
    let known := (properties.getD []).map (·.name)
    let others ←
      match additional with
      | .schema node => keysLoop scope known fun _ inner => ofNode onRef node inner
      | .value (some (.bool false)) =>
        if properties.isNone then pure []
        else keysLoop scope known fun key inner => return unrecognized scope known key inner
      | .value _ => pure []
    return typeCheck scope .object "object"
      (objectLimitChecks scope limits ++ required.map (requiredCheck scope) ++ declared ++ others)

/-- The checks of branches, with the names they get. -/
def ofBranches (onRef : OnRef) : List Node → Scope → Compile (List (Local × List Stmt))
  | [], _ => return []
  | node :: nodes, scope => do
    let name ← fresh .branch
    let body ← ofNode onRef node scope
    return (name, body) :: (← ofBranches onRef nodes scope)

/-- The checks of fixed positions; an item is only checked if it is there. -/
def ofPositions (onRef : OnRef) : List Node → Nat → Scope → Compile (List Stmt)
  | [], _, _ => return []
  | node :: nodes, position, scope => do
    let checks ← ofNode onRef node (scope.inner (.position scope.operand position) (.index position))
    let others ← ofPositions onRef nodes (position + 1) scope
    return guarded (.length scope.operand .gt (.int position)) checks ++ others

/-- The checks of declared members; a member is only checked if it is there. -/
def ofProperties (onRef : OnRef) : List (Property Node) → Scope → Compile (List Stmt)
  | [], _ => return []
  | ⟨name, _, node⟩ :: properties, scope => do
    let checks ← ofNode onRef node (scope.inner (.member scope.operand name) (.key name))
    let others ← ofProperties onRef properties scope
    return guarded (.present scope.operand name) checks ++ others

end

/-- Calls a validator and takes over its issues. -/
def callValidator (validator : String) (scope : Scope) : Compile (List Stmt) := do
  let result ← fresh .result
  return [
    .call result validator scope.operand,
    .ifElse (.failed result) [.takeOver result scope.path, .abort scope.inBranch] []]

/-- The document and the names of a run. -/
structure Place where
  document : Json
  registry : Registry

/-- Calls the validator of a reference, or expands it; `fuel` more references may be opened. -/
def ofRef (place : Place) : Nat → List String → OnRef
  | 0, _ => fun _ _ _ => throw .tooDeep
  | fuel + 1, opened => fun target path scope => do
    match place.registry.validatorName? target with
    | some validator => callValidator validator scope
    | none =>
      let resolution := Emit.resolve .validators place.document opened target path
      resolution.notices.forM note
      match resolution.outcome with
      | .error error => throw error
      | .ok none => return []
      | .ok (some node) => ofNode (ofRef place fuel (target :: opened)) node scope

/-- The number of references that can be open at once, and one more to refuse the next. -/
def fuelFor (document : Json) : Nat := (Schema.refs document).length + 2

/-- The validator of a pointer. -/
def validatorOf (place : Place) (node : Node) (name typeName : String) : Compile Validator := do
  modify fun progress => { progress with counter := 0 }
  let body ← ofNode (ofRef place (fuelFor place.document) []) node ⟨.value, [], false⟩
  return ⟨name, typeName, body⟩

end SchemaGuard.Check
