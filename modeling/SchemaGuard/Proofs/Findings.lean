import SchemaGuard.Proofs.Meaning

/-!
# Findings

What the checks of a node find out about a value: the reports they would make, one after another,
and the fault that ends them, if one does. A report is a list of issues, since a call that fails
hands over all of its issues at once.

`findings` gives the findings of a node by its structure. No statement, name or frame occurs in it,
so it is the middle between checks that run and values that satisfy nodes: running checks amounts to
acting on their findings, and findings decide whether a value satisfies a node.
-/

namespace SchemaGuard.Check

/-- Reports, and what ends them early. -/
structure Findings where
  reports : List (List Issue)
  fault : Option Fault

namespace Findings

/-- Nothing to report. -/
def clear : Findings := ⟨[], none⟩

def report (issue : Issue) : Findings := ⟨[[issue]], none⟩

/-- A report under a condition. -/
def when (condition : Bool) (issue : Issue) : Findings := if condition then report issue else clear

def broken (fault : Fault) : Findings := ⟨[], some fault⟩

/-- Findings of one part and then of another, which is not looked at after a fault. -/
def andThen (first second : Findings) : Findings :=
  match first.fault with
  | some _ => first
  | none => ⟨first.reports ++ second.reports, second.fault⟩

/-- Findings of several parts, one after another. -/
def all : List Findings → Findings
  | [] => clear
  | first :: others => first.andThen (all others)

/-- Findings as seen from further out. -/
def under (path : List PathToken) (findings : Findings) : Findings :=
  { findings with reports := findings.reports.map (·.map (·.under path)) }

/-- The findings that a call of a validator hands over. -/
def ofCall : Except Fault Outcome → Findings
  | .error fault => broken fault
  | .ok (.success _) => clear
  | .ok (.failure issues) => ⟨[issues], none⟩

/-- Whether a value passes, for someone who stops at the first report. -/
def verdict (findings : Findings) : Except Fault Bool :=
  match findings.reports, findings.fault with
  | _ :: _, _ => .ok false
  | [], some fault => .error fault
  | [], none => .ok true

/-- What a validator returns on its findings. -/
def outcome (stopping : Bool) (value : Value) (findings : Findings) : Except Fault Outcome :=
  match stopping, findings.reports with
  | true, first :: _ => .ok (.failure first)
  | _, reports =>
    match findings.fault with
    | some fault => .error fault
    | none => .ok (if reports.flatten.isEmpty then .success value else .failure reports.flatten)

end Findings

/-- The issue that a check reports about the value it looks at. -/
def issueOf (code : Code) (expected received : String) :
    Issue := .report code.name [] expected received

/-! ## Parts of values -/

/-- The items of an array; other values have none. -/
def elementsOf (value : Value) : List Value := value.elements?.getD []

/-- The members of an object; other values have none. -/
def membersIn (value : Value) : List (String × Value) := value.members?.getD []

/-- The text of a string. -/
def textOf : Value → String
  | .string text => text
  | _ => ""

/-- The number that a value is. -/
def numeralOf : Value → Number
  | .number number => number
  | _ => .int 0

/-- Whether a value is of a type. -/
def TypeTest.holds (value : Value) : TypeTest → Bool
  | string => isString value
  | number => value.isNumber
  | integer => value.isInteger
  | boolean => isBool value
  | null => isNull value
  | array => isList value || isTuple value
  | object => isDict value

/-! ## Findings without parts -/

open Findings

def constFindings (expected : Json) (value : Value) : Findings :=
  when (!value.same (.ofJson expected)) (issueOf .invalidValue expected.text value.describe)

def enumFindings (allowed : List Json) (value : Value) : Findings :=
  when (!value.isOneOf (Value.ofItems allowed))
    (issueOf .invalidValue (" | ".intercalate (allowed.map Json.text)) value.describe)

def unionFindings (types : List String) (value : Value) : Findings :=
  match types.filterMap typeTest? with
  | [] => clear
  | tests => when (!tests.any (·.holds value))
      (issueOf .invalidType (" | ".intercalate types) value.typeName)

/-- The findings of a type; what else there is to find is only looked for in values of the type. -/
def typeFindings (test : TypeTest) (typeName : String) (constraints : Value → Findings)
    (value : Value) : Findings :=
  if test.holds value then constraints value
    else report (issueOf .invalidType typeName value.typeName)

/-- The findings about one bound on a count. -/
def boundFindings (comparison : Comparison) (code : Code) (expected : Count → String)
    (counted : Counted) (bound : Option Json) (count : Nat) : Findings :=
  match bound.bind Count.ofJson? with
  | some bound => when (comparison.ofNumbers (.int count) (.int bound.toInt))
      (issueOf code (expected bound) (between counted.affixes (toString count)))
  | none => clear

/-- The findings about a least and a greatest count. -/
def countFindings (least most : Option Json) (atLeast atMost : Count → String) (counted : Counted)
    (count : Nat) : Findings :=
  (boundFindings .lt .tooSmall atLeast counted least count).andThen
    (boundFindings .gt .tooBig atMost counted most count)

def patternFindings (pattern : Option Json) (text : String) : Findings :=
  match pattern with
  | some (.string source) =>
    match Pattern.parse source with
    | .ok expr => when (!expr.matchesSomewhere text)
        (issueOf .invalidString s!"string matching pattern /{source}/" text)
    | .error _ => clear
  | _ => clear

def stringFindings (minLength maxLength pattern : Option Json) (value : Value) : Findings :=
  (countFindings minLength maxLength (fun bound => s!"string with length >= {bound.text}")
    (fun bound => s!"string with length <= {bound.text}") .characters (textOf value).length).andThen
  (patternFindings pattern (textOf value))

/-- The findings about one bound of a number. -/
def limitFindings (code : Code) (comparison : Comparison) (sign : String) (bound : Number)
    (value : Value) : Findings :=
  when (comparison.ofNumbers (numeralOf value) bound)
    (issueOf code s!"number {sign} {numberText bound}" value.describe)

/-- The findings about the bounds of a number. -/
def boundsFindings (bounds : Bounds) (value : Value) : Findings :=
  (((match number? bounds.minimum with
    | some bound =>
      if isTrue bounds.exclusiveMinimum then limitFindings .tooSmall .le ">" bound value
      else limitFindings .tooSmall .lt ">=" bound value
    | none => clear).andThen
  (match number? bounds.exclusiveMinimum with
    | some bound => limitFindings .tooSmall .le ">" bound value
    | none => clear)).andThen
  (match number? bounds.maximum with
    | some bound =>
      if isTrue bounds.exclusiveMaximum then limitFindings .tooBig .ge "<" bound value
      else limitFindings .tooBig .gt "<=" bound value
    | none => clear)).andThen
  (match number? bounds.exclusiveMaximum with
    | some bound => limitFindings .tooBig .ge "<" bound value
    | none => clear)

def wholeFindings (value : Value) : Findings :=
  when (!value.isInteger) (issueOf .notInteger "integer" value.describe)

def primitiveFindings : Primitive → Value → Findings
  | .string minLength maxLength pattern =>
    typeFindings .string "string" (stringFindings minLength maxLength pattern)
  | .integer bounds =>
    typeFindings .number "integer" fun value =>
      (wholeFindings value).andThen (boundsFindings bounds value)
  | .number bounds => typeFindings .number "number" (boundsFindings bounds)
  | .boolean => typeFindings .boolean "boolean" fun _ => clear
  | .null => typeFindings .null "null" fun _ => clear

/-! ## Findings with parts -/

def uniqueFindings (limits : ArrayLimits) (value : Value) : Findings :=
  if limits.uniqueItems then
    when (Value.countUnique (elementsOf value) != (elementsOf value).length)
      (issueOf .notUnique "array with unique items" "array with duplicate items")
  else
    clear

def arrayLimitFindings (limits : ArrayLimits) (value : Value) : Findings :=
  (countFindings limits.minItems limits.maxItems
    (fun bound => s!"array with at least {bound.text} items")
    (fun bound => s!"array with at most {bound.text} items") .items
      (elementsOf value).length).andThen
  (uniqueFindings limits value)

/-- The findings about how many items there are for fixed positions. -/
def tupleLengthFindings (count : Nat) (isClosed : Bool) (value : Value) : Findings :=
  let received := between Counted.elements.affixes (toString (elementsOf value).length)
  if isClosed then
    when (Comparison.ne.ofNumbers (.int (elementsOf value).length) (.int count))
      (issueOf .invalidType s!"tuple with {count} elements" received)
  else if count = 0 then
    clear
  else
    when (Comparison.lt.ofNumbers (.int (elementsOf value).length) (.int count))
      (issueOf .tooSmall s!"tuple with at least {count} elements" received)

def objectLimitFindings (limits : ObjectLimits) (value : Value) : Findings :=
  countFindings limits.minProperties limits.maxProperties
    (fun bound => s!"object with at least {bound.text} properties")
    (fun bound => s!"object with at most {bound.text} properties") .properties
      (membersIn value).length

def requiredFindings (key : String) (value : Value) : Findings :=
  when (!Table.has (membersIn value) key) (issueOf .missingKey
    s!"object with required property \"{key}\"" s!"object without property \"{key}\"")

/-- The findings about the items from a position on. -/
def itemsFindings (start : Option Nat) (each : Value → Findings) (value : Value) : Findings :=
  all ((enumerated (elementsOf value) start).map fun (item, position) =>
    (each item).under [.index position])

/-- The findings about the item at a position, if it is there. -/
def positionFindings (position : Nat) (each : Value → Findings) (value : Value) : Findings :=
  match (elementsOf value)[position]? with
  | some item => (each item).under [.index position]
  | none => clear

/-- The findings about a member, if it is there. -/
def memberFindings (name : String) (each : Value → Findings) (value : Value) : Findings :=
  match Table.get? (membersIn value) name with
  | some member => (each member).under [.key name]
  | none => clear

/-- The findings about the members that are not declared. -/
def othersFindings (known : List String) (each : String → Value → Findings) (value : Value) :
    Findings :=
  all ((Table.keys (membersIn value)).map fun name =>
    if known.contains name then clear
    else
      match Table.get? (membersIn value) name with
      | some member => (each name member).under [.key name]
      | none => clear)

/-- The findings about a key that is not declared. -/
def unrecognizedFindings (known : List String) (name : String) : Findings :=
  report (issueOf .unrecognizedKey ("one of known properties (" ++ ", ".intercalate known ++ ")")
    name)

/-- Whether one of some branches passes; those after the first that does are not called. -/
def anyVerdict : List (Except Fault Bool) → Except Fault Bool
  | [] => .ok false
  | verdict :: verdicts => do if ← verdict then return true else anyVerdict verdicts

/-- The findings about branches, given what each of them says. -/
def branchFindings (kind : Combinator) (verdicts : List (Except Fault Bool)) : Findings :=
  match kind with
  | .oneOf =>
    match verdicts.mapM id with
    | .error fault => broken fault
    | .ok passed => when (passed.count true != 1) (issueOf .invalidType
        "value matching exactly one schema" (between matchAffixes (toString (passed.count true))))
  | _ =>
    match anyVerdict verdicts with
    | .error fault => broken fault
    | .ok passes => when (!passes)
        (issueOf .invalidType "value matching at least one schema" "value matching no schemas")

mutual

/-- **The findings of a node about a value**, given those of references. -/
def findings (refs : String → Value → Findings) : Node → Value → Findings
  | .unknown _, _ => clear
  | .const _ expected, value => constFindings expected value
  | .enum _ allowed, value => enumFindings allowed value
  | .combinator _ kind branches, value =>
    if kind = .allOf || branches.isEmpty then clear
    else branchFindings kind (verdictsOf refs branches value)
  | .ref _ target, value => refs target value
  | .primitive _ type, value => primitiveFindings type value
  | .union _ types, value => unionFindings types value
  | .array _ items leading limits, value =>
    typeFindings .array "array" (fun value =>
      (match leading, items with
        | some nodes, .all rest =>
          ((tupleLengthFindings nodes.length false value).andThen
            (eachFindings refs nodes 0 value)).andThen
            (itemsFindings (some nodes.length) (findings refs rest) value)
        | some nodes, _ =>
          (tupleLengthFindings nodes.length true value).andThen (eachFindings refs nodes 0 value)
        | none, .each nodes =>
          (tupleLengthFindings nodes.length true value).andThen (eachFindings refs nodes 0 value)
        | none, .all node => itemsFindings none (findings refs node) value
        | none, .absent => clear).andThen
      (arrayLimitFindings limits value)) value
  | .object _ properties required additional limits, value =>
    typeFindings .object "object" (fun value =>
      (((objectLimitFindings limits value).andThen
        (all (required.map fun key => requiredFindings key value))).andThen
      (match properties with
        | some properties => declaredFindings refs properties value
        | none => clear)).andThen
      (match additional with
        | .schema node =>
          othersFindings ((properties.getD []).map (·.name)) (fun _ => findings refs node) value
        | .value (some (.bool false)) =>
          if properties.isNone then clear
          else othersFindings ((properties.getD []).map (·.name))
            (fun name _ => unrecognizedFindings ((properties.getD []).map (·.name)) name) value
        | .value _ => clear)) value

/-- What each of some branches says about a value. -/
def verdictsOf (refs : String → Value → Findings) : List Node → Value → List (Except Fault Bool)
  | [], _ => []
  | node :: nodes, value => (findings refs node value).verdict :: verdictsOf refs nodes value

/-- The findings about fixed positions. -/
def eachFindings (refs : String → Value → Findings) : List Node → Nat → Value → Findings
  | [], _, _ => clear
  | node :: nodes, position, value =>
    (positionFindings position (findings refs node) value).andThen
      (eachFindings refs nodes (position + 1) value)

/-- The findings about declared members. -/
def declaredFindings (refs : String → Value → Findings) : List (Property Node) → Value → Findings
  | [], _ => clear
  | ⟨name, _, node⟩ :: properties, value =>
    (memberFindings name (findings refs node) value).andThen
    (declaredFindings refs properties value)

end

/-! ### The parts of arrays and objects, by name -/

section Parts

variable (refs : String → Value → Findings)

/-- The findings about the items of an array. -/
def layoutFindings (items : Items Node) (leading : Option (List Node)) (value : Value) : Findings :=
  match leading, items with
  | some nodes, .all rest =>
    ((tupleLengthFindings nodes.length false value).andThen
      (eachFindings refs nodes 0 value)).andThen
      (itemsFindings (some nodes.length) (findings refs rest) value)
  | some nodes, _ =>
    (tupleLengthFindings nodes.length true value).andThen (eachFindings refs nodes 0 value)
  | none, .each nodes =>
    (tupleLengthFindings nodes.length true value).andThen (eachFindings refs nodes 0 value)
  | none, .all node => itemsFindings none (findings refs node) value
  | none, .absent => clear

/-- The findings about the declared members of an object. -/
def propertiesFindings (properties : Option (List (Property Node))) (value : Value) : Findings :=
  match properties with
  | some properties => declaredFindings refs properties value
  | none => clear

/-- The findings about the members of an object that are not declared. -/
def additionalFindings (properties : Option (List (Property Node))) (additional : Additional Node)
    (value : Value) : Findings :=
  match additional with
  | .schema node =>
    othersFindings ((properties.getD []).map (·.name)) (fun _ => findings refs node) value
  | .value (some (.bool false)) =>
    if properties.isNone then clear
    else othersFindings ((properties.getD []).map (·.name))
      (fun name _ => unrecognizedFindings ((properties.getD []).map (·.name)) name) value
  | .value _ => clear

theorem additionalFindings_open {properties : Option (List (Property Node))} {raw : Option Json}
    (h : raw ≠ some (.bool false)) (value : Value) :
    additionalFindings refs properties (.value raw) value = clear := by
  unfold additionalFindings
  split
  · rename_i heq
    cases heq
  · rename_i heq
    exact (h (Additional.value.inj heq)).elim
  · rfl

theorem findings_array (origin : Origin) (items : Items Node) (leading : Option (List Node))
    (limits : ArrayLimits) :
    findings refs (.array origin items leading limits) = typeFindings .array "array" fun value =>
      (layoutFindings refs items leading value).andThen (arrayLimitFindings limits value) := by
  funext value
  rw [findings]
  cases leading <;> cases items <;> rfl

theorem findings_object (origin : Origin) (properties : Option (List (Property Node)))
    (required : List String) (additional : Additional Node) (limits : ObjectLimits) :
    findings refs (.object origin properties required additional limits) =
      typeFindings .object "object" fun value =>
        (((objectLimitFindings limits value).andThen
          (all (required.map fun key => requiredFindings key value))).andThen
          (propertiesFindings refs properties value)).andThen
          (additionalFindings refs properties additional value) := by
  funext value
  simp only [findings, propertiesFindings, additionalFindings]

end Parts

end SchemaGuard.Check
