import SchemaGuard.Check
import SchemaGuard.Literal
import SchemaGuard.Name.Derive

/-!
# The text of validators

Statements are printed as lines, a block indented by four blanks. An `else` that holds a single `if`
is an `elif`, and a nested function has a blank line before it.
-/

namespace SchemaGuard.Check

def LocalKind.stem : LocalKind → String
  | result => "ref"
  | branch => "branch"
  | matchCount => "matches"
  | index => "i"
  | item => "item"
  | key => "key"

def Local.text (name : Local) : String := s!"_{name.kind.stem}{name.number}"

def Operand.text : Operand → String
  | value => "value"
  | item name => name.text
  | position operand index => s!"{operand.text}[{index}]"
  | member operand key => operand.text ++ "[" ++ Text.quoted key ++ "]"
  | memberAt operand key => s!"{operand.text}[{key.text}]"

def Step.text : Step → String
  | key name => Text.quoted name
  | index position => toString position
  | bound name => name.text

def pathText (path : List Step) : String := "[" ++ ", ".intercalate (path.map Step.text) ++ "]"

/-- The test that an operand is of a type. -/
def TypeTest.text (operand : String) : TypeTest → String
  | string => s!"isinstance({operand}, str)"
  | number => s!"is_number({operand})"
  | integer => s!"is_integer({operand})"
  | boolean => s!"isinstance({operand}, bool)"
  | null => s!"{operand} is None"
  | array => s!"isinstance({operand}, (list, tuple))"
  | object => s!"isinstance({operand}, dict)"

/-- The test that an operand is not of a type. -/
def TypeTest.negatedText (operand : String) : TypeTest → String
  | null => s!"{operand} is not None"
  | type => "not " ++ type.text operand

def Comparison.text : Comparison → String
  | lt => "<"
  | le => "<="
  | gt => ">"
  | ge => ">="
  | ne => "!="

def Count.text : Count → String
  | int value => toString value
  | flag value => Literal.ofBool value

/-- Alternatives; several are grouped. -/
def anyOf : List String → String
  | [test] => test
  | tests => "(" ++ " or ".intercalate tests ++ ")"

/-- Constants in parentheses; a single one keeps its comma. -/
def tupleText : List String → String
  | [entry] => "(" ++ entry ++ ",)"
  | texts => "(" ++ ", ".intercalate texts ++ ")"

def Test.text : Test → String
  | notConst operand expected => s!"not json_equals({operand.text}, {Literal.ofJson expected})"
  | notEnum operand allowed => s!"not is_one_of({operand.text}, {Literal.ofJson (.array allowed)})"
  | notType operand type => type.negatedText operand.text
  | noType operand types => "not " ++ anyOf (types.map fun type => type.text operand.text)
  | notInteger operand => s!"not is_integer({operand.text})"
  | length operand comparison bound => s!"len({operand.text}) {comparison.text} {bound.text}"
  | number operand comparison bound => s!"{operand.text} {comparison.text} {Literal.ofNumber bound}"
  | noMatch operand pattern => s!"re.search({Text.quoted pattern}, {operand.text}) is None"
  | notUnique operand => s!"count_unique({operand.text}) != len({operand.text})"
  | missing operand key => s!"{Text.quoted key} not in {operand.text}"
  | present operand key => s!"{Text.quoted key} in {operand.text}"
  | unknownKey key known => s!"{key.text} not in {tupleText (known.map Text.quoted)}"
  | notOneMatch matchCount => s!"{matchCount.text} != 1"
  | noBranch branches => "not " ++ anyOf (branches.map fun branch => branch.text ++ "()")
  | failed result => s!"isinstance({result.text}, ValidationFailure)"

/-- What is before and after the count in a description. -/
def Counted.affixes : Counted → String × String
  | characters => ("string with length ", "")
  | items => ("array with ", " items")
  | elements => ("array with ", " elements")
  | properties => ("object with ", " properties")

/-- A description with a number in it, as an expression. -/
def formatText (affixes : String × String) (number : String) : String :=
  Text.quoted (affixes.1 ++ "\x7b\x7d" ++ affixes.2) ++ ".format(" ++ number ++ ")"

/-- What is before and after the number of branches that passed. -/
def matchAffixes : String × String := ("value matching ", " schemas")

def Received.text : Received → String
  | typeName operand => s!"get_type({operand.text})"
  | shown operand => s!"stringify({operand.text})"
  | itself operand => operand.text
  | length counted operand => formatText counted.affixes s!"len({operand.text})"
  | fixed text => Text.quoted text
  | key name => s!"str({name.text})"
  | matchCount name => formatText matchAffixes name.text

/-- Indents the lines of a block. -/
def indent (lines : List String) : List String :=
  lines.map fun line => if line.isEmpty then line else "    " ++ line

/-- What is gone through in a loop over items. -/
def enumerateText (operand : Operand) : Option Nat → String
  | none => s!"enumerate({operand.text})"
  | some start => s!"enumerate({operand.text}[{start}:], start={start})"

/-- The issues of a failed call, as an argument. -/
def issuesText (result : Local) (path : List Step) : String :=
  if path.isEmpty then s!"{result.text}.issues"
  else s!"(issue.with_prefix({pathText path}) for issue in {result.text}.issues)"

def declareIssues : String := "issues: list[ValidationIssue] = []"

/-- Whether a block is a single `if`. -/
def isSingleIf : List Stmt → Bool
  | [.ifElse _ _ _] => true
  | _ => false

/-- Joins an `else` block, printed as lines, to an `if`. -/
def elseLines (orelse : List Stmt) (printed : List String) : List String :=
  if orelse.isEmpty then []
  else if isSingleIf orelse then
    match printed with
    | [] => []
    | first :: rest => ("el" ++ first) :: rest
  else "else:" :: indent printed

mutual

def Stmt.lines : Stmt → List String
  | .report code path expected received =>
    [s!"add_issue(issues, {Text.quoted code.name}, {pathText path}, {Text.quoted expected}, {received.text})"]
  | .abort true => ["return False"]
  | .abort false => ["if abort_early:", "    return ValidationFailure(issues)"]
  | .ifElse test body orelse =>
    s!"if {test.text}:" :: indent (linesAll body) ++ elseLines orelse (linesAll orelse)
  | .forItems index item operand start body =>
    s!"for {index.text}, {item.text} in {enumerateText operand start}:" :: indent (linesAll body)
  | .forKeys key operand body => s!"for {key.text} in {operand.text}:" :: indent (linesAll body)
  | .call result validator operand => [s!"{result.text} = {validator}({operand.text}, options)"]
  | .takeOver result path => [s!"issues.extend({issuesText result path})"]
  | .branch name body =>
    "" :: s!"def {name.text}() -> bool:" :: indent (declareIssues :: linesAll body ++ ["return True"])
  | .countMatches matchCount branches =>
    let calls := branches.map fun branch => branch.text ++ "()"
    [s!"{matchCount.text} = [" ++ ", ".intercalate calls ++ "].count(True)"]

def linesAll : List Stmt → List String
  | [] => []
  | statement :: statements => statement.lines ++ linesAll statements

end

namespace Validator

/-- The validator function. -/
def text (validator : Validator) : String :=
  let body := [
      Text.tripleQuoted s!"Validate a value against the {validator.typeName} schema.",
      declareIssues,
      "abort_early = options is not None and options.abort_early"] ++
    linesAll validator.body ++ [
      "if issues:",
      "    return ValidationFailure(issues)",
      s!"return ValidationSuccess(cast({validator.typeName}, value))"]
  "\n".intercalate
    (s!"def {validator.name}(value: Any, options: ValidationOptions | None=None) -> ValidationResult[{validator.typeName}]:" ::
      indent body)

/-- The function that validates and fails on refusal. -/
def parserText (validator : Validator) : String :=
  let body := [
    Text.tripleQuoted s!"Validate a value as {validator.typeName}, raising ValidationError on failure.",
    s!"result = {validator.name}(value)",
    "if isinstance(result, ValidationFailure):",
    s!"    raise ValidationError({Text.quoted validator.typeName}, result.issues)",
    "return result.data"]
  "\n".intercalate
    (s!"def {Name.parser validator.typeName}(value: Any) -> {validator.typeName}:" :: indent body)

/-- The functions of a type that is asked for, or of one that others refer to. -/
def textWith (validator : Validator) (isExported : Bool) : String :=
  if isExported then validator.text ++ "\n\n\n" ++ validator.parserText else validator.text

end Validator

end SchemaGuard.Check
