import SchemaGuard.CommandLine.Option
import SchemaGuard.Disk
import SchemaGuard.Module.Printer
import SchemaGuard.Text.Shell

/-!
# Recording the command line

A command line that would give the options of a run again. Options that are not set are left out, and
what names a file that is there is shown by its last part only.
-/

namespace SchemaGuard.CommandLine

/-- Why a command line cannot be recorded. -/
inductive RecordError where
  | file (error : Disk.Error)
  | notIterable (kind : String)
deriving DecidableEq

def RecordError.message : RecordError → String
  | file error => error.message
  | notIterable kind => s!"'{kind}' object is not iterable"

/-- Whether there is something at a path. A path that is no path names nothing. -/
def isThere (disk : Disk) (path : Path) : Except Disk.Error Bool :=
  match disk.find path with
  | .ok _ => .ok true
  | .error .nameTooLong => .error ⟨.nameTooLong, path.text⟩
  | .error _ => .ok false

/-- A value as a word. -/
def valueWord (disk : Disk) : Value → Except RecordError String
  | .string text =>
    let path := Path.ofString text
    match isThere disk path with
    | .ok true => .ok (Text.shellWord path.name)
    | .ok false => .ok (Text.shellWord text)
    | .error error => .error (.file error)
  | value => .ok (Text.shellWord value.plainText)

/-- Whether an option is set to something. -/
def isSet : Value → Bool
  | .null => false
  | .bool value => value
  | .number value => !value.same (.int 0)
  | .string text => !text.isEmpty
  | .bytes data => !data.isEmpty
  | .list items => !items.isEmpty
  | .tuple items => !items.isEmpty
  | .dict members => !members.isEmpty

/-- The values of an option that may be repeated. -/
def elements : Value → Except RecordError (List Value)
  | .list items => .ok items
  | .tuple items => .ok items
  | .dict members => .ok (members.map fun (key, _) => .string key)
  | .string text => .ok (text.toList.map fun c => .string (String.ofList [c]))
  | .bytes data => .ok (data.map fun byte => .number (.int byte.toNat))
  | .bool _ => .error (.notIterable "bool")
  | .number (.int _) => .error (.notIterable "int")
  | .number (.float _) => .error (.notIterable "float")
  | .null => .error (.notIterable "NoneType")

/-- The words of an option. -/
def optionWords (disk : Disk) (option : Opt) (value : Value) : Except RecordError (List String) := do
  if !isSet value then
    return []
  match option with
  | .verbose => return [option.long]
  | .target =>
    let words ← (← elements value).mapM (valueWord disk)
    return words.flatMap fun word => [option.long, word]
  | _ => return [option.long, ← valueWord disk value]

/-- The options that are recorded. -/
def recorded : List Opt := [.schema, .output, .target, .config, .verbose]

/-- The command line for the values of options. -/
def record (disk : Disk) (values : Table Value) : Except RecordError String := do
  let words ← recorded.mapM fun option =>
    match values.get? option.key with
    | some value => optionWords disk option value
    | none => return []
  return " ".intercalate (programName :: words.flatten)

end SchemaGuard.CommandLine
