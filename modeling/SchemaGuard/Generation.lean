import SchemaGuard.CommandLine.Record
import SchemaGuard.Disk.Writer
import SchemaGuard.Formatter
import SchemaGuard.Source

/-!
# Generation

From a schema file to a module file. Targets are read before the schema, the module is generated as a
whole before anything is written, and a failure anywhere leaves the output as it was.
-/

namespace SchemaGuard

/-- What a file is read as. -/
inductive Document where
  | schema
  | config
deriving DecidableEq

def Document.name : Document → String
  | schema => "schema"
  | config => "config"

/-- Why a file cannot be read. -/
inductive LoadError where
  | file (error : Disk.Error)
  | encoding (error : Text.Utf8.Error)
  | json (error : Json.ReadError)

/-- Why a generation fails. -/
inductive Failure where
  | usage (error : CommandLine.UsageError)
  | load (document : Document) (path : String) (error : LoadError)
  | configNotObject (path : String)
  | config (path : String) (error : Config.Error)
  | target (error : TargetError)
  | generate (error : GenerateError)
  | record (error : CommandLine.RecordError)
  | format (crash : FormatCrash)
  | source (defect : SourceDefect)
  | file (error : Disk.Error)

/-- How a failure is reported: with a message, or as a crash of a kind. -/
inductive Report where
  | usage (error : CommandLine.UsageError)
  | message (text : String)
  | crash (kind text : String)

namespace EmitError

/-- The kind of crash that an error is, unless it is explained to the user. -/
def crashKind? : EmitError → Option String
  | cyclicRef _ _ _ => none
  | cyclicAllOf _ _ => none
  | unnamed _ => none
  | index _ => some "ValueError"
  | type _ => some "TypeError"
  | pattern .repetitionTooLarge => some "OverflowError"
  | pattern .codeTooLarge => some "OverflowError"
  | pattern .tooFarBehind => some "RuntimeError"
  | pattern _ => some "ValueError"
  | tooDeep => some "RecursionError"

end EmitError

namespace GenerateError

def crashKind? : GenerateError → Option String
  | lookup (.pointer _) => none
  | lookup (.index _) => some "ValueError"
  | name _ => none
  | type _ => some "TypeError"
  | emit error => error.crashKind?

end GenerateError

namespace Failure

def report : Failure → Report
  | usage error => .usage error
  | load document path (.file error) =>
    .message s!"Could not load {document.name} {path}: {error.message}"
  | load _ _ (.encoding error) => .crash "UnicodeDecodeError" error.message
  | load _ _ (.json (.longInteger digits)) => .crash "ValueError" (Json.longIntegerMessage digits)
  | load document path (.json error) =>
    .message s!"Could not load {document.name} {path}: {error.message}"
  | configNotObject path => .message s!"Config {path} must contain a JSON object"
  | config path error => .message s!"Invalid config {path}: {error.message}"
  | target error => .message error.message
  | generate (.emit .tooDeep) => .crash "RecursionError" "maximum recursion depth exceeded"
  | generate error =>
    match error.crashKind? with
    | some kind => .crash kind error.message
    | none => .message error.message
  | record (.file error) => .crash error.kind error.message
  | record error => .crash "TypeError" error.message
  | format crash => .crash crash.kind crash.reason
  | source .malformed => .message "Generated Python code is not valid"
  | source .nullCharacter => .crash "ValueError" "source code string cannot contain null bytes"
  | file error => .crash error.kind error.message

end Failure

namespace Generation

/-- What a generation builds up: the files and what there is to say. -/
structure State where
  disk : Disk
  notices : List Notice

abbrev Generate := ExceptT Failure (StateM State)

def note (notices : List Notice) : Generate Unit :=
  modify fun state => { state with notices := state.notices ++ notices }

/-- Reads a file as JSON. -/
def loadJson (disk : Disk) (trouble : Disk.Trouble) (path : String) : Except LoadError Json :=
  match disk.amid trouble .read path (disk.read (.ofString path)) with
  | .error fault => .error (.file ⟨fault, path⟩)
  | .ok bytes =>
    match Text.Utf8.decode bytes with
    | .error error => .error (.encoding error)
    | .ok text =>
      match Json.read (String.ofList (Text.lineFeeds text.toList)) with
      | .error error => .error (.json error)
      | .ok document => .ok document

def load (trouble : Disk.Trouble) (document : Document) (path : String) : Generate Json := do
  match loadJson (← get).disk trouble path with
  | .ok json => return json
  | .error error => throw (.load document path error)

/-- Reads a configuration. -/
def loadConfig (trouble : Disk.Trouble) (path : String) : Generate Config := do
  match ← load trouble .config path with
  | .object settings =>
    match Config.ofSettings settings with
    | .ok config => return config
    | .error error => throw (.config path error)
  | _ => throw (.configNotObject path)

/-- Reads targets. -/
def readTargets (texts : List String) : Generate (List Target) :=
  match texts.mapM Target.parse with
  | .ok targets => return targets
  | .error error => throw (.target error)

/-- Generates the module of a document. -/
def generateModule (document : Json) (schemaPath : String) (targets : List Target) : Generate Module := do
  let (result, run) := Module.ofDocument document schemaPath targets
  note run.notices
  match result with
  | .ok module => return module
  | .error error => throw (.generate error)

/-- The text of a module, which may have to record the command line. -/
def moduleText (config : Config) (commandLine : Except CommandLine.RecordError String) (module : Module) :
    Generate String := do
  if config.addGenerationComment.isTruthy then
    match commandLine with
    | .ok commandLine => return module.text (.ofConfig config commandLine)
    | .error error => throw (.record error)
  else
    return module.text (.ofConfig config "")

/-- Formats a text if that is asked for. -/
def format (formatter : Option Formatter) (config : Config) (text : String) : Generate String := do
  if config.formatter.enabled.isTruthy then
    let (result, notices) := Formatter.run formatter config.formatter text
    note notices
    match result with
    | .ok formatted => return formatted
    | .error crash => throw (.format crash)
  else
    return text

/-- Runs an operation on the files. -/
def onDisk (operation : Disk → Disk × Option Disk.Error) : Generate Unit := do
  let state ← get
  let (disk, failed) := operation state.disk
  set { state with disk }
  match failed with
  | some error => throw (.file error)
  | none => return

/-- Writes a text in one step, after checking it if that is asked for. -/
def writeAtomic (check : SourceCheck) (trouble : Disk.Trouble) (path : Path) (text : String)
    (validate : Bool) : Generate Unit := do
  if validate then
    if let some defect := check text then
      throw (.source defect)
  onDisk fun disk => disk.writeStaged trouble path (Text.Utf8.encode text)
  note [.wrote path.text text.length]

/-- Writes a text directly. -/
def writePlain (trouble : Disk.Trouble) (path : Path) (text : String) : Generate Unit :=
  onDisk fun disk => disk.writePlain trouble path (Text.Utf8.encode text)

/-- Writes a module as the configuration says. -/
def write (check : SourceCheck) (trouble : Disk.Trouble) (config : Config) (path : Path) (text : String) :
    Generate Unit :=
  if config.output.atomicWrite.isTruthy then
    writeAtomic check trouble path text config.output.validateBeforeWrite.isTruthy
  else
    writePlain trouble path text

/-- What a generation is asked to do. -/
structure Task where
  schema : String
  output : String
  targets : List String
  /-- The command line to record, if it can be told. -/
  commandLine : Except CommandLine.RecordError String

/-- Generates a module from a schema file and writes it. -/
def generate (check : SourceCheck) (formatter : Option Formatter) (trouble : Disk.Trouble)
    (config : Config) (task : Task) : Generate Module := do
  let targets ← readTargets task.targets
  let document ← load trouble .schema task.schema
  let module ← generateModule document task.schema targets
  let text ← moduleText config task.commandLine module
  let text ← format formatter config text
  let output := Path.ofString task.output
  write check trouble config output text
  note [.finished module.entries.length output.text]
  return module

end Generation

end SchemaGuard
