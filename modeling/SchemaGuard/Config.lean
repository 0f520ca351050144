import SchemaGuard.Json

/-!
# Configuration

The settings of a run. A setting keeps whatever value it is given: its truth is all that is asked of
a switch, and its text of the runtime module. Unknown settings are ignored, but an unknown one inside
a section is an error, and a section that is no object is ignored.
-/

namespace SchemaGuard

namespace Config

/-- How the module reaches the disk. -/
structure Output where
  validateBeforeWrite : Json
  atomicWrite : Json

/-- How the module is formatted. -/
structure Formatter where
  enabled : Json
  lineLength : Json
  targetVersion : Json
  stringNormalization : Json
  magicTrailingComma : Json

inductive Section where
  | formatter
  | output
deriving DecidableEq

/-- The class that a section is read into. -/
def Section.className : Section → String
  | formatter => "FormatterConfig"
  | output => "OutputConfig"

/-- Why a section cannot be read. -/
inductive Error where
  | unknownKey (inside : Section) (key : String)
  | selfKey (inside : Section)
deriving DecidableEq

def Error.message : Error → String
  | unknownKey inside key =>
    s!"{inside.className}.__init__() got an unexpected keyword argument '{key}'"
  | selfKey inside => s!"{inside.className}.__init__() got multiple values for argument 'self'"

/-- The error for a key that is no setting of a section. -/
def Error.ofKey (inside : Section) (key : String) : Error :=
  if key == "self" then selfKey inside else unknownKey inside key

end Config

/-- The settings of a run. -/
structure Config where
  addGenerationComment : Json
  runtimeModule : Json
  formatter : Config.Formatter
  output : Config.Output

namespace Config

def defaultOutput : Output where
  validateBeforeWrite := .bool true
  atomicWrite := .bool true

def defaultFormatter : Formatter where
  enabled := .bool false
  lineLength := .ofInt 100
  targetVersion := .string "py312"
  stringNormalization := .bool true
  magicTrailingComma := .bool true

/-- The settings of a run that sets none. -/
def standard : Config where
  addGenerationComment := .bool true
  runtimeModule := .string "json_schema_validator_gen.runtime"
  formatter := defaultFormatter
  output := defaultOutput

/-! ## Reading -/

/-- Changes one setting of the output section. -/
def setOutput (output : Output) (setting : String × Json) : Except Error Output :=
  match setting with
  | ("validate_before_write", value) => .ok { output with validateBeforeWrite := value }
  | ("atomic_write", value) => .ok { output with atomicWrite := value }
  | (key, _) => .error (.ofKey .output key)

/-- Changes one setting of the formatter section. -/
def setFormatter (formatter : Formatter) (setting : String × Json) : Except Error Formatter :=
  match setting with
  | ("enabled", value) => .ok { formatter with enabled := value }
  | ("line_length", value) => .ok { formatter with lineLength := value }
  | ("target_version", value) => .ok { formatter with targetVersion := value }
  | ("string_normalization", value) => .ok { formatter with stringNormalization := value }
  | ("magic_trailing_comma", value) => .ok { formatter with magicTrailingComma := value }
  | (key, _) => .error (.ofKey .formatter key)

/-- Changes one setting. -/
def set (config : Config) (setting : String × Json) : Except Error Config :=
  match setting with
  | ("add_generation_comment", value) => .ok { config with addGenerationComment := value }
  | ("runtime_module", value) => .ok { config with runtimeModule := value }
  | ("formatter", .object settings) => do
    return { config with formatter := ← settings.foldlM setFormatter defaultFormatter }
  | ("output", .object settings) => do
    return { config with output := ← settings.foldlM setOutput defaultOutput }
  | _ => .ok config

/-- Reads settings. -/
def ofSettings (settings : List (String × Json)) : Except Error Config :=
  settings.foldlM set standard

/-! ## Writing -/

def Output.toJson (output : Output) : Json := .object [
  ("validate_before_write", output.validateBeforeWrite),
  ("atomic_write", output.atomicWrite)]

def Formatter.toJson (formatter : Formatter) : Json := .object [
  ("enabled", formatter.enabled),
  ("line_length", formatter.lineLength),
  ("target_version", formatter.targetVersion),
  ("string_normalization", formatter.stringNormalization),
  ("magic_trailing_comma", formatter.magicTrailingComma)]

/-- All settings, as they are written to a file. -/
def toSettings (config : Config) : List (String × Json) := [
  ("add_generation_comment", config.addGenerationComment),
  ("runtime_module", config.runtimeModule),
  ("formatter", config.formatter.toJson),
  ("output", config.output.toJson)]

/-- Whether reading what is written gives the same settings again. -/
def roundTrips (config : Config) : Bool :=
  match ofSettings config.toSettings with
  | .ok read => (Json.object read.toSettings) == (.object config.toSettings)
  | .error _ => false

end Config

end SchemaGuard
