import SchemaGuard.CommandLine.Help
import SchemaGuard.Generation

/-!
# The program

What the program does with the words of a command line: it prints help, or generates a module, or says
why it does not. It exits with 0 if all went well and with 1 otherwise.
-/

namespace SchemaGuard.Program

open CommandLine

/-- What a run asks for. -/
structure Arguments where
  schema : String
  output : String
  targets : List String
  config : Option String
  verbose : Bool

inductive Request where
  | help
  | generate (arguments : Arguments)

/-- Checks the path that an option names. -/
def checkPath (disk : Disk) (option : Opt) (mustExist : Bool) (path : String) : Except Failure Unit :=
  match disk.inspect path with
  | .ok .directory => .error (.usage (.isDirectory option path))
  | .ok (.file _) => .ok ()
  | .error .nullByte => .error (.file ⟨.nullByte, path⟩)
  | .error _ => if mustExist then .error (.usage (.noSuchFile option path)) else .ok ()

/-- Checks an option that was given, or that it may be left out. -/
def checkOption (disk : Disk) (scan : Scan) (option : Opt) : Except Failure Unit :=
  match option, scan.value? option with
  | .schema, some path => checkPath disk .schema true path
  | .output, some path => checkPath disk .output false path
  | .config, some path => checkPath disk .config true path
  | option, none => if option.isRequired then .error (.usage (.missing option)) else .ok ()
  | _, some _ => .ok ()

/-- Reads the words of a command line. -/
def read (disk : Disk) (words : List String) : Except Failure Request := do
  match Scan.ofWords words with
  | .error error => throw (.usage error)
  | .ok scan =>
    if scan.has .help then
      return .help
    scan.order.forM (checkOption disk scan)
    if !scan.leftOver.isEmpty then
      throw (.usage (.leftOver scan.leftOver))
    return .generate {
      schema := (scan.value? .schema).getD ""
      output := (scan.value? .output).getD ""
      targets := scan.values .target
      config := scan.value? .config
      verbose := scan.has .verbose }

/-- The values of the options, as they are recorded. -/
def Arguments.values (arguments : Arguments) : Table Value := [
  (Opt.schema.key, .string arguments.schema),
  (Opt.output.key, .string arguments.output),
  (Opt.target.key, .tuple (arguments.targets.map .string)),
  (Opt.config.key, (arguments.config.map Value.string).getD .null),
  (Opt.verbose.key, .bool arguments.verbose)]

/-- Does what the arguments ask for. -/
def perform (check : SourceCheck) (formatter : Option Formatter) (trouble : Disk.Trouble)
    (arguments : Arguments) : Generation.Generate Module := do
  let config ←
    match arguments.config with
    | some path => Generation.loadConfig trouble path
    | none => pure Config.standard
  let commandLine := record (← get).disk arguments.values
  Generation.generate check formatter trouble config
    ⟨arguments.schema, arguments.output, arguments.targets, commandLine⟩

/-! ## Output -/

/-- What a run leaves behind. -/
structure Result where
  exitCode : Nat
  stdout : String
  stderr : String
  disk : Disk

/-- Whether a character can stand inside a terminal control sequence. -/
def isControlParameter (c : Char) : Bool := c.isDigit || c == ';' || c == '?'

/-- What follows a terminal control sequence, if the characters after its introduction are one. -/
def afterControl? : List Char → Option (List Char)
  | [] => none
  | c :: rest =>
    if isControlParameter c then afterControl? rest else if c.isAlpha then some rest else none

/-- Takes terminal control sequences out of a text; `fuel` bounds its length. -/
def plain : Nat → List Char → List Char
  | fuel + 1, '\x1b' :: '[' :: rest =>
    match afterControl? rest with
    | some rest => plain fuel rest
    | none => '\x1b' :: plain fuel ('[' :: rest)
  | fuel + 1, c :: rest => c :: plain fuel rest
  | _, rest => rest

/-- An error message as it is printed. -/
def errorText (message : String) : String :=
  let text := s!"Error: {message}".toList
  String.ofList (plain text.length text) ++ "\n"

def reportText : Report → String
  | .usage error => (if error.showsUsage then reminder else "") ++ errorText error.message
  | .message text => errorText text
  | .crash kind text => s!"Traceback: {kind}: {text}\n"

/-- The notices that are logged. -/
def logText (verbose : Bool) (notices : List Notice) : String :=
  let shown := notices.filter fun notice => verbose || notice.level == .warning
  String.join (shown.map fun notice => notice.line ++ "\n")

/-- Runs the program. -/
def run (check : SourceCheck) (formatter : Option Formatter) (trouble : Disk.Trouble) (disk : Disk)
    (words : List String) : Result :=
  match read disk words with
  | .error failure => ⟨1, "", reportText failure.report, disk⟩
  | .ok .help => ⟨0, helpText, "", disk⟩
  | .ok (.generate arguments) =>
    let (result, state) := (perform check formatter trouble arguments).run.run ⟨disk, []⟩
    let log := logText arguments.verbose state.notices
    match result with
    | .ok _ => ⟨0, "", log, state.disk⟩
    | .error failure => ⟨1, "", log ++ reportText failure.report, state.disk⟩

end SchemaGuard.Program
