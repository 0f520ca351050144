import SchemaGuard.Text.Quoted
import SchemaGuard.Text.Similar
import SchemaGuard.Text.Wrap

/-!
# The options of the command line

Every option has a long and a short name. The words of a command line are scanned from left to right:
a word that starts with a dash names options, the word after an option that takes a value is its value,
and every other word is left over. After a double dash all words are left over.
-/

namespace SchemaGuard.CommandLine

inductive Opt where
  | schema
  | output
  | target
  | config
  | verbose
  | help
deriving DecidableEq

namespace Opt

def all : List Opt := [schema, output, target, config, verbose, help]

/-- The name of an option without dashes. -/
def key : Opt → String
  | schema => "schema"
  | output => "output"
  | target => "target"
  | config => "config"
  | verbose => "verbose"
  | help => "help"

def long (option : Opt) : String := "--" ++ option.key

/-- The letter of the short name. -/
def letter : Opt → Char
  | schema => 's'
  | output => 'o'
  | target => 't'
  | config => 'c'
  | verbose => 'v'
  | help => 'h'

def short (option : Opt) : String := String.ofList ['-', option.letter]

/-- The kind of value that an option takes. -/
def valueKind? : Opt → Option String
  | schema => some "FILE"
  | output => some "FILE"
  | target => some "TEXT"
  | config => some "FILE"
  | _ => none

def takesValue (option : Opt) : Bool := option.valueKind?.isSome

def isRequired : Opt → Bool
  | schema => true
  | output => true
  | _ => false

def description : Opt → String
  | schema => "JSON Schema file to generate validators from"
  | output => "Python module to write"
  | target =>
    "Schema pointer to export, either \"#/definitions/User\" or \"path=<pointer>,name=<Name>\". " ++
      "Repeatable, defaults to the root schema."
  | config => ""
  | verbose => "Enable debug logging"
  | help => "Show this message and exit."

/-- Both names of an option, as errors show them. -/
def hint (option : Opt) : String := s!"'{option.long}' / '{option.short}'"

def ofLong? (name : String) : Option Opt := all.find? (·.long == name)

def ofLetter? (letter : Char) : Option Opt := all.find? (·.letter == letter)

end Opt

/-! ## Errors -/

/-- What is wrong with a command line. -/
inductive UsageError where
  | noSuchOption (name : String) (similar : List String)
  | needsArgument (name : String)
  | takesNoValue (name : String)
  | missing (option : Opt)
  | noSuchFile (option : Opt) (path : String)
  | isDirectory (option : Opt) (path : String)
  | leftOver (words : List String)
deriving DecidableEq

namespace UsageError

def message : UsageError → String
  | noSuchOption name [] => s!"No such option: {name}"
  | noSuchOption name [similar] => s!"No such option: {name} Did you mean {similar}?"
  | noSuchOption name similar =>
    s!"No such option: {name} (Possible options: " ++ ", ".intercalate similar ++ ")"
  | needsArgument name => s!"Option {Text.quoted name} requires an argument."
  | takesNoValue name => s!"Option {Text.quoted name} does not take a value."
  | missing option => s!"Missing option {option.hint}."
  | noSuchFile option path => s!"Invalid value for {option.hint}: File {Text.quoted path} does not exist."
  | isDirectory option path => s!"Invalid value for {option.hint}: File {Text.quoted path} is a directory."
  | leftOver [word] => s!"Got unexpected extra argument ({word})"
  | leftOver words => "Got unexpected extra arguments (" ++ " ".intercalate words ++ ")"

/-- Whether the error comes with a reminder of how to use the program. -/
def showsUsage : UsageError → Bool
  | needsArgument _ => false
  | takesNoValue _ => false
  | _ => true

end UsageError

/-! ## Scanning -/

/-- An option that was given, with its value if it takes one. -/
structure Given where
  option : Opt
  value : String
deriving DecidableEq

/-- What has been scanned: the options given, the option that waits for its value under the name it was
given by, the words left over, and whether a double dash has been seen. -/
structure Scan where
  given : List Given
  waiting : Option (Opt × String)
  leftOver : List String
  isClosed : Bool

namespace Scan

def start : Scan := ⟨[], none, [], false⟩

def give (scan : Scan) (option : Opt) (value : String) : Scan :=
  { scan with given := scan.given ++ [⟨option, value⟩], waiting := none }

/-- The long names of all options. -/
def longNames : List String := Opt.all.map Opt.long

/-- Scans an option by its long name, with the value that was attached to it. -/
def long (scan : Scan) (name : String) (option : Opt) (attached : Option String) :
    Except UsageError Scan :=
  match option.takesValue, attached with
  | true, some value => .ok (scan.give option value)
  | true, none => .ok { scan with waiting := some (option, name) }
  | false, some _ => .error (.takesNoValue name)
  | false, none => .ok (scan.give option "")

/-- Scans options by their letters; what follows the letter of an option that takes a value is its
value. -/
def letters (scan : Scan) : List Char → Except UsageError Scan
  | [] => .ok scan
  | letter :: rest =>
    let name := String.ofList ['-', letter]
    match Opt.ofLetter? letter with
    | none => .error (.noSuchOption name [])
    | some option =>
      if !option.takesValue then (scan.give option "").letters rest
      else if rest.isEmpty then .ok { scan with waiting := some (option, name) }
      else .ok (scan.give option (String.ofList rest))

/-- Scans a word that names options. -/
def options (scan : Scan) (word : String) : Except UsageError Scan :=
  let (name, attached) :=
    match Text.cut? '=' word with
    | some (name, value) => (name, some value)
    | none => (word, none)
  match Opt.ofLong? name with
  | some option => scan.long name option attached
  | none =>
    match word.toList with
    | '-' :: '-' :: _ => .error (.noSuchOption name (Text.closeMatches name longNames))
    | _ :: letters => scan.letters letters
    | [] => .ok scan

/-- Scans a word. -/
def word (scan : Scan) (word : String) : Except UsageError Scan :=
  match scan.waiting with
  | some (option, _) => .ok (scan.give option word)
  | none =>
    if scan.isClosed then .ok { scan with leftOver := scan.leftOver ++ [word] }
    else if word == "--" then .ok { scan with isClosed := true }
    else
      match word.toList with
      | '-' :: _ :: _ => scan.options word
      | _ => .ok { scan with leftOver := scan.leftOver ++ [word] }

/-- Scans the words of a command line. -/
def ofWords (words : List String) : Except UsageError Scan := do
  let scan ← words.foldlM Scan.word start
  match scan.waiting with
  | some (_, name) => throw (.needsArgument name)
  | none => return scan

/-- The last value given for an option. -/
def value? (scan : Scan) (option : Opt) : Option String :=
  (scan.given.reverse.find? (·.option == option)).map (·.value)

/-- All values given for an option. -/
def values (scan : Scan) (option : Opt) : List String :=
  (scan.given.filter (·.option == option)).map (·.value)

def has (scan : Scan) (option : Opt) : Bool := scan.given.any (·.option == option)

/-- The options in the order in which they are looked at: those given, in the order of their first
occurrence, then the others. -/
def order (scan : Scan) : List Opt :=
  let given := (scan.given.map (·.option)).eraseDups
  given ++ Opt.all.filter (!given.contains ·)

end Scan

end SchemaGuard.CommandLine
