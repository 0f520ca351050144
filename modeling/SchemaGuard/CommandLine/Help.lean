import SchemaGuard.CommandLine.Option
import SchemaGuard.Module.Printer

/-!
# Help

How to use the program, laid out for 80 columns: the names of the options on the left, what they are
for on the right.
-/

namespace SchemaGuard.CommandLine

def usageLine : String := s!"Usage: {programName} [OPTIONS]"

/-- The reminder that comes with an error. -/
def reminder : String := s!"{usageLine}\nTry '{programName} {Opt.help.short}' for help.\n\n"

namespace Opt

/-- The names of an option and the kind of its value. -/
def helpNames (option : Opt) : String :=
  s!"{option.short}, {option.long}" ++
    match option.valueKind? with
    | some kind => " " ++ kind
    | none => ""

def helpText (option : Opt) : String :=
  if option.isRequired then option.description ++ "  [required]" else option.description

end Opt

/-- The width of the left column, with the space after it. -/
def leftWidth : Nat := (Opt.all.map fun option => option.helpNames.length).foldl max 0 + 2

/-- The width of the right column. -/
def rightWidth : Nat := 78 - leftWidth - 2

def blanks (count : Nat) : String := String.ofList (List.replicate count ' ')

/-- The lines about an option. -/
def Opt.helpLines (option : Opt) : List String :=
  let names := "  " ++ option.helpNames
  if option.helpText.isEmpty then
    [names]
  else
    match Text.wrap rightWidth option.helpText with
    | [] => [names]
    | first :: others =>
      (names ++ blanks (leftWidth - option.helpNames.length) ++ first) ::
        others.map (blanks (leftWidth + 2) ++ ·)

/-- The text of the help. -/
def helpText : String :=
  "\n".intercalate (
    [usageLine, "", "  Generate typed validators for a JSON Schema.", "", "Options:"] ++
    Opt.all.flatMap Opt.helpLines) ++ "\n"

end SchemaGuard.CommandLine
