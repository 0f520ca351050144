import SchemaGuard.Check.Names
import SchemaGuard.Config
import SchemaGuard.Notice

/-!
# Formatting

A formatter lays the text of a module out anew. There need not be one, and it may fail: a text that
it cannot read is kept as it is, and any other failure of it is one of the run.
-/

namespace SchemaGuard

/-- A crash of a kind. -/
structure FormatCrash where
  kind : String
  reason : String

/-- Why a formatter gives no text. -/
inductive FormatError where
  | unreadable (reason : String)
  | crash (crash : FormatCrash)

/-- A formatter: whether it knows a version of the language by name, and what it makes of a text. -/
structure Formatter where
  knows : String → Bool
  format : Config.Formatter → String → Except FormatError String

namespace Formatter

/-- What there is to say about the version that is asked for. -/
def versionNotices (formatter : Formatter) (settings : Config.Formatter) :
    Except FormatCrash (List Notice) :=
  match settings.targetVersion with
  | .string version => .ok (if formatter.knows version then [] else [.unknownVersion version])
  | other =>
    let kind := Check.className (.ofJson other)
    .error ⟨"AttributeError", s!"'{kind}' object has no attribute 'upper'"⟩

/-- Formats a text. -/
def run (formatter : Option Formatter) (settings : Config.Formatter) (text : String) :
    Except FormatCrash String × List Notice :=
  match formatter with
  | none => (.ok text, [.noFormatter])
  | some formatter =>
    match formatter.versionNotices settings with
    | .error crash => (.error crash, [])
    | .ok notices =>
      match formatter.format settings text with
      | .ok formatted => (.ok formatted, notices)
      | .error (.unreadable reason) => (.ok text, notices ++ [.unformatted reason])
      | .error (.crash crash) => (.error crash, notices)

end Formatter

end SchemaGuard
