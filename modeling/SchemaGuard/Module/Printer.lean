import SchemaGuard.Config
import SchemaGuard.Module
import SchemaGuard.TypeDecl.Printer

/-!
# The text of modules

A header, then all type declarations, then all validators. The header says what was run to make the
module, imports what the rest uses and lists the names that were asked for.
-/

namespace SchemaGuard

def programName : String := "json_schema_validator_gen"

def version : String := "1.0.0"

/-- What the header of a module says besides what follows from the module. -/
structure Header where
  /-- The command line to record. -/
  commandLine : Option String
  /-- Where the functions that validators use come from. -/
  runtimeModule : String

/-- The header that a configuration asks for. -/
def Header.ofConfig (config : Config) (commandLine : String) : Header where
  commandLine := if config.addGenerationComment.isTruthy then some commandLine else none
  runtimeModule := (Value.ofJson config.runtimeModule).plainText

namespace Entry

def typeText (entry : Entry) : String := TypeDecl.textAll entry.declarations

def validatorText (entry : Entry) : String := entry.validator.textWith entry.isExported

/-- The names that are exported for an entry. -/
def exportedNames (entry : Entry) : List String :=
  if entry.isExported then [entry.typeName, entry.validator.name, Name.parser entry.typeName] else []

end Entry

namespace Module

/-- The comment that records a command line. -/
def commentLines : Option String → List String
  | none => []
  | some commandLine => [
    s!"# Generated by {programName} v{version} : {commandLine}",
    "# Do not edit by hand: change the schema and regenerate.",
    ""]

def exportedNames (module : Module) : List String := module.entries.flatMap Entry.exportedNames

def headerText (header : Header) (module : Module) : String :=
  "\n".intercalate (
    commentLines header.commandLine ++
    ["from __future__ import annotations", ""] ++
    (if module.needsPatterns then ["import re"] else []) ++
    ["from typing import " ++ ", ".intercalate typingImports, ""] ++
    [s!"from {header.runtimeModule} import ("] ++
    runtimeImports.map (fun name => s!"    {name},") ++
    [")", "", "__all__ = ["] ++
    module.exportedNames.map (fun name => s!"    \"{name}\",") ++
    ["]"])

/-- Texts that are not empty, two blank lines between them. -/
def sections (texts : List String) : String :=
  "\n\n\n".intercalate (texts.filter fun text => !text.isEmpty)

/-- The text of a module. -/
def text (header : Header) (module : Module) : String :=
  sections [
    headerText header module,
    "\n\n\n".intercalate (module.entries.map Entry.typeText),
    "\n\n\n".intercalate (module.entries.map Entry.validatorText)] ++ "\n"

end Module

end SchemaGuard
