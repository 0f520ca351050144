import SchemaGuard.Schema.Parse
import SchemaGuard.Value

/-!
# Notices

What a run has to say besides its result: warnings about schemas that are not fully covered, and
the progress reports of a verbose run. Each notice has a level, the channel it is logged on and a
message.
-/

namespace SchemaGuard

inductive Level where
  | debug
  | info
  | warning
deriving DecidableEq

def Level.name : Level → String
  | debug => "DEBUG"
  | info => "INFO"
  | warning => "WARNING"

/-- Which of the two outputs of a schema a notice is about. -/
inductive Output where
  | types
  | validators
deriving DecidableEq

inductive Notice where
  | externalRef (ref : String)
  | unresolvedPath (path : String) (error : PointerError)
  | collected (pointers : List String)
  | generating (typeName pointer : String)
  | inlining (output : Output) (ref path : String)
  | notLocal (output : Output) (ref : String)
  | pointerFailed (output : Output) (error : PointerError)
  | unresolvedRef (output : Output) (ref : String)
  | nonObjectBranch (path : String)
  | inexpressible (path : String)
  | unchecked (path : String)
  | noBranches (kind : Combinator) (path : String)
  | badPattern (pattern : Json) (path : String)
  | noFormatter
  | unknownVersion (version : String)
  | unformatted (reason : String)
  | wrote (path : String) (size : Nat)
  | finished (count : Nat) (path : String)

namespace Notice

def level : Notice → Level
  | collected _ => .debug
  | generating _ _ => .debug
  | wrote _ _ => .debug
  | finished _ _ => .info
  | _ => .warning

/-- What all channels have in common. -/
def package : String := "json_schema_validator_gen.pipeline"

def outputChannel : Output → String
  | .types => package ++ ".ast_backends.type_backend"
  | .validators => package ++ ".ast_backends.validator_backend"

def formatterChannel : String := package ++ ".formatters.black_formatter"

/-- The name of the log a notice goes to. -/
def channel : Notice → String
  | externalRef _ => package ++ ".analyzer.dependency_collector"
  | unresolvedPath _ _ => package ++ ".analyzer.dependency_collector"
  | collected _ => package ++ ".analyzer.dependency_collector"
  | generating _ _ => package ++ ".generator"
  | inlining output _ _ => outputChannel output
  | notLocal output _ => outputChannel output
  | pointerFailed output _ => outputChannel output
  | unresolvedRef output _ => outputChannel output
  | nonObjectBranch _ => outputChannel .types
  | inexpressible _ => outputChannel .types
  | unchecked _ => outputChannel .validators
  | noBranches _ _ => outputChannel .validators
  | badPattern _ _ => outputChannel .validators
  | noFormatter => formatterChannel
  | unknownVersion _ => formatterChannel
  | unformatted _ => formatterChannel
  | wrote _ _ => package ++ ".atomic_writer"
  | finished _ _ => package ++ ".generator"

def message : Notice → String
  | externalRef ref => s!"External reference not supported: {ref}"
  | unresolvedPath path error =>
    s!"Could not resolve schema at path {Text.quoted path}: {error.message}"
  | collected pointers =>
    s!"Collected {pointers.length} pointer(s): " ++ ", ".intercalate pointers
  | generating typeName pointer => s!"Generating {typeName} for {pointer}"
  | inlining .types ref path =>
    s!"Reference \"{ref}\" at {path} has no generated type, inlining it"
  | inlining .validators ref path =>
    s!"Reference \"{ref}\" at {path} has no generated validator, inlining its checks"
  | notLocal .types ref => s!"Reference \"{ref}\" is not local, using Any"
  | notLocal .validators ref => s!"Reference \"{ref}\" is not local, skipping its checks"
  | pointerFailed _ error => s!"Pointer resolution failed: {error.message}"
  | unresolvedRef .types ref => s!"Could not resolve reference \"{ref}\", using Any"
  | unresolvedRef .validators ref => s!"Could not resolve reference \"{ref}\", skipping its checks"
  | nonObjectBranch path => s!"Ignoring non-object allOf branch at {path}"
  | inexpressible path => s!"Cannot express intersection of allOf at {path}, using Any"
  | unchecked path => s!"allOf at {path} is not checked by the generated validator"
  | noBranches kind path => s!"Empty {kind.keyword} at {path}, skipping"
  | badPattern pattern path =>
    s!"Invalid regex pattern {(Value.ofJson pattern).display} at {path}, skipping it"
  | noFormatter => "Formatting requested but black is not installed, keeping unformatted output"
  | unknownVersion version =>
    s!"Unknown black target version {Text.quoted version}, letting black infer it"
  | unformatted reason => s!"black could not format the generated code: {reason}"
  | wrote path size => s!"Wrote {path} ({size} bytes)"
  | finished count path => s!"Generated {count} type(s) into {path}"

/-- A notice as a line of the log. -/
def line (notice : Notice) : String :=
  s!"{notice.level.name}: {notice.channel}: {notice.message}"

end Notice

/-- The messages of the warnings among some notices. -/
def warnings (notices : List Notice) : List String :=
  (notices.filter fun notice => notice.level == .warning).map (·.message)

end SchemaGuard
