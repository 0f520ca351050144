import SchemaGuard.Table

/-!
# Issues

A validation failure is a list of issues. An issue says what was expected and what was received, at
a path of member names and positions into the value. Issues are shown one per line, or grouped by
the text of their path for display beside form fields.
-/

namespace SchemaGuard

/-- A step into a value: a member name or a position. A truth value counts as a position. -/
inductive PathToken where
  | key (name : String)
  | index (position : Int)
  | flag (value : Bool)
deriving DecidableEq

structure Issue where
  code : String
  path : List PathToken
  message : String
  expected : String
  received : String
deriving DecidableEq

namespace Issue

/-- An issue with the standard message. -/
def report (code : String) (path : List PathToken) (expected received : String) : Issue :=
  { code, path, message := s!"Expected {expected}, received {received}", expected, received }

/-- The issue as seen from further out: the given path leads to where its own begins. -/
def under (outer : List PathToken) (issue : Issue) : Issue := { issue with path := outer ++ issue.path }

/-- The text of one further step. -/
def stepText : PathToken → String
  | .key name => "." ++ name
  | .index position => s!"[{position}]"
  | .flag value => if value then "[True]" else "[False]"

/-- The text of a path, such as `users[0].name`: positions in brackets, names after a point, but no
point before a leading name. -/
def pathText : List PathToken → String
  | [] => ""
  | .key name :: rest => name ++ String.join (rest.map stepText)
  | token :: rest => stepText token ++ String.join (rest.map stepText)

/-- Messages grouped for a form: those of the value as a whole, then those of each place in it. -/
structure Flat where
  form : List String
  fields : Table (List String)

/-- Adds a message to those of a place. -/
def Flat.addField (flat : Flat) (place message : String) : Flat :=
  let earlier := (flat.fields.get? place).getD []
  { flat with fields := flat.fields.put place (earlier ++ [message]) }

/-- Groups messages by the text of their path; a place keeps the position of its first issue. -/
def flatten (issues : List Issue) : Flat :=
  issues.foldl
    (fun flat issue =>
      if issue.path.isEmpty then { flat with form := flat.form ++ [issue.message] }
      else flat.addField (pathText issue.path) issue.message)
    ⟨[], []⟩

/-- An issue as a line, its place in brackets before the message. -/
def line (issue : Issue) : String :=
  let place := pathText issue.path
  if place.isEmpty then issue.message else s!"[{place}] {issue.message}"

/-- Issues one per line. -/
def format (issues : List Issue) : String :=
  if issues.isEmpty then "No validation errors" else "\n".intercalate (issues.map line)

/-- What is said when a value is refused as a whole. -/
def refusal (typeName : String) (issues : List Issue) : String :=
  s!"Validation failed for {typeName}: " ++ ", ".intercalate (issues.map (·.message))

end Issue

end SchemaGuard
