import SchemaGuard.Table
import SchemaGuard.Text.Blank
import SchemaGuard.Text.Identifier
import SchemaGuard.Text.Split

/-!
# Targets

What a user asks to be generated: a pointer, and possibly the name of its type. A target is written
as the pointer alone or, if there is an equals sign in it, as `path=…` and `name=…` divided by a
comma. Blanks around keys and values do not count, and a repeated key counts once, with its last
value.
-/

namespace SchemaGuard

structure Target where
  path : String
  name : Option String
deriving DecidableEq

/-- Why a text is not a target. -/
inductive TargetError where
  | notPair (piece : String)
  | emptyPart (piece : String)
  | unknownKeys (keys : List String)
  | noPath (text : String)
  | badName (name : String)
deriving DecidableEq

def TargetError.message : TargetError → String
  | notPair piece => s!"Invalid target format: \"{piece}\". Expected \"key=value\" format."
  | emptyPart piece => s!"Invalid target format: \"{piece}\". Key and value cannot be empty."
  | unknownKeys keys =>
    "Unknown target parameters: " ++ ", ".intercalate keys ++ ". Valid parameters are: path, name"
  | noPath text => s!"Invalid target format: \"path\" parameter is required. Got: \"{text}\""
  | badName name => s!"Invalid target name: \"{name}\" is not a valid Python identifier"

namespace Target

/-- The key and the value of a piece, trimmed and not empty. -/
def pair (piece : String) : Except TargetError (String × String) :=
  match Text.cut? '=' piece with
  | none => .error (.notPair piece)
  | some (key, value) =>
    let key := Text.trim key
    let value := Text.trim value
    if key.isEmpty || value.isEmpty then .error (.emptyPart piece) else .ok (key, value)

/-- Whether a text can be the name of a type. -/
def isName (name : String) : Bool := Text.isIdentifier name && !Text.isKeyword name

/-- Reads a target. -/
def parse (text : String) : Except TargetError Target := do
  if !text.toList.contains '=' then
    return ⟨text, none⟩
  let pairs ← (Text.split ',' text).mapM pair
  let params := Table.ofList pairs
  let unknown := params.keys.filter fun key => key != "path" && key != "name"
  if !unknown.isEmpty then
    throw (.unknownKeys unknown)
  match params.get? "path" with
  | none => throw (.noPath text)
  | some path =>
    match params.get? "name" with
    | none => return ⟨path, none⟩
    | some name => if isName name then return ⟨path, some name⟩ else throw (.badName name)

end Target

end SchemaGuard
