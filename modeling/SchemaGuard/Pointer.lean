import SchemaGuard.Json.Reader
import SchemaGuard.Text.Digit
import SchemaGuard.Text.Percent
import SchemaGuard.Text.Quoted
import SchemaGuard.Text.Split

/-!
# Pointers

A pointer is `#`, the document itself, or `#/` followed by the segments of a path into the document,
divided by slashes. There are two ways of following one. `resolve` takes segments as they stand and
tells apart the ways a step can fail. `resolveEscaped` decodes each segment first: percent signs,
then `~1` for a slash, then `~0` for a tilde.

An array is indexed by a segment of digits. A digit without decimal value passes the test for digits
but is not a number; that is an error of its own kind, which no caller takes for a missing location.
-/

namespace SchemaGuard

/-- Why a pointer leads nowhere. -/
inductive PointerError where
  | noLead (ref : String)
  | emptyPath (ref : String)
  | emptyName (ref : String)
  | notLocal (ref : String)
  | missingKey (ref segment : String)
  | badIndex (ref segment : String)
  | scalar (ref segment : String)
deriving DecidableEq

def PointerError.message : PointerError → String
  | noLead ref => s!"Invalid reference format: \"{ref}\". Must start with \"#/\""
  | emptyPath ref => s!"Invalid reference format: \"{ref}\". Path cannot be empty"
  | emptyName ref => s!"Cannot derive a name from empty path segment: \"{ref}\""
  | notLocal ref => s!"Cannot resolve non-local reference: \"{ref}\""
  | missingKey ref segment => s!"Schema not found at path: \"{ref}\". Missing key \"{segment}\""
  | badIndex ref segment => s!"Schema not found at path: \"{ref}\". Invalid index \"{segment}\""
  | scalar ref segment =>
    s!"Schema not found at path: \"{ref}\". Cannot traverse through non-object at segment \"{segment}\""

/-- Why digits are not an index. -/
inductive IndexError where
  | notDecimal (segment : String)
  | tooLong (digits : Nat)
deriving DecidableEq

def IndexError.message : IndexError → String
  | notDecimal segment =>
    "invalid literal for int() with base 10: " ++
      String.ofList ((Text.quoted segment).toList.take 200)
  | tooLong digits => Json.longIntegerMessage digits

/-- Why following a pointer fails. -/
inductive LookupError where
  | pointer (error : PointerError)
  | index (error : IndexError)
deriving DecidableEq

def LookupError.message : LookupError → String
  | pointer error => error.message
  | index error => error.message

namespace Pointer

/-- The pointer to the document itself. -/
def root : String := "#"

/-- The path after the leading `#/`. -/
def path? (ref : String) : Option String :=
  match ref.toList with
  | '#' :: '/' :: path => some (String.ofList path)
  | _ => none

/-- Whether a reference points into the document it stands in. -/
def isLocal (ref : String) : Bool := ref == root || (path? ref).isSome

/-- The segments of a pointer, which has a path that is not empty. -/
def segments (ref : String) : Except PointerError (List String) :=
  match path? ref with
  | none => .error (.noLead ref)
  | some path => if path.isEmpty then .error (.emptyPath ref) else .ok (Text.split '/' path)

/-- The last segment of a pointer, which must not be empty. -/
def lastSegment (ref : String) : Except PointerError String := do
  let segments ← segments ref
  let last := segments.getLastD ""
  if last.isEmpty then .error (.emptyName ref) else return last

/-- Whether a segment consists of digits. -/
def isIndex (segment : String) : Bool :=
  !segment.isEmpty && segment.toList.all Text.isDigit

/-- The number that a segment of digits writes. The decimal digits it starts with are counted before
anything else is looked at. -/
def index (segment : String) : Except IndexError Nat :=
  let digits := segment.toList.takeWhile fun c => (Text.decimalValue? c).isSome
  if digits.length > Json.maxDigits then
    .error (.tooLong digits.length)
  else
    match Text.decimalNumber? segment.toList with
    | some position => .ok position
    | none => .error (.notDecimal segment)

/-- The item at the position a segment writes, if the segment is one and the item is there. -/
def item? (items : List Json) (segment : String) : Except IndexError (Option Json) :=
  if isIndex segment then do
    return items[← index segment]?
  else
    return none

/-- One step into a document, by a segment as it stands. -/
def step (ref : String) (current : Json) (segment : String) : Except LookupError Json :=
  match current with
  | .object members =>
    match Table.get? members segment with
    | some member => .ok member
    | none => .error (.pointer (.missingKey ref segment))
  | .array items =>
    match item? items segment with
    | .ok (some item) => .ok item
    | .ok none => .error (.pointer (.badIndex ref segment))
    | .error error => .error (.index error)
  | _ => .error (.pointer (.scalar ref segment))

/-- Follows a pointer whose segments are taken as they stand. -/
def resolve (document : Json) (ref : String) : Except LookupError Json :=
  if ref == root then
    .ok document
  else
    match segments ref with
    | .error error => .error (.pointer error)
    | .ok segments => segments.foldlM (step ref) document

/-- A segment with its escapes decoded. -/
def unescape (segment : String) : String :=
  String.ofList
    (Text.replacePair '~' '0' '~' (Text.replacePair '~' '1' '/' (Text.Percent.decode segment).toList))

/-- One step into a document, by a decoded segment. -/
def stepDecoded (ref : String) (current : Json) (segment : String) : Except LookupError Json :=
  match current with
  | .object members =>
    match Table.get? members segment with
    | some member => .ok member
    | none => .error (.pointer (.missingKey ref segment))
  | .array items =>
    match item? items segment with
    | .ok (some item) => .ok item
    | .ok none => .error (.pointer (.missingKey ref segment))
    | .error error => .error (.index error)
  | _ => .error (.pointer (.missingKey ref segment))

/-- Follows a pointer whose segments are escaped. -/
def resolveEscaped (document : Json) (ref : String) : Except LookupError Json :=
  if ref == root then
    .ok document
  else
    match path? ref with
    | none => .error (.pointer (.notLocal ref))
    | some path => ((Text.split '/' path).map unescape).foldlM (stepDecoded ref) document

end Pointer

end SchemaGuard
