import SchemaGuard.Path
import SchemaGuard.Text.Quoted
import SchemaGuard.Text.Utf8

/-!
# Disks

Files and directories as a table from locations to entries. A location is the list of names that
leads to it from the root, which is always a directory. Paths are resolved against a working
directory, one name at a time: everything but the last name has to be a directory that is there.
-/

namespace SchemaGuard

/-- The names that lead from the root to a place. -/
abbrev Location := List String

namespace Disk

inductive Entry where
  | directory
  | file (content : List UInt8)
deriving DecidableEq

/-- What can be wrong with a file operation. -/
inductive Fault where
  | missing
  | denied
  | busy
  | alreadyThere
  | notDirectory
  | isDirectory
  | full
  | nameTooLong
  | nullByte
deriving DecidableEq

/-- The number and text of a fault, for those that have one. -/
def Fault.code? : Fault → Option (Nat × String)
  | missing => some (2, "No such file or directory")
  | denied => some (13, "Permission denied")
  | busy => some (16, "Device or resource busy")
  | alreadyThere => some (17, "File exists")
  | notDirectory => some (20, "Not a directory")
  | isDirectory => some (21, "Is a directory")
  | full => some (28, "No space left on device")
  | nameTooLong => some (36, "File name too long")
  | nullByte => none

/-- A file operation that failed at a path. -/
structure Error where
  fault : Fault
  path : String
deriving DecidableEq

/-- The name of the kind of a failure. -/
def Error.kind (error : Error) : String :=
  match error.fault with
  | .missing => "FileNotFoundError"
  | .denied => "PermissionError"
  | .alreadyThere => "FileExistsError"
  | .notDirectory => "NotADirectoryError"
  | .isDirectory => "IsADirectoryError"
  | .nullByte => "ValueError"
  | _ => "OSError"

def Error.message (error : Error) : String :=
  match error.fault.code? with
  | some (number, text) => s!"[Errno {number}] {text}: {Text.quoted error.path}"
  | none => "embedded null byte"

end Disk

structure Disk where
  entries : List (Location × Disk.Entry)
  working : Location

namespace Disk

/-! ## Trouble -/

/-- What is done with files, one at a time. -/
inductive Operation where
  | read
  | makeDirectory
  | stage
  | fill
  | move
deriving DecidableEq

/-- The failures that come from outside, such as a full disk: what hits an operation on a path while
the disk is in some state. -/
abbrev Trouble := Operation → String → Disk → Option Fault

/-- Nothing fails from outside. -/
def noTrouble : Trouble := fun _ _ _ => none

/-- The result of an operation, unless there is trouble. -/
def amid {α : Type} (disk : Disk) (trouble : Trouble) (operation : Operation) (path : String)
    (result : Except Fault α) : Except Fault α :=
  match trouble operation path disk with
  | some fault => .error fault
  | none => result

/-! ## Entries -/

/-- What is at a location. -/
def entry? (disk : Disk) (location : Location) : Option Entry :=
  if location.isEmpty then some .directory else disk.entries.lookup location

def isDirectory (disk : Disk) (location : Location) : Bool := disk.entry? location == some .directory

/-- Puts an entry at a location, in place of what was there. -/
def put (disk : Disk) (location : Location) (entry : Entry) : Disk :=
  { disk with entries := (location, entry) :: disk.entries.filter (·.1 != location) }

/-- Takes away what is at a location. -/
def erase (disk : Disk) (location : Location) : Disk :=
  { disk with entries := disk.entries.filter (·.1 != location) }

/-! ## Paths -/

/-- The longest name, in bytes. -/
def maxName : Nat := 255

/-- The longest path, in bytes. -/
def maxPath : Nat := 4095

/-- One step from a directory. -/
def step (disk : Disk) (location : Location) (name : String) : Except Fault Location :=
  if !disk.isDirectory location then .error .notDirectory
  else if name == "." then .ok location
  else if name == ".." then .ok location.dropLast
  else if name.utf8ByteSize > maxName then .error .nameTooLong
  else .ok (location ++ [name])

/-- Follows names from a location; only the last may lead to nothing. -/
def follow (disk : Disk) : Location → List String → Except Fault Location
  | location, [] => .ok location
  | location, name :: names => do
    let next ← disk.step location name
    if names.isEmpty then return next
    if (disk.entry? next).isNone then throw .missing
    disk.follow next names

/-- Where a path starts. -/
def start (disk : Disk) (path : Path) : Location := if path.root.isEmpty then disk.working else []

/-- The location of a path, at which there may be nothing. -/
def locate (disk : Disk) (path : Path) : Except Fault Location :=
  let text := path.text
  if text.toList.contains '\x00' then .error .nullByte
  else if text.utf8ByteSize > maxPath then .error .nameTooLong
  else disk.follow (disk.start path) path.parts

/-- What is at a path. -/
def find (disk : Disk) (path : Path) : Except Fault (Location × Entry) := do
  let location ← disk.locate path
  match disk.entry? location with
  | some entry => return (location, entry)
  | none => throw .missing

/-- The names in the text of a path, single dots among them. A slash at the end asks for a directory,
as a dot after it does. -/
def namesOf (text : String) : List String :=
  let names := (Text.split '/' text).filter fun name => !name.isEmpty
  if text.toList.getLast? == some '/' then names ++ ["."] else names

/-- What is at a path that is given by its text, which is followed name by name. The empty text is no
path. -/
def inspect (disk : Disk) (text : String) : Except Fault Entry := do
  if text.isEmpty then
    throw .missing
  if text.toList.contains '\x00' then
    throw .nullByte
  if text.utf8ByteSize > maxPath then
    throw .nameTooLong
  let location ← disk.follow (disk.start (.ofString text)) (namesOf text)
  match disk.entry? location with
  | some entry => return entry
  | none => throw .missing

/-- The content of a file. -/
def read (disk : Disk) (path : Path) : Except Fault (List UInt8) := do
  match ← disk.find path with
  | (_, .file content) => return content
  | (_, .directory) => throw .isDirectory

/-! ## Changes -/

/-- Whether a path ends in the name of an entry, and not at the root or in dots. -/
def endsInName (path : Path) : Bool := path.name != "" && path.name != ".."

/-- Makes a directory whose parent is there. -/
def makeDirectory (disk : Disk) (path : Path) : Except Fault Disk := do
  let location ← disk.locate path
  if (disk.entry? location).isSome then
    throw .alreadyThere
  return disk.put location .directory

/-- Makes a directory, unless it is there. -/
def ensureDirectory (disk : Disk) (trouble : Trouble) (path : Path) : Except Fault Disk :=
  match disk.amid trouble .makeDirectory path.text (disk.makeDirectory path) with
  | .ok disk => .ok disk
  | .error fault =>
    match disk.find path with
    | .ok (_, .directory) => .ok disk
    | _ => .error fault

/-- Makes a directory, unless it is there, and says what went wrong. -/
def attemptDirectory (disk : Disk) (trouble : Trouble) (path : Path) : Disk × Option Error :=
  match disk.ensureDirectory trouble path with
  | .ok disk => (disk, none)
  | .error fault => (disk, some ⟨fault, path.text⟩)

/-- Makes a directory, whose names are given from the last to the first, and those above it. -/
def ensureReversed (disk : Disk) (trouble : Trouble) (root : String) :
    List String → Disk × Option Error
  | [] => disk.attemptDirectory trouble ⟨root, []⟩
  | name :: above =>
    let path : Path := ⟨root, (name :: above).reverse⟩
    match disk.attemptDirectory trouble path with
    | (disk, some ⟨.missing, _⟩) =>
      match disk.ensureReversed trouble root above with
      | (disk, none) => disk.attemptDirectory trouble path
      | failed => failed
    | attempted => attempted

/-- Makes a directory and those above it, unless they are there. Those that were made before something
went wrong remain. -/
def ensureDirectories (disk : Disk) (path : Path) (trouble : Trouble := noTrouble) :
    Disk × Option Error :=
  disk.ensureReversed trouble path.root path.parts.reverse

/-- Writes a file, new or in place of an old one. -/
def write (disk : Disk) (path : Path) (content : List UInt8) : Except Fault Disk := do
  let location ← disk.locate path
  if disk.isDirectory location then
    throw .isDirectory
  return disk.put location (.file content)

/-- Moves a file from a location to a path, in place of a file that is there. -/
def replace (disk : Disk) (source : Location) (path : Path) : Except Fault Disk := do
  if !endsInName path then
    throw .busy
  let location ← disk.locate path
  if disk.isDirectory location then
    throw .isDirectory
  match disk.entry? source with
  | some entry => return (disk.erase source).put location entry
  | none => throw .missing

end Disk

end SchemaGuard
