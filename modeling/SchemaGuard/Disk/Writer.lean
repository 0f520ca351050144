import SchemaGuard.Disk
import SchemaGuard.Notice

/-!
# Writing modules

A module is written in one step or not at all: it is checked, then staged in a file beside its
destination, which is moved over the destination. Whatever goes wrong after staging, the staged file is
taken away again.
-/

namespace SchemaGuard.Disk

/-- Does an operation unless there is trouble, and says at which path it fails. -/
def guarded {α : Type} (disk : Disk) (trouble : Trouble) (operation : Operation) (path : String)
    (result : Except Fault α) : Except Error α :=
  match disk.amid trouble operation path result with
  | .ok value => .ok value
  | .error fault => .error ⟨fault, path⟩

/-- The names tried for a staged file. -/
def stagedName (name : String) (number : Nat) : String :=
  let digits := toString number
  let token := String.ofList (List.replicate (8 - digits.length) '0') ++ digits
  "." ++ name ++ "." ++ token ++ ".tmp"

/-- The first name for a staged file that is free in a directory. One more than there are entries is
enough to find one. -/
def freshName (disk : Disk) (directory : Location) (name : String) : String :=
  let tries := (List.range (disk.entries.length + 1)).map (stagedName name)
  (tries.find? fun tried => (disk.entry? (directory ++ [tried])).isNone).getD (stagedName name 0)

/-- Makes an empty staged file beside a destination. -/
def stage (disk : Disk) (path : Path) : Except Fault (Location × Disk) := do
  let (directory, _) ← disk.find path.parent
  let name := disk.freshName directory path.name
  if name.toList.contains '\x00' then
    throw .nullByte
  let location ← disk.step directory name
  return (location, disk.put location (.file []))

/-- Fills a staged file and moves it over its destination, or takes it away. -/
def commit (disk : Disk) (trouble : Trouble) (staged : Location) (path : Path) (content : List UInt8) :
    Disk × Option Error :=
  let result := do
    let filled ← disk.guarded trouble .fill path.text (.ok (disk.put staged (.file content)))
    filled.guarded trouble .move path.text (filled.replace staged path)
  match result with
  | .ok disk => (disk, none)
  | .error error => (disk.erase staged, some error)

/-- Writes a file by staging it. -/
def writeStaged (disk : Disk) (trouble : Trouble) (path : Path) (content : List UInt8) :
    Disk × Option Error :=
  match disk.ensureDirectories path.parent trouble with
  | (disk, some error) => (disk, some error)
  | (disk, none) =>
    match disk.guarded trouble .stage path.text (disk.stage path) with
    | .error error => (disk, some error)
    | .ok (staged, disk) => disk.commit trouble staged path content

/-- Writes a file directly. -/
def writePlain (disk : Disk) (trouble : Trouble) (path : Path) (content : List UInt8) :
    Disk × Option Error :=
  match disk.ensureDirectories path.parent trouble with
  | (disk, some error) => (disk, some error)
  | (disk, none) =>
    match disk.guarded trouble .fill path.text (disk.write path content) with
    | .error error => (disk, some error)
    | .ok disk => (disk, none)

end SchemaGuard.Disk
