import SchemaGuard.Program

/-!
# The command line

Takes the files that a command line names from the disk, runs the program on them, prints what it has to
say and brings what it changed back to the disk.
-/

namespace SchemaGuard.Main

open CommandLine

/-- The paths that a run may look at. -/
def namedPaths (words : List String) : List String :=
  match Scan.ofWords words with
  | .ok scan => scan.given.map (·.value)
  | .error _ => []

/-- The paths on the way to a path, itself last. -/
def waysTo (path : Path) : List Path :=
  (List.range (path.parts.length + 1)).map fun count => { path with parts := path.parts.take count }

/-- What is at a path of the working directory. -/
def entryAt (path : String) : IO (Option Disk.Entry) := do
  let file := (← IO.currentDir) / path
  if ← file.isDir then
    return some .directory
  if !(← file.pathExists) then
    return none
  return some (.file (← IO.FS.readBinFile file).toList)

/-- Adds what is at a path, and on the way to it. -/
def withPath (disk : Disk) (text : String) : IO Disk :=
  (waysTo (.ofString text)).foldlM
    (fun disk path => do
      match disk.locate path, ← entryAt path.text with
      | .ok location, some entry => return disk.put location entry
      | _, _ => return disk)
    disk

/-- The disk as far as a run may look at it. -/
def snapshot (words : List String) : IO Disk := do
  let working := (Path.ofString (← IO.currentDir).toString).parts
  let above := (List.range (working.length + 1)).map fun count => (working.take count, Disk.Entry.directory)
  (namedPaths words).foldlM withPath ⟨above, working⟩

/-- The directories and files of one disk that another does not have. -/
def changes (before after : Disk) : List (Location × Disk.Entry) :=
  after.entries.reverse.filter fun (location, entry) => before.entry? location != some entry

/-- Brings a directory or file to the disk. -/
def bring (location : Location) (entry : Disk.Entry) : IO Unit := do
  let path := "/" ++ "/".intercalate location
  match entry with
  | .directory => IO.FS.createDirAll path
  | .file content =>
    let above := "/" ++ "/".intercalate location.dropLast
    let staged := above ++ "/" ++ Disk.stagedName (location.getLastD "") 0
    IO.FS.writeBinFile staged ⟨content.toArray⟩
    IO.FS.rename staged path

end SchemaGuard.Main

/-- Runs the program on the words of its command line. -/
def main (words : List String) : IO UInt32 := do
  let before ← SchemaGuard.Main.snapshot words
  -- No formatter is installed beside the program.
  let result :=
    SchemaGuard.Program.run SchemaGuard.Source.check none SchemaGuard.Disk.noTrouble before words
  IO.print result.stdout
  IO.eprint result.stderr
  for (location, entry) in SchemaGuard.Main.changes before result.disk do
    SchemaGuard.Main.bring location entry
  return UInt32.ofNat result.exitCode
