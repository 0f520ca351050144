import SchemaGuard.Text.Split

/-!
# File paths

A path is its text cut at the slashes, less empty parts and single dots, and whether it starts at
the root. Two leading slashes, but not three, are a root of their own.
-/

namespace SchemaGuard

structure Path where
  root : String
  parts : List String
deriving DecidableEq

namespace Path

/-- The root a text starts with. -/
def rootOf : List Char → String
  | '/' :: '/' :: '/' :: _ => "/"
  | '/' :: '/' :: _ => "//"
  | '/' :: _ => "/"
  | _ => ""

def ofString (text : String) : Path :=
  { root := rootOf text.toList
    parts := (Text.split '/' text).filter fun part => !part.isEmpty && part != "." }

/-- The text of a path; a path without parts is a dot. -/
def text (path : Path) : String :=
  if path.root.isEmpty && path.parts.isEmpty then "." else path.root ++ "/".intercalate path.parts

/-- The last part. -/
def name (path : Path) : String := path.parts.getLastD ""

/-- The path without its last part. -/
def parent (path : Path) : Path := { path with parts := path.parts.dropLast }

/-- The last part up to its last dot, unless that dot is its first or last character. -/
def stem (path : Path) : String :=
  let name := path.name
  let suffix := (name.toList.reverse.takeWhile (· != '.')).length
  let dot := name.length - suffix - 1
  if suffix < name.length && 0 < suffix && 0 < dot then String.ofList (name.toList.take dot) else name

end Path

end SchemaGuard
