import SchemaGuard.Path
import SchemaGuard.Pointer
import SchemaGuard.Text.Casing

/-!
# Derived names

Names made from file names, pointers and other names. A text is cut into words at runs of dashes,
underscores and dots, each word gets a capital first letter, and the words are joined; what cannot
stand in an ASCII identifier is then dropped, and a name that would start with a digit, be a keyword
or be empty is mended.
-/

namespace SchemaGuard.Name

def isSeparator (c : Char) : Bool := c == '-' || c == '_' || c == '.'

/-- Cuts at every separator; runs of separators leave empty words. -/
def cutWords : List Char → List (List Char)
  | [] => [[]]
  | c :: rest =>
    if isSeparator c then
      [] :: cutWords rest
    else
      match cutWords rest with
      | [] => [[c]]
      | word :: words => (c :: word) :: words

/-- The words of a text. -/
def words (text : String) : List String :=
  ((cutWords text.toList).filter (!·.isEmpty)).map String.ofList

/-- The words of a text, each with a capital first letter, joined. -/
def pascalCase (text : String) : String := String.join ((words text).map Text.capitalize)

def isIdentifierChar (c : Char) : Bool := Text.isAsciiAlphanumeric c || c == '_'

/-- An ASCII identifier near to a text, and not a keyword. -/
def identifier (text : String) : String :=
  match text.toList.filter isIdentifierChar with
  | [] => "Schema"
  | c :: rest =>
    let name := String.ofList (c :: rest)
    let name := if c.isDigit then "Schema" ++ name else name
    if Text.isKeyword name then name ++ "Type" else name

/-- The type name for a text that need not be an identifier. -/
def ofText (text : String) : String := identifier (pascalCase text)

/-- The name of the function that validates a type. -/
def validator (typeName : String) : String := "validate" ++ Text.capitalize typeName

/-- The name of the function that validates a type and fails on refusal. -/
def parser (typeName : String) : String := "parse" ++ Text.capitalize typeName

/-- The type name for a schema file. -/
def ofSchemaPath (path : String) : String := ofText (Path.ofString path).stem

/-- The type name for a pointer, from its last segment. -/
def ofPointer (pointer : String) : Except PointerError String :=
  ofText <$> Pointer.lastSegment pointer

end SchemaGuard.Name
