import SchemaGuard.TypeDecl

/-!
# The text of type declarations

A dictionary type is a class when every field name can be an attribute, and a call with a dictionary
of field types otherwise; there the types are texts, so that they may refer to later declarations.
-/

namespace SchemaGuard

def Constant.text : Constant → String
  | string value => Text.quoted value
  | int value => toString value
  | bool value => Literal.ofBool value

namespace TypeExpr

def isUnion : TypeExpr → Bool
  | union _ _ => true
  | _ => false

/-- The inside of a subscript with several entries; a single entry keeps its comma. -/
def entries : List String → String
  | [] => "()"
  | [entry] => entry ++ ","
  | texts => ", ".intercalate texts

mutual

/-- The text of a type expression. Unions associate to the left. -/
def text : TypeExpr → String
  | name declared => declared
  | none => "None"
  | literal constants => "Literal[" ++ ", ".intercalate (constants.map Constant.text) ++ "]"
  | list item => "list[" ++ text item ++ "]"
  | dict value => "dict[str, " ++ text value ++ "]"
  | tuple items rest => "tuple[" ++ entries (textItems items ++ textRest rest) ++ "]"
  | union left right =>
    let second := text right
    text left ++ " | " ++ (if right.isUnion then "(" ++ second ++ ")" else second)

def textItems : List TypeExpr → List String
  | [] => []
  | item :: items => text item :: textItems items

def textRest : Option TypeExpr → List String
  | .none => []
  | some rest => ["*tuple[" ++ text rest ++ ", ...]"]

end

mutual

/-- How many brackets are inside each other in the text of a type. -/
def brackets : TypeExpr → Nat
  | name _ => 0
  | none => 0
  | literal _ => 1
  | list item => brackets item + 1
  | dict value => brackets value + 1
  | tuple items rest => max (bracketsItems items) (bracketsRest rest) + 1
  | union left right => max (brackets left) (brackets right + right.isUnion.toNat)

def bracketsItems : List TypeExpr → Nat
  | [] => 0
  | item :: items => max (brackets item) (bracketsItems items)

def bracketsRest : Option TypeExpr → Nat
  | .none => 0
  | some rest => brackets rest + 1

end

end TypeExpr

/-- The type of a field, marked when the field may be absent. -/
def Field.typeText (field : Field) : String :=
  if field.required then field.type.text else "NotRequired[" ++ field.type.text ++ "]"

/-- Whether a field name can be an attribute of a class. -/
def Field.isAttribute (field : Field) : Bool :=
  Text.isIdentifier field.name && !Text.isKeyword field.name &&
    !(['_', '_'].isPrefixOf field.name.toList)

namespace TypeDecl

/-- Whether a dictionary type with some fields is declared as a class. -/
def isClass (fields : List Field) : Bool := fields.all Field.isAttribute

/-- A field of a dictionary type given by a call. -/
def fieldEntry (field : Field) : String :=
  Text.quoted field.name ++ ": " ++ Text.quoted field.typeText

def text : TypeDecl → String
  | dict name fields =>
    if isClass fields then
      let lines := fields.map fun field => s!"{field.name}: {field.typeText}"
      let body := if lines.isEmpty then ["pass"] else lines
      "\n".intercalate (s!"class {name}(TypedDict):" :: body.map ("    " ++ ·))
    else
      s!"{name} = TypedDict({Text.quoted name}, \x7b" ++
        ", ".intercalate (fields.map fieldEntry) ++ "\x7d)"
  | synonym name type => s!"type {name} = {type.text}"

/-- Declarations one after another, two blank lines between them. -/
def textAll (declarations : List TypeDecl) : String := "\n\n\n".intercalate (declarations.map text)

end TypeDecl

end SchemaGuard
