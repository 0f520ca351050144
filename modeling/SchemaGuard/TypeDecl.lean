import SchemaGuard.Literal

/-!
# Type declarations

The types that are emitted for schemas. A declaration names a dictionary type by its fields or is a
synonym of a type expression. Type expressions refer to declared types, to the builtin types and to
`Any` by name.
-/

namespace SchemaGuard

/-- A constant of a literal type. -/
inductive Constant where
  | string (value : String)
  | int (value : Int)
  | bool (value : Bool)
deriving DecidableEq

inductive TypeExpr where
  | name (name : String)
  | none
  | literal (constants : List Constant)
  | list (item : TypeExpr)
  | dict (value : TypeExpr)
  | tuple (items : List TypeExpr) (rest : Option TypeExpr)
  | union (left right : TypeExpr)

namespace TypeExpr

def any : TypeExpr := name "Any"

mutual

/-- Whether two expressions are written alike. -/
def beq : TypeExpr → TypeExpr → Bool
  | name a, name b => a == b
  | none, none => true
  | literal a, literal b => a == b
  | list a, list b => beq a b
  | dict a, dict b => beq a b
  | tuple a ra, tuple b rb => beqItems a b && beqRest ra rb
  | union a c, union b d => beq a b && beq c d
  | _, _ => false

def beqItems : List TypeExpr → List TypeExpr → Bool
  | [], [] => true
  | a :: as, b :: bs => beq a b && beqItems as bs
  | _, _ => false

def beqRest : Option TypeExpr → Option TypeExpr → Bool
  | .none, .none => true
  | some a, some b => beq a b
  | _, _ => false

end

instance : BEq TypeExpr := ⟨beq⟩

/-- The first of each group of like expressions. -/
def distinct (types : List TypeExpr) : List TypeExpr :=
  types.foldl (fun found type => if found.contains type then found else found ++ [type]) []

/-- The union of some types, each taken once. Nothing to choose from, or `Any` among the choices, is
`Any`. -/
def unionOf (types : List TypeExpr) : TypeExpr :=
  let types := distinct types
  if types.contains any then
    any
  else
    match types with
    | [] => any
    | first :: others => others.foldl union first

end TypeExpr

/-- A field of a dictionary type. -/
structure Field where
  name : String
  type : TypeExpr
  required : Bool

inductive TypeDecl where
  | dict (name : String) (fields : List Field)
  | synonym (name : String) (type : TypeExpr)

namespace TypeDecl

def name : TypeDecl → String
  | dict name _ => name
  | synonym name _ => name

end TypeDecl

end SchemaGuard
