import SchemaGuard.Proofs.Meaning
import SchemaGuard.Text.Normal
import SchemaGuard.TypeDecl.OfNode
import SchemaGuard.TypeDecl.Printer

/-!
# Values of types

`Inhabits declared type value` says that a value is of a type. It is told by the type alone: arrays
are lists and tuples, a constant stands for every value that is the same as it, and a name stands
for its declaration, or for a builtin type where nothing is declared under it. What a name is
declared as is a parameter, since declarations may refer to each other; the relation is inductive,
so a value is of a recursive type for finitely many reasons. A type that is made with a name under
which something else is declared has no values.

The members of a dictionary type are told by the keys of its fields, which are not always their
names: a class binds its attributes as all names are bound, by their normal forms, and those that are
private to it under its own name as well (`TypeDecl.keyOf`).

The rest of this file is about types that have no parts to compile: those of constants, of lists of
constants, of type names, and unions.
-/

namespace SchemaGuard

/-- The value that a constant stands for. -/
def Constant.value : Constant → Value
  | string value => .string value
  | int value => .number (.int value)
  | bool value => .bool value

/-! ## Keys -/

/-- A name as a class binds it. One that begins with two underscores, and does not end with them, is
private: the name of the class goes before it, without the underscores that this begins with. -/
def Name.insideClass (own name : String) : String :=
  let stem := (Text.normalForm own).toList.dropWhile (· == '_')
  let marks := ['_', '_']
  let isPrivate := marks.isPrefixOf name.toList && !marks.isSuffixOf name.toList
  if isPrivate && !stem.isEmpty then String.ofList ('_' :: stem ++ name.toList) else name

namespace TypeDecl

/-- The key that a field of a dictionary type stands for. -/
def keyOf (own : String) (fields : List Field) (field : Field) : String :=
  if isClass fields then Name.insideClass own (Text.normalForm field.name) else field.name

/-- The field under a key, the last one if there are several. -/
def fieldAt? (own : String) (fields : List Field) (key : String) : Option Field :=
  (fields.filter fun field => keyOf own fields field == key).getLast?

theorem mem_of_fieldAt? {own key : String} {fields : List Field} {field : Field}
    (h : fieldAt? own fields key = some field) : field ∈ fields ∧ keyOf own fields field = key := by
  obtain ⟨hmem, hkey⟩ := List.mem_filter.1 (List.mem_of_getLast? h)
  exact ⟨hmem, eq_of_beq hkey⟩

end TypeDecl

/-! ## Values -/

/-- **A value is of a type.** -/
inductive Inhabits (declared : String → Option TypeDecl) : TypeExpr → Value → Prop where
  | any {value : Value} (hfree : declared "Any" = none) : Inhabits declared .any value
  | text {text : String} (hfree : declared "str" = none) :
      Inhabits declared (.name "str") (.string text)
  | number {number : Number} (hfree : declared "float" = none) :
      Inhabits declared (.name "float") (.number number)
  | truth {truth : Bool} (hfree : declared "bool" = none) :
      Inhabits declared (.name "bool") (.bool truth)
  | none : Inhabits declared .none .null
  | literal {constants : List Constant} {constant : Constant} {value : Value}
      (hfree : declared "Literal" = none) (hmem : constant ∈ constants)
      (hsame : value.same constant.value = true) : Inhabits declared (.literal constants) value
  | list {type : TypeExpr} {value : Value} {items : List Value} (hfree : declared "list" = none)
      (helements : value.elements? = some items)
      (hitems : ∀ item ∈ items, Inhabits declared type item) : Inhabits declared (.list type) value
  | dict {type : TypeExpr} {value : Value} {members : List (String × Value)}
      (hfree : declared "dict" = none) (hkeys : declared "str" = none)
      (hmembers : value.members? = some members)
      (hmember : ∀ name member, Table.get? members name = some member →
        Inhabits declared type member) :
      Inhabits declared (.dict type) value
  | tuple {types : List TypeExpr} {value : Value} {items : List Value}
      (hfree : declared "tuple" = none) (helements : value.elements? = some items)
      (hlength : items.length = types.length)
      (hitems : ∀ (position : Nat) type item, types[position]? = some type →
        items[position]? = some item → Inhabits declared type item) :
      Inhabits declared (.tuple types .none) value
  | tupleRest {types : List TypeExpr} {rest : TypeExpr} {value : Value} {items : List Value}
      (hfree : declared "tuple" = none) (helements : value.elements? = some items)
      (hlength : types.length ≤ items.length)
      (hitems : ∀ (position : Nat) type item, types[position]? = some type →
        items[position]? = some item → Inhabits declared type item)
      (hrest : ∀ item ∈ items.drop types.length, Inhabits declared rest item) :
      Inhabits declared (.tuple types (some rest)) value
  | left {left right : TypeExpr} {value : Value} (h : Inhabits declared left value) :
      Inhabits declared (.union left right) value
  | right {left right : TypeExpr} {value : Value} (h : Inhabits declared right value) :
      Inhabits declared (.union left right) value
  | synonym {name own : String} {type : TypeExpr} {value : Value}
      (hdeclared : declared name = some (.synonym own type)) (h : Inhabits declared type value) :
      Inhabits declared (.name name) value
  | record {name own : String} {fields : List Field} {value : Value}
      {members : List (String × Value)} (hdeclared : declared name = some (.dict own fields))
      (hfree : declared "TypedDict" = none)
      (hmarks : ∀ field ∈ fields, field.required = false → declared "NotRequired" = none)
      (hmembers : value.members? = some members)
      (hrequired : ∀ key field, TypeDecl.fieldAt? own fields key = some field →
        field.required = true → Table.has members key = true)
      (hfields : ∀ key field, TypeDecl.fieldAt? own fields key = some field →
        ∀ member, Table.get? members key = some member → Inhabits declared field.type member) :
      Inhabits declared (.name name) value

/-- Nothing is declared under the names that types are made with. -/
structure BuiltinsFree (declared : String → Option TypeDecl) : Prop where
  any : declared "Any" = none
  text : declared "str" = none
  number : declared "float" = none
  truth : declared "bool" = none
  literal : declared "Literal" = none
  list : declared "list" = none
  dict : declared "dict" = none
  tuple : declared "tuple" = none
  base : declared "TypedDict" = none
  mark : declared "NotRequired" = none

/-- Whether the values of a dictionary type have a member under a key. -/
def TypeDecl.demands (key : String) : TypeDecl → Bool
  | .dict own fields => (fieldAt? own fields key).any (·.required)
  | .synonym _ _ => false

/-- A value of a dictionary type has the members that it demands. -/
theorem Inhabits.has_of_demands {declared : String → Option TypeDecl} {name key : String}
    {declaration : TypeDecl} {value : Value} (h : Inhabits declared (.name name) value)
    (hdeclared : declared name = some declaration) (hkey : declaration.demands key = true) :
    ∃ members, value.members? = some members ∧ Table.has members key = true := by
  generalize hexpr : TypeExpr.name name = expr at h
  cases h with
  | record hother _ _ hmembers hrequired =>
    cases hexpr
    rw [hdeclared] at hother
    cases hother
    obtain ⟨field, hfield, hmarked⟩ := (Option.any_eq_true _ _).1 hkey
    exact ⟨_, hmembers, hrequired key field hfield hmarked⟩
  | synonym hother =>
    cases hexpr
    rw [hdeclared] at hother
    cases hother
    cases hkey
  | any hfree | text hfree | number hfree | truth hfree =>
    cases hexpr
    rw [hdeclared] at hfree
    cases hfree
  | none | literal | list | dict | tuple | tupleRest | left | right => cases hexpr

/-! ## Unions -/

namespace TypeExpr

mutual

theorem eq_of_beq : ∀ {a b : TypeExpr}, beq a b = true → a = b
  | .name _, .name _, h => congrArg name (LawfulBEq.eq_of_beq h)
  | .none, .none, _ => rfl
  | .literal _, .literal _, h => congrArg literal (LawfulBEq.eq_of_beq h)
  | .list _, .list _, h => congrArg list (eq_of_beq h)
  | .dict _, .dict _, h => congrArg dict (eq_of_beq h)
  | .tuple _ _, .tuple _ _, h => by
    obtain ⟨hitems, hrest⟩ := Bool.and_eq_true_iff.1 h
    rw [eq_of_beqItems hitems, eq_of_beqRest hrest]
  | .union _ _, .union _ _, h => by
    obtain ⟨hleft, hright⟩ := Bool.and_eq_true_iff.1 h
    rw [eq_of_beq hleft, eq_of_beq hright]

theorem eq_of_beqItems : ∀ {as bs : List TypeExpr}, beqItems as bs = true → as = bs
  | [], [], _ => rfl
  | _ :: _, _ :: _, h => by
    obtain ⟨hfirst, hothers⟩ := Bool.and_eq_true_iff.1 h
    rw [eq_of_beq hfirst, eq_of_beqItems hothers]

theorem eq_of_beqRest : ∀ {a b : Option TypeExpr}, beqRest a b = true → a = b
  | .none, .none, _ => rfl
  | some _, some _, h => congrArg some (eq_of_beq h)

end

theorem mem_of_contains {types : List TypeExpr} {type : TypeExpr} (h : types.contains type = true) :
    type ∈ types := by
  obtain ⟨other, hmem, hbeq⟩ := List.contains_iff_exists_mem_beq.1 h
  rw [eq_of_beq hbeq]
  exact hmem

/-- Taking each type once loses none. -/
theorem mem_distinct {types : List TypeExpr} {type : TypeExpr} (h : type ∈ types) :
    type ∈ distinct types := by
  have hkept : ∀ (types found : List TypeExpr), type ∈ found ∨ type ∈ types →
      type ∈ types.foldl (fun found type => if found.contains type then found else found ++ [type])
        found := by
    intro types
    induction types with
    | nil => exact fun found h => h.resolve_right List.not_mem_nil
    | cons next types ih =>
      intro found h
      rw [List.foldl_cons]
      refine ih _ ?_
      rcases h with hfound | hmem
      · refine .inl ?_
        split
        · exact hfound
        · exact List.mem_append_left _ hfound
      · rcases List.mem_cons.1 hmem with rfl | hmem
        · refine .inl ?_
          split
          · exact mem_of_contains ‹_›
          · exact List.mem_append_right _ (List.mem_singleton_self _)
        · exact .inr hmem
  exact hkept types [] (.inr h)

end TypeExpr

section Types

variable {declared : String → Option TypeDecl}

variable {value : Value}

theorem inhabits_foldl_union {types : List TypeExpr} {first : TypeExpr}
    (h : Inhabits declared first value ∨ ∃ type ∈ types, Inhabits declared type value) :
    Inhabits declared (types.foldl .union first) value := by
  induction types generalizing first with
  | nil => simpa using h
  | cons next types ih =>
    rw [List.foldl_cons]
    refine ih ?_
    rcases h with hfirst | ⟨type, hmem, htype⟩
    · exact .inl (.left hfirst)
    · rcases List.mem_cons.1 hmem with rfl | hmem
      · exact .inl (.right htype)
      · exact .inr ⟨type, hmem, htype⟩

/-- A value of one of some types is of their union; a union of no types is no restriction. -/
theorem inhabits_unionOf (hany : declared "Any" = none) {types : List TypeExpr}
    (h : types = [] ∨ ∃ type ∈ types, Inhabits declared type value) :
    Inhabits declared (.unionOf types) value := by
  unfold TypeExpr.unionOf
  dsimp only
  split
  · exact .any hany
  · split
    · exact .any hany
    · rename_i first others hdistinct
      rcases h with rfl | ⟨type, hmem, htype⟩
      · cases hdistinct
      · have hmem := TypeExpr.mem_distinct hmem
        rw [hdistinct] at hmem
        refine inhabits_foldl_union ?_
        rcases List.mem_cons.1 hmem with rfl | hmem
        · exact .inl htype
        · exact .inr ⟨type, hmem, htype⟩

/-! ## Constants -/

theorem Constant.value_of_constant? {json : Json} {constant : Constant}
    (h : TypeDecl.constant? json = some constant) : constant.value = .ofJson json := by
  cases json with
  | number number => cases number <;> cases h; rfl
  | bool | string => cases h; rfl
  | null | array | object => cases h

theorem eq_null_of_same (h : value.same .null = true) : value = .null := by
  cases value with
  | null => rfl
  | _ => cases h

theorem exists_number_of_same {number : Number} (h : value.same (.number number) = true) :
    ∃ own, value = .number own := by
  cases value with
  | number own => exact ⟨own, rfl⟩
  | _ => cases h

theorem inhabits_ofConst (hfree : BuiltinsFree declared) {expected : Json}
    (h : value.same (.ofJson expected) = true) :
    Inhabits declared (TypeDecl.ofConst expected) value := by
  unfold TypeDecl.ofConst
  split
  · rename_i constant hconstant
    refine .literal hfree.literal (List.mem_singleton_self constant) ?_
    rw [Constant.value_of_constant? hconstant]
    exact h
  · cases expected with
    | null =>
      rw [eq_null_of_same h]
      exact .none
    | number number =>
      obtain ⟨own, rfl⟩ := exists_number_of_same h
      cases number with
      | int value => rename_i hnone; cases hnone
      | float value => exact .number hfree.number
    | bool | string => rename_i hnone; cases hnone
    | array | object => exact .any hfree.any

theorem Value.ofItems_eq_map (items : List Json) :
    Value.ofItems items = items.map Value.ofJson := by
  induction items with
  | nil => rfl
  | cons item items ih => rw [Value.ofItems, ih, List.map_cons]

theorem inhabits_ofEnum (hfree : BuiltinsFree declared) {allowed : List Json}
    (h : ∃ expected ∈ Value.ofItems allowed, value.same expected = true) :
    Inhabits declared (TypeDecl.ofEnum allowed) value := by
  rw [Value.ofItems_eq_map] at h
  obtain ⟨_, hlisted, hsame⟩ := h
  obtain ⟨expected, hmem, rfl⟩ := List.mem_map.1 hlisted
  unfold TypeDecl.ofEnum
  split
  · exact .any hfree.any
  · rename_i hnone
    refine inhabits_unionOf hfree.any (.inr ?_)
    cases hconstant : TypeDecl.constant? expected with
    | some constant =>
      have hconstants : constant ∈ allowed.filterMap TypeDecl.constant? :=
        List.mem_filterMap.2 ⟨expected, hmem, hconstant⟩
      refine ⟨.literal (allowed.filterMap TypeDecl.constant?), ?_,
        .literal hfree.literal hconstants ?_⟩
      · rw [if_neg fun hempty => List.ne_nil_of_mem hconstants (List.isEmpty_iff.1 hempty)]
        simp
      · rw [Constant.value_of_constant? hconstant]
        exact hsame
    | none =>
      cases expected with
      | null =>
        have hany : allowed.any TypeDecl.isNull = true := List.any_eq_true.2 ⟨_, hmem, rfl⟩
        refine ⟨.none, by simp [hany], ?_⟩
        rw [eq_null_of_same hsame]
        exact .none
      | number number =>
        obtain ⟨own, rfl⟩ := exists_number_of_same hsame
        cases number with
        | int value => cases hconstant
        | float value =>
          have hany : allowed.any TypeDecl.isFloat = true := List.any_eq_true.2 ⟨_, hmem, rfl⟩
          exact ⟨.name "float", by simp [hany], .number hfree.number⟩
      | bool | string => cases hconstant
      | array | object => exact (hnone (List.any_eq_true.2 ⟨_, hmem, rfl⟩)).elim

/-! ## Type names -/

/-- The types that are known by name are those that values are tested for, and a value that passes
the test is of the type. -/
theorem inhabits_ofTypeName? (hfree : BuiltinsFree declared) {name : String} {test : Check.TypeTest}
    (htest : Check.typeTest? name = some test) (h : test.Holds value) :
    ∃ type, TypeDecl.ofTypeName? name = some type ∧ Inhabits declared type value := by
  unfold Check.typeTest? at htest
  split at htest
  · cases htest
    obtain ⟨text, rfl⟩ := h
    exact ⟨_, rfl, .text hfree.text⟩
  · cases htest
    obtain ⟨number, rfl⟩ := h
    exact ⟨_, rfl, .number hfree.number⟩
  · cases htest
    obtain ⟨number, rfl, _⟩ := h
    exact ⟨_, rfl, .number hfree.number⟩
  · cases htest
    obtain ⟨truth, rfl⟩ := h
    exact ⟨_, rfl, .truth hfree.truth⟩
  · cases htest
    cases h
    exact ⟨_, rfl, .none⟩
  · cases htest
    obtain ⟨items, helements⟩ := h
    exact ⟨_, rfl, .list hfree.list helements fun _ _ => .any hfree.any⟩
  · cases htest
    obtain ⟨members, hmembers⟩ := h
    exact ⟨_, rfl, .dict hfree.dict hfree.text hmembers fun _ _ _ => .any hfree.any⟩
  · cases htest

theorem ofTypeName?_eq_none {name : String} (h : Check.typeTest? name = none) :
    TypeDecl.ofTypeName? name = none := by
  unfold TypeDecl.ofTypeName?
  split
  iterate 7 · cases h
  · rfl

/-- A value of one of some named types is of their union. -/
theorem inhabits_ofTypeNames (hfree : BuiltinsFree declared) {types : List String}
    (h : types.filterMap Check.typeTest? = [] ∨
      ∃ test ∈ types.filterMap Check.typeTest?, test.Holds value) :
    Inhabits declared (.unionOf (types.filterMap TypeDecl.ofTypeName?)) value := by
  refine inhabits_unionOf hfree.any ?_
  rcases h with hnone | ⟨test, hmem, hholds⟩
  · refine .inl (List.filterMap_eq_nil_iff.2 fun name hname => ?_)
    exact ofTypeName?_eq_none (List.filterMap_eq_nil_iff.1 hnone name hname)
  · obtain ⟨name, hname, htest⟩ := List.mem_filterMap.1 hmem
    obtain ⟨type, htype, hinhabits⟩ := inhabits_ofTypeName? hfree htest hholds
    exact .inr ⟨type, List.mem_filterMap.2 ⟨name, hname, htype⟩, hinhabits⟩

theorem inhabits_ofPrimitive (hfree : BuiltinsFree declared) {type : Primitive}
    (h : type.Admits value) : Inhabits declared (TypeDecl.ofPrimitive type) value := by
  cases type with
  | string minLength maxLength pattern =>
    obtain ⟨text, rfl, _⟩ := h
    exact .text hfree.text
  | integer bounds =>
    obtain ⟨number, rfl, _⟩ := h
    exact .number hfree.number
  | number bounds =>
    obtain ⟨number, rfl, _⟩ := h
    exact .number hfree.number
  | boolean =>
    obtain ⟨truth, rfl⟩ := h
    exact .truth hfree.truth
  | null =>
    cases h
    exact .none

end Types

end SchemaGuard
