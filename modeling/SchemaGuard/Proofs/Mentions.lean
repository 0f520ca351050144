import SchemaGuard.Proofs.DerivedNames
import SchemaGuard.Proofs.Hoisting

/-!
# Names that types mention

Type expressions mention other types by name. Compiling a type mentions only names that are known:
those of the basic types, those of pointers, and those of declarations hoisted on the way. What is
hoisted while a name is declared has a name that extends it.

`Closes base s s'` says both of what was hoisted between two states. **Theorem (`declare_closes`).**
Declaring a name leads to such a state, in which everything that the declaration mentions is known.
As in the proof that compiling only moves on, one lemma for each way of putting computations
together carries this through, and only hoisting needs an argument of its own. A computation is
looked at with the names it was `given`, so that what an earlier part of a type mentions is not
lost while a later one is compiled.
-/

namespace SchemaGuard

/-! ## What is mentioned -/

namespace TypeExpr

mutual

/-- The types that an expression mentions by name. -/
def mentioned : TypeExpr → List String
  | name declared => [declared]
  | none => []
  | literal _ => []
  | list item => mentioned item
  | dict value => mentioned value
  | tuple items rest => mentionedIn items ++ mentionedRest rest
  | union left right => mentioned left ++ mentioned right

def mentionedIn : List TypeExpr → List String
  | [] => []
  | item :: items => mentioned item ++ mentionedIn items

def mentionedRest : Option TypeExpr → List String
  | .none => []
  | some rest => mentioned rest

end

@[simp]
theorem mentionedIn_eq (items : List TypeExpr) : mentionedIn items = items.flatMap mentioned := by
  induction items with
  | nil => rfl
  | cons item items ih => rw [mentionedIn, ih, List.flatMap_cons]

/-- Taking each type once adds none. -/
theorem distinct_subset (types : List TypeExpr) : distinct types ⊆ types := by
  have hkept : ∀ types found : List TypeExpr,
      types.foldl (fun found type => if found.contains type then found else found ++ [type]) found ⊆
        found ++ types := by
    intro types
    induction types with
    | nil => simp
    | cons next types ih =>
      intro found
      rw [List.foldl_cons]
      refine List.Subset.trans (ih _) ?_
      split
      · exact List.append_subset.2 ⟨by simp, by simp⟩
      · simp
  exact hkept types []

theorem mentioned_foldl_union (types : List TypeExpr) (first : TypeExpr) :
    (types.foldl .union first).mentioned = first.mentioned ++ types.flatMap mentioned := by
  induction types generalizing first with
  | nil => simp
  | cons next types ih => simp [ih, mentioned]

/-- A union mentions what its members do, or `Any`. -/
theorem mentioned_unionOf {types : List TypeExpr} {known : List String} (hany : "Any" ∈ known)
    (h : ∀ type ∈ types, type.mentioned ⊆ known) : (unionOf types).mentioned ⊆ known := by
  unfold unionOf
  dsimp only
  split
  · simpa [any, mentioned] using hany
  · split
    · simpa [any, mentioned] using hany
    · rename_i first others hdistinct
      rw [mentioned_foldl_union, ← List.flatMap_cons, ← hdistinct]
      intro name hmem
      obtain ⟨type, htype, hname⟩ := List.mem_flatMap.1 hmem
      exact h type (distinct_subset types htype) hname

end TypeExpr

/-- The types that a declaration mentions by name. -/
def TypeDecl.mentioned : TypeDecl → List String
  | .dict _ fields => fields.flatMap (·.type.mentioned)
  | .synonym _ type => type.mentioned

/-- A name is another one with ASCII characters after it. -/
def Name.Extends (name base : String) : Prop := ∃ more, Text.IsAscii more ∧ name = base ++ more

namespace Name.Extends

variable {name base : String}

/-- A name starts with what it extends. -/
theorem isPrefix (h : Name.Extends name base) :
    base.toList <+: name.toList := by
  obtain ⟨more, -, rfl⟩ := h
  rw [String.toList_append]
  exact List.prefix_append _ _

theorem head_eq (h : Name.Extends name base) (hbase : base ≠ "") :
    name.toList.head? = base.toList.head? := by
  obtain ⟨more, -, rfl⟩ := h
  cases hchars : base.toList with
  | nil => exact (hbase (String.toList_eq_nil_iff.1 hchars)).elim
  | cons c cs => rw [String.toList_append, hchars, List.cons_append, List.head?_cons,
      List.head?_cons]

theorem isAscii (h : Name.Extends name base) (hbase : Text.IsAscii base) :
    Text.IsAscii name := by
  obtain ⟨more, hmore, rfl⟩ := h
  exact hbase.append hmore

end Name.Extends

/-- What follows the name of a type in that of a part of it: the name for a property, the word for
another place, or a number. -/
inductive Name.Part : String → Prop
  | property (text : String) : Part (ofText text)
  | place {word : String} (h : word ∈ ["Option", "Item", "Value", "Part"]) : Part word
  | number (n : Nat) : Part (toString n)

theorem Name.Part.isAscii {part : String} (h : Name.Part part) : Text.IsAscii part := by
  cases h with
  | property text => exact ofText_isAscii text
  | place hword =>
    have hwords : ∀ word ∈ ["Option", "Item", "Value", "Part"], Text.IsAscii word := by decide
    exact hwords part hword
  | number n => exact Text.isAscii_toString n

/-- A name is another one with the names of parts after it. -/
def Name.Continues (name base : String) : Prop :=
  ∃ parts, (∀ part ∈ parts, Name.Part part) ∧ name = base ++ String.join parts

namespace Name.Continues

variable {name base : String}

theorem refl (name : String) : Name.Continues name name := ⟨[], by simp, by simp⟩

theorem trans {middle : String} (h : Name.Continues name middle) (h' : Name.Continues middle base) :
    Name.Continues name base := by
  obtain ⟨parts, hparts, rfl⟩ := h
  obtain ⟨parts', hparts', rfl⟩ := h'
  refine ⟨parts' ++ parts, fun part hmem => ?_, by rw [String.join_append, String.append_assoc]⟩
  exact (List.mem_append.1 hmem).elim (hparts' part) (hparts part)

theorem append (base : String) {part : String} (h : Name.Part part) :
    Name.Continues (base ++ part) base := ⟨[part], by simpa using h, by simp⟩

theorem freeName (registry : Registry) (base : String) :
    Name.Continues (registry.freeName base) base := by
  unfold Registry.freeName
  dsimp only
  cases hfound : (List.map (Registry.candidate base) _).find? registry.isFree with
  | none => exact refl base
  | some name =>
    obtain ⟨n, -, rfl⟩ := List.mem_map.1 (List.mem_of_find?_eq_some hfound)
    cases n with
    | zero => exact refl base
    | succ n => exact append base (.number _)

theorem extends_base (h : Name.Continues name base) : Name.Extends name base := by
  obtain ⟨parts, hparts, rfl⟩ := h
  refine ⟨String.join parts, fun c hc => ?_, rfl⟩
  rw [String.toList_join] at hc
  obtain ⟨part, hmem, hc⟩ := List.mem_flatMap.1 hc
  exact (hparts part hmem).isAscii c hc

end Name.Continues

namespace TypeDecl

/-! ## What is known -/

/-- The names in type expressions that no schema gives. -/
def basicNames : List String := ["Any", "str", "float", "bool"]

/-- A name is that of a basic type, of a pointer's type, or of a hoisted declaration. -/
def Progress.Knows (s : Progress) (type : String) : Prop :=
  type ∈ basicNames ∨ (∃ pointer, s.registry.typeName? pointer = some type) ∨
    type ∈ s.hoisted.map TypeDecl.name

variable {s s' : Progress} {type : String}

theorem Progress.Knows.mono (h : s.Knows type) (htypes : s'.registry.types = s.registry.types)
    (hhoisted : s.hoisted ⊆ s'.hoisted) : s'.Knows type := by
  rcases h with hbasic | ⟨pointer, hpointer⟩ | hmem
  · exact .inl hbasic
  · refine .inr (.inl ⟨pointer, ?_⟩)
    rw [Registry.typeName?, htypes]
    exact hpointer
  · exact .inr (.inr (List.map_subset _ hhoisted hmem))

theorem Later.knows (h : Later s s') (hknown : s.Knows type) : s'.Knows type := by
  obtain ⟨added, hadded, -⟩ := h.hoisted
  refine hknown.mono h.grown.types_eq ?_
  rw [hadded]
  exact List.subset_append_left _ _

/-- What was hoisted between two states has names that extend a base, and mentions only names that
are known in the end. -/
structure Closes (base : String) (s s' : Progress) : Prop where
  later : Later s s'
  added : ∃ added, s'.hoisted = s.hoisted ++ added ∧ ∀ declaration ∈ added,
    Name.Continues declaration.name base ∧ ∀ type ∈ declaration.mentioned, s'.Knows type

namespace Closes

variable {base longer : String} {s t u : Progress}

/-- Nothing was hoisted. -/
theorem of_later (h : Later s t) (hhoisted : t.hoisted = s.hoisted) : Closes base s t :=
  ⟨h, [], by simp [hhoisted], by simp⟩

theorem trans (h : Closes base s t) (h' : Closes base t u) : Closes base s u := by
  obtain ⟨added, hadded, hclosed⟩ := h.added
  obtain ⟨added', hadded', hclosed'⟩ := h'.added
  refine ⟨h.later.trans h'.later, added ++ added', by rw [hadded', hadded, List.append_assoc], ?_⟩
  intro declaration hmem
  rcases List.mem_append.1 hmem with hmem | hmem
  · obtain ⟨hname, hknown⟩ := hclosed declaration hmem
    exact ⟨hname, fun type htype => h'.later.knows (hknown type htype)⟩
  · exact hclosed' declaration hmem

theorem of_continues (h : Closes longer s t) (hbase : Name.Continues longer base) :
    Closes base s t := by
  obtain ⟨added, hadded, hclosed⟩ := h.added
  exact ⟨h.later, added, hadded, fun declaration hmem =>
    ⟨(hclosed declaration hmem).1.trans hbase, (hclosed declaration hmem).2⟩⟩

end Closes

/-! ## Computations that mention what is known -/

/-- Where the given names are known, so are those of every result, and what is hoisted on the way
is closed. -/
def Knowing {α : Type} (given : List String) (base : String) (x : Compile α)
    (names : α → List String) : Prop :=
  ∀ s a s', (∀ name ∈ given, s.Knows name) → Gives x s a s' →
    Closes base s s' ∧ ∀ name ∈ names a, s'.Knows name

namespace Knowing

variable {α β : Type} {given : List String} {base longer : String} {names : α → List String}
  {names' : β → List String} {x : Compile α} {f : α → Compile β} {elements : List α}

theorem pure {a : α} (h : names a ⊆ basicNames ++ given) :
    Knowing given base (Pure.pure a : Compile α) names := by
  intro s b s' hgiven hgives
  obtain ⟨rfl, rfl⟩ := Gives.pure_iff.1 hgives
  refine ⟨.of_later (.refl _) rfl, fun name hname => ?_⟩
  rcases List.mem_append.1 (h hname) with hbasic | hmem
  · exact .inl hbasic
  · exact hgiven name hmem

theorem throw (error : EmitError) :
    Knowing given base (MonadExcept.throw error : Compile α) names := by
  intro s a s' _ hgives
  exact (Gives.throw_iff.1 hgives).elim

/-- A computation that hoists nothing, and whose result mentions nothing. -/
theorem of_moves (hmoves : Moves x) (hhoisted : ∀ s a s', Gives x s a s' → s'.hoisted = s.hoisted) :
    Knowing given base x fun _ => [] := by
  intro s a s' _ hgives
  exact ⟨.of_later (hmoves _ _ _ hgives) (hhoisted _ _ _ hgives), by simp⟩

theorem weaken (h : Knowing [] longer x names) (hbase : Name.Continues longer base) :
    Knowing given base x names := by
  intro s a s' _ hgives
  obtain ⟨hcloses, hknown⟩ := h s a s' (by simp) hgives
  exact ⟨hcloses.of_continues hbase, hknown⟩

theorem bind (hx : Knowing given base x names)
    (hf : ∀ a, Knowing (names a ++ given) base (f a) names') :
    Knowing given base (x >>= f) names' := by
  intro s b s'' hgiven hgives
  obtain ⟨a, s', ha, hb⟩ := Gives.bind_iff.1 hgives
  obtain ⟨hfirst, hnames⟩ := hx s a s' hgiven ha
  obtain ⟨hsecond, hnames'⟩ := hf a s' b s'' (fun name hmem => by
    rcases List.mem_append.1 hmem with hmem | hmem
    · exact hnames name hmem
    · exact hfirst.later.knows (hgiven name hmem)) hb
  exact ⟨hfirst.trans hsecond, hnames'⟩

theorem mapM (names' : β → List String) (hf : ∀ a given, Knowing given base (f a) names') :
    Knowing given base (elements.mapM f) (·.flatMap names') := by
  induction elements generalizing given with
  | nil => exact .pure (by simp)
  | cons a elements ih =>
    rw [List.mapM_cons]
    refine .bind (hf a given) fun b => .bind ih fun bs => .pure ?_
    intro name hmem
    simp only [List.flatMap_cons, List.mem_append] at hmem ⊢
    tauto

theorem foldlM {f : β → α → Compile β} (hf : ∀ b a given, Knowing given base (f b a) fun _ => [])
    (start : β) : Knowing given base (elements.foldlM f start) fun _ => [] := by
  induction elements generalizing start given with
  | nil => exact .pure (by simp)
  | cons a elements ih =>
    rw [List.foldlM_cons]
    exact .bind (hf start a given) fun next => ih next

theorem note (notice : Notice) : Knowing given base (note notice) fun _ => [] := by
  refine of_moves (.note notice) fun s a s' hgives => ?_
  rw [Gives.modify_iff.1 hgives]

theorem notes (notices : List Notice) :
    Knowing given base (notices.forM TypeDecl.note) fun _ => [] := by
  induction notices generalizing given with
  | nil => exact .pure (by simp)
  | cons notice notices ih => exact Knowing.bind (.note notice) fun _ => ih

theorem expand (place : Place) (opened : List String) (ref path : String) :
    Knowing given base (expand place opened ref path) fun _ => [] := by
  unfold TypeDecl.expand
  refine .bind (.notes _) fun _ => ?_
  split
  · exact .pure (by simp)
  · exact .throw _

theorem moves (h : Knowing [] base x names) : Moves x :=
  fun s a s' hgives => (h s a s' (by simp) hgives).1.later

/-- What stands for a pointer with a name is known. -/
theorem get_typeName {f : Progress → Compile α} (target : String)
    (h : ∀ s, Knowing ((s.registry.typeName? target).toList ++ given) base (f s) names) :
    Knowing given base (MonadState.get >>= f) names := by
  intro s a s' hgiven hgives
  obtain ⟨_, _, hget, hf⟩ := Gives.bind_iff.1 hgives
  obtain ⟨rfl, rfl⟩ := Gives.get_iff.1 hget
  refine h _ _ a s' (fun name hmem => ?_) hf
  rcases List.mem_append.1 hmem with hmem | hmem
  · exact .inr (.inl ⟨target, Option.mem_toList.1 hmem⟩)
  · exact hgiven name hmem

end Knowing

/-! ## Types without parts -/

variable {name : String}

theorem mentioned_any (given : List String) : TypeExpr.any.mentioned ⊆ basicNames ++ given :=
  List.cons_subset.2 ⟨List.mem_append_left _ (by decide), List.nil_subset _⟩

theorem mentioned_ofTypeName? {type : TypeExpr} (h : ofTypeName? name = some type) :
    type.mentioned ⊆ basicNames := by
  unfold ofTypeName? at h
  split at h
  all_goals cases h
  all_goals decide

theorem mentioned_ofPrimitive (type : Primitive) : (ofPrimitive type).mentioned ⊆ basicNames := by
  unfold ofPrimitive
  cases hname : ofTypeName? type.typeName with
  | none => decide
  | some type => exact mentioned_ofTypeName? hname

theorem mentioned_ofConst (value : Json) : (ofConst value).mentioned ⊆ basicNames := by
  unfold ofConst
  split
  · exact List.nil_subset _
  · split_ifs
    all_goals decide

theorem mentioned_ofEnum (values : List Json) : (ofEnum values).mentioned ⊆ basicNames := by
  unfold ofEnum
  split
  · decide
  · refine TypeExpr.mentioned_unionOf (by decide) fun type hmem => ?_
    simp only [List.mem_append, List.mem_ite_nil_left, List.mem_ite_nil_right,
      List.mem_singleton] at hmem
    rcases hmem with (⟨-, rfl⟩ | ⟨-, rfl⟩) | ⟨-, rfl⟩
    · exact List.nil_subset _
    · decide
    · decide

/-! ## All compilations -/

variable {declaration : TypeDecl}

/-- Claiming a fresh name, going on from there, and adding a declaration of that name. -/
theorem Closes.hoist {t : Progress} {base pointer : String}
    (hlater : Later s { t with hoisted := t.hoisted ++ [declaration] })
    (hname : declaration.name = s.registry.freeName base) (h : Closes (s.registry.freeName base)
      { s with registry := (s.registry.claimUnique base pointer).2 } t)
    (hknown : ∀ type ∈ declaration.mentioned, t.Knows type) :
    Closes base s { t with hoisted := t.hoisted ++ [declaration] } := by
  have hkept : ∀ type, t.Knows type →
      Progress.Knows { t with hoisted := t.hoisted ++ [declaration] } type := by
    intro type htype
    exact htype.mono rfl (List.subset_append_left _ _)
  obtain ⟨added, hadded, hclosed⟩ := h.added
  refine ⟨hlater, added ++ [declaration], by simp [hadded], fun other hmem => ?_⟩
  rcases List.mem_append.1 hmem with hmem | hmem
  · obtain ⟨hcontinues, hother⟩ := hclosed other hmem
    exact ⟨hcontinues.trans (.freeName _ _), fun type htype => hkept type (hother type htype)⟩
  · obtain rfl := List.mem_singleton.1 hmem
    exact ⟨hname ▸ .freeName _ _, fun type htype => hkept type (hknown type htype)⟩

/-- All functions that compile types mention what is known, at some fuel. -/
structure AllClose (place : Place) (fuel : Nat) : Prop where
  declare : ∀ opened node name, Knowing [] name (declare place fuel opened node name) mentioned
  hoist : ∀ opened properties base,
    Knowing [] base (hoist place fuel opened properties base) TypeExpr.mentioned
  dictOf : ∀ opened name properties,
    Knowing [] name (dictOf place fuel opened name properties) mentioned
  typeOf : ∀ opened node base,
    Knowing [] base (typeOf place fuel opened node base) TypeExpr.mentioned
  typesOf : ∀ opened base nodes,
    Knowing [] base (typesOf place fuel opened base nodes) (·.flatMap TypeExpr.mentioned)
  propertiesOf : ∀ opened node base,
    Knowing [] base (propertiesOf place fuel opened node) fun _ => []
  merge : ∀ opened branches base, Knowing [] base (merge place fuel opened branches) fun _ => []
  intersect : ∀ opened path branches base,
    Knowing [] base (intersect place fuel opened path branches base) TypeExpr.mentioned

variable {place : Place} {fuel : Nat}

/-- One more unit of fuel: each function is put together from functions that are closed. -/
theorem AllClose.succ (ih : AllClose place fuel) : AllClose place (fuel + 1) where
  declare opened node name := by
    rw [TypeDecl.declare.eq_def]
    dsimp only
    split
    · exact ih.dictOf _ _ _
    · refine .bind (ih.merge _ _ _) fun merged => ?_
      split
      · exact (ih.dictOf _ _ _).weaken (.refl _)
      · exact .bind ((ih.intersect _ _ _ _).weaken (.refl _)) fun _ => .pure (by simp [mentioned])
    · exact .bind (ih.typeOf _ _ _) fun _ => .pure (by simp [mentioned])
  hoist opened properties base := by
    intro s type s' _ h
    obtain ⟨declaration, t, hdict, rfl, rfl⟩ := hoist_gives h
    obtain ⟨fields, rfl⟩ := dictOf_gives hdict
    obtain ⟨hcloses, hknown⟩ := ih.dictOf _ _ _ _ _ _ (by simp) hdict
    refine ⟨.hoist (.hoist _ _ _ hcloses.later) rfl hcloses hknown, fun name hname => ?_⟩
    obtain rfl := List.mem_singleton.1 hname
    exact .inr (.inr (by simp [TypeDecl.name]))
  dictOf opened name properties := by
    unfold TypeDecl.dictOf
    refine .bind (.mapM (·.type.mentioned) fun property given => ?_) fun fields =>
      .pure (by simp [mentioned])
    exact .bind ((ih.typeOf _ _ _).weaken (.append _ (.property _))) fun type =>
      .pure (by simp)
  typeOf opened node base := by
    unfold TypeDecl.typeOf
    split
    · exact .pure (mentioned_any _)
    · exact .pure (by simpa using mentioned_ofConst _)
    · exact .pure (by simpa using mentioned_ofEnum _)
    · refine .bind (ih.merge _ _ _) fun merged => ?_
      split
      · exact (ih.hoist _ _ _).weaken (.refl _)
      · exact (ih.intersect _ _ _ _).weaken (.refl _)
    · refine .bind ((ih.typesOf _ _ _).weaken (.append _ (.place (by decide)))) fun types => .pure ?_
      refine TypeExpr.mentioned_unionOf (by simp [basicNames]) fun type hmem name hname => ?_
      simp only [List.mem_append, List.mem_flatMap]
      exact .inr (.inl ⟨type, hmem, hname⟩)
    · rename_i target
      refine .get_typeName target fun progress => ?_
      split
      · rename_i hname
        exact .pure (by simp [hname, TypeExpr.mentioned])
      · refine .bind (.expand _ _ _ _) fun resolved => ?_
        split
        · exact .pure (mentioned_any _)
        · exact (ih.typeOf _ _ _).weaken (.refl _)
    · exact .pure (by simpa using mentioned_ofPrimitive _)
    · refine .pure (TypeExpr.mentioned_unionOf (by decide) fun type hmem => ?_)
      obtain ⟨name, -, hname⟩ := List.mem_filterMap.1 hmem
      simpa using mentioned_ofTypeName? hname
    · dsimp only
      split
      · refine .bind ((ih.typesOf _ _ _).weaken (.append _ (.place (by decide)))) fun elements => ?_
        split
        · exact .pure (by simp [TypeExpr.mentioned, TypeExpr.mentionedRest])
        · refine .bind ((ih.typeOf _ _ _).weaken (.append _ (.place (by decide)))) fun rest => .pure ?_
          split
          · simp [TypeExpr.mentioned]
          · intro name hmem
            simp only [TypeExpr.mentioned, TypeExpr.mentionedIn_eq, TypeExpr.mentionedRest,
              List.mem_append] at hmem ⊢
            tauto
      · split
        · exact .bind ((ih.typeOf _ _ _).weaken (.append _ (.place (by decide)))) fun _ =>
            .pure (by simp [TypeExpr.mentioned])
        · exact .pure (mentioned_any _)
    · exact ih.hoist _ _ _
    · exact .bind ((ih.typeOf _ _ _).weaken (.append _ (.place (by decide)))) fun _ =>
        .pure (by simp [TypeExpr.mentioned])
    · exact .pure (mentioned_any _)
  typesOf opened base nodes := by
    unfold TypeDecl.typesOf
    exact .mapM _ fun _ _ => (ih.typeOf _ _ _).weaken (.append _ (.number _))
  propertiesOf opened node base := by
    cases node with
    | combinator origin kind branches =>
      cases kind with
      | allOf => exact ih.merge _ _ _
      | oneOf => exact .pure (by simp)
      | anyOf => exact .pure (by simp)
    | ref origin target =>
      rw [propertiesOf_ref]
      split
      · exact .throw _
      · split
        · exact ih.propertiesOf _ _ _
        · exact .pure (by simp)
        · exact .throw _
        · exact .throw _
    | object origin properties required additional limits => exact .pure (by simp)
    | unknown | const | enum | primitive | union | array => exact .pure (by simp)
  merge opened branches base := by
    unfold TypeDecl.merge
    refine .bind (.foldlM (fun merged branch given => ?_) none) fun _ => .pure (by simp)
    refine .bind ((ih.propertiesOf _ _ _).weaken (.refl _)) fun properties => ?_
    split
    · dsimp only
      split
      · exact .bind (.note _) fun _ => .pure (by simp)
      · exact .pure (by simp)
    · exact .pure (by simp)
  intersect opened path branches base := by
    unfold TypeDecl.intersect
    refine .bind (.mapM TypeExpr.mentioned fun branch _ =>
      (ih.typeOf _ _ _).weaken ((Name.Continues.append _ (.number _)).trans
        (.append _ (.place (by decide))))) fun types => ?_
    split
    · rename_i type hdistinct
      have hmem : type ∈ types := TypeExpr.distinct_subset types (by simp [hdistinct])
      refine .pure fun name hname => ?_
      simp only [List.mem_append, List.mem_flatMap]
      exact .inr (.inl ⟨type, hmem, hname⟩)
    · exact .pure (mentioned_any _)
    · exact .bind (.note _) fun _ => .pure (mentioned_any _)

theorem allClose (place : Place) (fuel : Nat) : AllClose place fuel := by
  induction fuel with
  | zero =>
    constructor
    all_goals
      intros
      simp only [TypeDecl.declare, TypeDecl.hoist, TypeDecl.dictOf, TypeDecl.typeOf,
        TypeDecl.typesOf, TypeDecl.propertiesOf, TypeDecl.merge, TypeDecl.intersect]
      exact .throw _
  | succ fuel ih => exact ih.succ

/-- All functions that compile types only move on, at some fuel. -/
structure AllMove (place : Place) (fuel : Nat) : Prop where
  declare : ∀ opened node name, Moves (declare place fuel opened node name)
  dictOf : ∀ opened name properties, Moves (dictOf place fuel opened name properties)
  typeOf : ∀ opened node base, Moves (typeOf place fuel opened node base)
  typesOf : ∀ opened base nodes, Moves (typesOf place fuel opened base nodes)
  propertiesOf : ∀ opened node, Moves (propertiesOf place fuel opened node)
  merge : ∀ opened branches, Moves (merge place fuel opened branches)
  intersect : ∀ opened path branches base, Moves (intersect place fuel opened path branches base)

theorem allMove (place : Place) (fuel : Nat) : AllMove place fuel where
  declare _ _ _ := ((allClose place fuel).declare _ _ _).moves
  dictOf _ _ _ := ((allClose place fuel).dictOf _ _ _).moves
  typeOf _ _ _ := ((allClose place fuel).typeOf _ _ _).moves
  typesOf _ _ _ := ((allClose place fuel).typesOf _ _ _).moves
  propertiesOf _ _ := ((allClose place fuel).propertiesOf _ _ "").moves
  merge _ _ := ((allClose place fuel).merge _ _ "").moves
  intersect _ _ _ _ := ((allClose place fuel).intersect _ _ _ _).moves

/-- **Declaring a type is closed.** -/
theorem declare_closes {opened : List String} {node : Node}
    (h : Gives (declare place fuel opened node name) s declaration s') :
    Closes name s s' ∧ ∀ type ∈ declaration.mentioned, s'.Knows type :=
  (allClose place fuel).declare _ _ _ _ _ _ (by simp) h

end TypeDecl

end SchemaGuard
