import SchemaGuard.Proofs.Merging
import SchemaGuard.Proofs.Reading

/-!
# How typing expands

Typing a node asks for the types of others, inside the same expansions of references or inside one
more: its parts, the node that a reference without a name leads to, or the properties that an
`allOf` takes from its branches. The last may come from anywhere in the document, and the references
they came through are not open any more.

The nodes are asked for in order, and the next one only if the ones before were answered. `AskedBy`
is this relation between the *questions* that come up. Typing a node settles if every chain of
questions from it comes to an end (`typeOf_settles`).
-/

namespace SchemaGuard

/-- The parts whose types make up the type of a node, an `allOf` apart. -/
def Node.typedParts : Node → List Node
  | .combinator _ .allOf _ => []
  | .combinator _ _ branches => branches
  | .array _ items leading _ =>
    (Layout.of items leading).positions ++
      match items with
      | .all item => [item]
      | _ => []
  | .object _ (some properties) _ _ _ => properties.map (·.node)
  | .object _ none _ (.schema additional) _ => [additional]
  | _ => []

theorem Node.hasPart_of_typedParts {node part : Node} (h : part ∈ node.typedParts) :
    node.HasPart part := by
  cases node with
  | combinator origin kind branches =>
    cases kind with
    | allOf => cases h
    | oneOf => exact .branch h
    | anyOf => exact .branch h
  | array origin items leading limits =>
    cases leading with
    | some nodes =>
      cases items with
      | all item =>
        rcases List.mem_append.1 h with hmem | hmem
        · exact .leading hmem
        · obtain rfl := List.mem_singleton.1 hmem
          exact .item
      | absent | each => exact .leading (by simpa [typedParts, Layout.of, Layout.positions] using h)
    | none =>
      cases items with
      | all item =>
        obtain rfl := List.mem_singleton.1 h
        exact .item
      | each nodes => exact .listed (by simpa [typedParts, Layout.of, Layout.positions] using h)
      | absent => cases h
  | object origin properties required additional limits =>
    cases properties with
    | some properties =>
      obtain ⟨property, hmem, rfl⟩ := List.mem_map.1 h
      exact .property hmem
    | none =>
      cases additional with
      | schema node =>
        obtain rfl := List.mem_singleton.1 h
        exact .additional
      | value raw => cases h
  | unknown | const | enum | ref | primitive | union => cases h

namespace TypeDecl

/-- A node to be typed, inside the expansion of some references. -/
structure Question where
  opened : List String
  node : Node

/-- A question has an answer, in some state with the given names of pointers. -/
def Answered (place : Place) (types : Table String) (question : Question) : Prop :=
  ∃ fuel base s type s', s.registry.types = types ∧
    Gives (typeOf place fuel question.opened question.node base) s type s'

/-- The nodes that a question asks for in turn, and the references that are open for them. -/
inductive Asks (place : Place) (types : Table String) : Question → List String →
    List Node → Prop where
  | parts {opened : List String} {node : Node} :
      Asks place types ⟨opened, node⟩ opened node.typedParts
  | merged {opened : List String} {origin : Origin} {branches : List Node}
      {properties : List (Property Node)}
      (hmerges : Merges place opened branches (some properties)) :
      Asks place types ⟨opened, .combinator origin .allOf branches⟩ opened (properties.map (·.node))
  | branches {opened : List String} {origin : Origin} {branches : List Node}
      (hmerges : Merges place opened branches none) :
      Asks place types ⟨opened, .combinator origin .allOf branches⟩ opened
        (branches.filter (!·.isUnknown))
  | expansion {opened : List String} {origin : Origin} {target : String} {node : Node}
      (hname : types.get? target = none) (hnew : target ∉ opened)
      (hleads : leadsTo place.document target = some node) :
      Asks place types ⟨opened, .ref origin target⟩ (target :: opened) [node]

/-- A node's turn comes: all before it have answers. -/
inductive Turn (answered : Node → Prop) : List Node → Node → Prop where
  | first {node : Node} {nodes : List Node} : Turn answered (node :: nodes) node
  | next {node other : Node} {nodes : List Node} (hanswered : answered node)
      (h : Turn answered nodes other) : Turn answered (node :: nodes) other

namespace Turn

variable {answered : Node → Prop} {nodes others : List Node} {node : Node}

theorem mem (h : Turn answered nodes node) : node ∈ nodes := by
  induction h with
  | first => exact List.mem_cons_self
  | next _ _ ih => exact List.mem_cons_of_mem _ ih

theorem append_left (h : Turn answered nodes node) : Turn answered (nodes ++ others) node := by
  induction h with
  | first => exact .first
  | next hanswered _ ih => exact .next hanswered ih

theorem append_right (hanswered : ∀ other ∈ nodes, answered other) (h : Turn answered others node) :
    Turn answered (nodes ++ others) node := by
  induction nodes with
  | nil => exact h
  | cons first nodes ih =>
    exact .next (hanswered first (by simp)) (ih fun other hmem => hanswered other (by simp [hmem]))

theorem of_append (h : Turn answered (nodes ++ others) node) :
    Turn answered nodes node ∨ (∀ other ∈ nodes, answered other) ∧ Turn answered others node := by
  induction nodes with
  | nil => exact .inr ⟨fun _ hmem => (List.not_mem_nil hmem).elim, h⟩
  | cons first nodes ih =>
    cases h with
    | first => exact .inl .first
    | next hanswered h =>
      rcases ih h with hturn | ⟨hall, hturn⟩
      · exact .inl (.next hanswered hturn)
      · exact .inr ⟨List.forall_mem_cons.2 ⟨hanswered, hall⟩, hturn⟩

end Turn

/-- Typing the second node leads to typing the first. -/
def AskedBy (place : Place) (types : Table String) (inner outer : Question) : Prop :=
  ∃ nodes, Asks place types outer inner.opened nodes ∧
    Turn (fun node => Answered place types ⟨inner.opened, node⟩) nodes inner.node

/-- Something holds of typing all nodes whose turn comes. -/
def InTurn (place : Place) (types : Table String) (opened : List String) (nodes : List Node)
    (p : Question → Prop) : Prop :=
  ∀ node, Turn (fun node => Answered place types ⟨opened, node⟩) nodes node → p ⟨opened, node⟩

/-- Typing a node settles, whatever the name of its type is made from. -/
def TypeSettles (place : Place) (types : Table String) (question : Question) : Prop :=
  ∀ base, Settles types fun fuel => typeOf place fuel question.opened question.node base

/-- Each element is typed by way of its node. -/
def TypesEach {ε β : Type} (place : Place) (opened : List String) (nodeOf : ε → Node)
    (f : Nat → ε → Compile β) : Prop :=
  ∀ element, ∃ (base : String) (finish : TypeExpr → β), ∀ fuel,
    f fuel element = typeOf place fuel opened (nodeOf element) base >>= fun type =>
      pure (finish type)

/-! ## Chains that come to an end -/

section Settling

variable {place : Place} {types : Table String} {opened : List String} {ε β : Type}
  {nodeOf : ε → Node} {f : Nat → ε → Compile β} {fuel : Nat} {s s' : Progress} {nodes : List Node}
  {origin : Origin} {elements : List ε} {properties : List (Property Node)} {branches : List Node}
  {question : Question} (base : String)

theorem TypesEach.moves (hf : TypesEach place opened nodeOf f) (fuel : Nat) (element : ε) :
    Moves (f fuel element) := by
  obtain ⟨base, finish, hrun⟩ := hf element
  rw [hrun]
  exact .bind ((allMove place fuel).typeOf _ _ _) fun _ => .pure _

theorem TypesEach.answered (hf : TypesEach place opened nodeOf f) {element : ε} {b : β}
    (hs : s.registry.types = types) (h : Gives (f fuel element) s b s') :
    Answered place types ⟨opened, nodeOf element⟩ := by
  obtain ⟨base, finish, hrun⟩ := hf element
  rw [hrun] at h
  obtain ⟨type, t, htype, _⟩ := Gives.bind_iff.1 h
  exact ⟨fuel, base, s, type, t, hs, htype⟩

theorem TypesEach.settles (hf : TypesEach place opened nodeOf f)
    (h : InTurn place types opened (elements.map nodeOf) (TypeSettles place types)) :
    Settles types fun fuel => elements.mapM (f fuel) := by
  induction elements with
  | nil => exact .pure []
  | cons element elements ih =>
    simp only [List.mapM_cons]
    obtain ⟨base, finish, hrun⟩ := hf element
    have hfirst : Settles types fun fuel => f fuel element := by
      simp only [hrun]
      exact .map (h _ .first base)
    refine .bind hfirst fun b ⟨fuel, s, s', hs, hgives⟩ => ?_
    exact .bind (ih fun node hturn => h node (.next (hf.answered hs hgives) hturn)) fun _ _ =>
      .pure _

theorem TypesEach.allAnswered (hf : TypesEach place opened nodeOf f) {bs : List β}
    (hs : s.registry.types = types) (h : Gives (elements.mapM (f fuel)) s bs s') :
    ∀ node ∈ elements.map nodeOf, Answered place types ⟨opened, node⟩ := by
  induction elements generalizing s bs with
  | nil => exact fun _ hmem => (List.not_mem_nil hmem).elim
  | cons element elements ih =>
    obtain ⟨b, t, rest, hfirst, hrest, -⟩ := Gives.mapM_cons_iff.1 h
    have ht : t.registry.types = types :=
      (hf.moves fuel element _ _ _ hfirst).grown.types_eq.trans hs
    exact List.forall_mem_cons.2 ⟨hf.answered hs hfirst, ih ht hrest⟩

theorem typesOf_each (place : Place) (opened : List String) (base : String) :
    TypesEach place opened (fun entry : Node × Nat => entry.1) fun fuel entry =>
      typeOf place fuel opened entry.1 s!"{base}{entry.2 + 1}" :=
  fun entry => ⟨s!"{base}{entry.2 + 1}", id, fun _ => (bind_pure _).symm⟩

theorem dictOf_each (place : Place) (opened : List String) (name : String) :
    TypesEach place opened (fun property : Property Node => property.node) fun fuel property => do
      let type ← typeOf place fuel opened property.node (name ++ Name.ofText property.name)
      return { name := property.name, type, required := property.required : Field } :=
  fun _ => ⟨_, _, fun _ => rfl⟩

theorem map_fst_known (branches : List Node) :
    (branches.zipIdx.filter fun (branch, _) => !branch.isUnknown).map (·.1) =
      branches.filter (!·.isUnknown) := by
  conv_rhs => rw [← List.zipIdx_map_fst 0 branches, List.filter_map]
  rfl

theorem typesOf_settles (h : InTurn place types opened nodes (TypeSettles place types)) :
    Settles types fun fuel => typesOf place fuel opened base nodes := by
  refine .of_succ ((typesOf_each place opened base).settles ?_)
  rw [List.zipIdx_map_fst]
  exact h

theorem answered_of_typesOf {base : String} {found : List TypeExpr} (hs : s.registry.types = types)
    (h : Gives (typesOf place fuel opened base nodes) s found s') :
    ∀ node ∈ nodes, Answered place types ⟨opened, node⟩ := by
  cases fuel with
  | zero => exact (Gives.throw_iff.1 h).elim
  | succ fuel =>
    have hall := (typesOf_each place opened base).allAnswered hs h
    rw [List.zipIdx_map_fst] at hall
    exact hall

theorem dictOf_settles (name : String)
    (h : InTurn place types opened (properties.map (·.node)) (TypeSettles place types)) :
    Settles types fun fuel => dictOf place fuel opened name properties :=
  .of_succ (.map ((dictOf_each place opened name).settles h))

theorem hoist_settles
    (h : InTurn place types opened (properties.map (·.node)) (TypeSettles place types)) :
    Settles types fun fuel => hoist place fuel opened properties base := by
  refine .of_succ ?_
  simp only [hoist]
  refine .bind (.of_gives fun _ => ⟨_, _, rfl, rfl⟩) fun name _ => ?_
  exact .bind (dictOf_settles name h) fun _ _ => .of_gives fun _ => ⟨_, _, rfl, rfl⟩

theorem intersect_settles (path base : String)
    (h : InTurn place types opened (branches.filter (!·.isUnknown)) (TypeSettles place types)) :
    Settles types fun fuel => intersect place fuel opened path branches base := by
  rw [← map_fst_known] at h
  refine .of_succ (.bind ((typesOf_each place opened (base ++ "Part")).settles h) fun found _ => ?_)
  split
  · exact .pure _
  · exact .pure _
  · exact .map (.note _)

theorem resolve_ne_tooDeep {output : Output} {document : Json} {ref path : String}
    {error : EmitError}
    (h : (Emit.resolve output document opened ref path).outcome = .error error) :
    error ≠ .tooDeep := by
  rintro rfl
  unfold Emit.resolve at h
  split at h
  · cases h
  · dsimp only at h
    split at h
    · cases h
    · split at h
      · cases h
      · cases h
      · cases h
      · split at h
        · cases h
        · cases h
        · cases h

theorem expand_settles (target path : String) :
    Settles types fun _ => expand place opened target path := by
  refine .bind (.notes _) fun _ _ => ?_
  split
  · exact .pure _
  · rename_i herror
    exact .throw (resolve_ne_tooDeep herror)

/-- The type of an array is made from those of its positions and of its other items. -/
theorem array_settles {items : Items Node} {leading : Option (List Node)} {limits : ArrayLimits}
    (h : InTurn place types opened (Node.array origin items leading limits).typedParts
      (TypeSettles place types)) :
    Settles types fun fuel =>
      typeOf place fuel opened (.array origin items leading limits) base := by
  have hpositions := typesOf_settles (base ++ "Item") fun node hturn => h node (.append_left hturn)
  refine .of_succ ?_
  cases items with
  | all item =>
    cases leading with
    | some nodes =>
      refine .bind hpositions fun _ ⟨fuel, s, s', hs, hgives⟩ => ?_
      have hanswered := answered_of_typesOf hs hgives
      exact .map (h item (.append_right hanswered .first) _)
    | none => exact .map (h item .first _)
  | absent =>
    cases leading with
    | some nodes => exact .map hpositions
    | none => exact .pure _
  | each nodes =>
    cases leading with
    | some _ => exact .map hpositions
    | none => exact .map hpositions

/-- A reference is a name, or its type is that of the node it is expanded to. -/
theorem ref_settles {target : String} (h : types.get? target = none → target ∉ opened →
      ∀ node, leadsTo place.document target = some node → Settles types fun fuel =>
        typeOf place fuel (target :: opened) node base) :
    Settles types fun fuel => typeOf place fuel opened (.ref origin target) base := by
  refine .of_succ (.bind (.of_gives fun _ => ⟨_, _, rfl, rfl⟩) fun progress hgot => ?_)
  obtain ⟨_, s, _, hs, hgives⟩ := hgot
  obtain ⟨rfl, -⟩ := Gives.get_iff.1 hgives
  have hlookup : progress.registry.typeName? target = types.get? target := by
    rw [Registry.typeName?, hs]
  rw [hlookup]
  cases hname : types.get? target with
  | some name => exact .pure _
  | none =>
    refine .bind (expand_settles target _) fun found hexpands => ?_
    obtain ⟨_, t, t', _, hfound⟩ := hexpands
    obtain ⟨hleads, hnew⟩ := expand_gives hfound
    cases found with
    | none => exact .pure _
    | some node => exact h hname hnew node hleads

/-- Typing an `allOf`: its merged properties are typed, or its branches are. -/
theorem allOf_settles {α : Type}
    (hread : Schema.ReadFrom place.document (.combinator origin .allOf branches))
    {f : Nat → Option (List (Property Node)) → Compile α}
    (hmerged : ∀ properties, Merges place opened branches (some properties) →
      Settles types fun fuel => f fuel (some properties))
    (hbranches : Merges place opened branches none → Settles types fun fuel => f fuel none) :
    Settles types fun fuel => merge place fuel opened branches >>= f fuel := by
  refine .bind (merge_settles hread) fun found ⟨fuel, s, s', _, hgives⟩ => ?_
  cases found with
  | some properties => exact hmerged properties ⟨fuel, s, s', hgives⟩
  | none => exact hbranches ⟨fuel, s, s', hgives⟩

theorem readFrom_closed (document : Json) : Closed document (Schema.ReadFrom document) :=
  ⟨fun hread hpart => hread.part hpart, fun _ hnode => Schema.nodeAt_readFrom hnode⟩

/-- What is asked for belongs to every closed set of nodes that references lead into. -/
theorem Asks.reaches {reach : Node → Prop} (hclosed : Closed place.document reach)
    (hleads : ∀ {origin target node}, reach (.ref origin target) →
      leadsTo place.document target = some node → reach node)
    (h : Asks place types question opened nodes) (hreach : reach question.node) :
    ∀ node ∈ nodes, reach node := by
  intro node hmem
  cases h with
  | parts => exact hclosed.part hreach (Node.hasPart_of_typedParts hmem)
  | merged hmerges =>
    obtain ⟨property, hproperty, rfl⟩ := List.mem_map.1 hmem
    exact hmerges.reaches hclosed (fun branch hbranch => hclosed.part hreach (.branch hbranch))
      property hproperty
  | branches => exact hclosed.part hreach (.branch (List.mem_of_mem_filter hmem))
  | expansion _ _ htarget =>
    obtain rfl := List.mem_singleton.1 hmem
    exact hleads hreach htarget

/-- What is asked for is asked about nodes that are read from the document, too. -/
theorem Asks.inTurn {p : Question → Prop} (h : Asks place types question opened nodes)
    (hread : Schema.ReadFrom place.document question.node)
    (hp : ∀ inner, AskedBy place types inner question →
      Schema.ReadFrom place.document inner.node → p inner) :
    InTurn place types opened nodes p := by
  intro inner hturn
  have hinner := h.reaches (readFrom_closed _) (fun _ => leadsTo_readFrom) hread inner hturn.mem
  exact hp ⟨opened, inner⟩ ⟨nodes, h, hturn⟩ hinner

/-- **Typing a node settles if every chain of questions from it comes to an end.** -/
theorem typeOf_settles (hacc : Acc (AskedBy place types) question)
    (hread : Schema.ReadFrom place.document question.node) : TypeSettles place types question := by
  induction hacc with
  | intro question _ ih =>
    intro base
    obtain ⟨opened, node⟩ := question
    have hask : ∀ {opened' nodes}, Asks place types ⟨opened, node⟩ opened' nodes →
        InTurn place types opened' nodes (TypeSettles place types) :=
      fun hasks => hasks.inTurn hread ih
    cases node with
    | unknown | const | enum | primitive | union => exact .of_succ (.pure _)
    | combinator origin kind branches =>
      have hparts := typesOf_settles (base ++ "Option") (hask .parts)
      cases kind with
      | allOf =>
        exact .of_succ (allOf_settles hread (fun properties hmerges =>
          hoist_settles base (hask (.merged hmerges)))
          fun hmerges => intersect_settles origin.path base (hask (.branches hmerges)))
      | oneOf => exact .of_succ (.map hparts)
      | anyOf => exact .of_succ (.map hparts)
    | ref origin target =>
      exact ref_settles base fun hname hnew node hleads =>
        hask (.expansion hname hnew hleads) node .first base
    | array origin items leading limits => exact array_settles base (hask .parts)
    | object origin properties required additional limits =>
      cases properties with
      | some properties => exact .of_succ (hoist_settles base (hask .parts))
      | none =>
        cases additional with
        | schema node =>
          exact .of_succ (.map (hask .parts node .first _))
        | value raw => exact .of_succ (.pure _)

theorem declare_settles {node : Node} (hacc : Acc (AskedBy place types) ⟨opened, node⟩)
    (hread : Schema.ReadFrom place.document node) (name : String) :
    Settles types fun fuel => declare place fuel opened node name := by
  have hask : ∀ {opened' nodes}, Asks place types ⟨opened, node⟩ opened' nodes →
      InTurn place types opened' nodes (TypeSettles place types) :=
    fun hasks => hasks.inTurn hread fun _ hinner => typeOf_settles (hacc.inv hinner)
  have hsynonym : Settles types fun fuel => (do
      return .synonym name (← typeOf place fuel opened node name) : Compile TypeDecl) :=
    .map (typeOf_settles hacc hread name)
  refine .of_succ ?_
  cases node with
  | combinator origin kind branches =>
    cases kind with
    | allOf =>
      refine allOf_settles hread (fun properties hmerges =>
        dictOf_settles name (hask (.merged hmerges))) fun hmerges => ?_
      exact .map (intersect_settles origin.path name (hask (.branches hmerges)))
    | oneOf => exact hsynonym
    | anyOf => exact hsynonym
  | object origin properties required additional limits =>
    cases properties with
    | some properties => exact dictOf_settles name (hask .parts)
    | none => exact hsynonym
  | unknown | const | enum | ref | primitive | union | array => exact hsynonym

end Settling

end TypeDecl

end SchemaGuard
