import Mathlib.Data.Set.Finite.List
import SchemaGuard.Proofs.Answering

/-!
# When compiling a type comes to an end

**Theorem (`declarations_end_iff`).** Compiling the declarations of a node comes to an end, with
declarations or an error, if and only if typing it does not come back to a question.

There are only finitely many questions: the references that are open are different references of the
document, and the nodes stand inside the node that typing starts from or inside what references lead
to (`finite_arises`). So a chain of questions is endless exactly if it comes back to itself.

It can come back, although no reference is expanded inside itself. An `allOf` takes properties from
what a reference leads to and types them where it stands itself, with the reference not open any
more. If one of them holds the same `allOf`, nothing stops (`chain_never_ends`). Without an `allOf`
that merges there is no loop (`Loops.exists_merged`).
-/

namespace SchemaGuard

/-- A node is another one or inside it. -/
def Node.Inside (part node : Node) : Prop :=
  Relation.ReflTransGen (fun part node => node.HasPart part) part node

theorem Node.finite_inside (node : Node) : {part | Node.Inside part node}.Finite := by
  induction node using Node.induction with
  | step node ih =>
    have hparts : (⋃ part ∈ {part | node.HasPart part}, {inner | Node.Inside inner part}).Finite :=
      ((List.finite_toSet node.parts).subset fun part hpart => hpart.mem_parts).biUnion ih
    refine (hparts.insert node).subset fun inner hinside => ?_
    rcases hinside.cases_tail with rfl | ⟨part, hinner, hpart⟩
    · exact .inl rfl
    · exact .inr (Set.mem_biUnion hpart hinner)

/-- There are finitely many lists of different elements of a list. -/
theorem finite_nodup_lists (elements : List String) :
    {l : List String | l.Nodup ∧ l ⊆ elements}.Finite := by
  let Listed := { element : String // element ∈ elements }
  have : Finite Listed := (List.finite_toSet elements).to_subtype
  refine ((List.finite_length_le Listed elements.length).image (List.map Subtype.val)).subset ?_
  rintro l ⟨hnodup, hsub⟩
  have hmem : ∀ element ∈ l, element ∈ elements := fun _ h => hsub h
  refine ⟨l.attachWith (· ∈ elements) hmem, ?_, l.attachWith_map_subtype_val hmem⟩
  change (l.attachWith (· ∈ elements) hmem).length ≤ elements.length
  rw [List.length_attachWith]
  exact (List.subperm_of_subset hnodup hsub).length_le

namespace TypeDecl

/-! ## Finitely many questions -/

/-- The nodes that typing starts from: the first one, and those that the references of the document
point at or lead to. -/
def roots (document : Json) (start : Node) : List Node :=
  start :: (Schema.refs document).flatMap fun target =>
    (Schema.nodeAt document target).toOption.toList ++ (leadsTo document target).toList

/-- A node of the document that is inside one of those. -/
structure Met (document : Json) (start node : Node) : Prop where
  read : Schema.ReadFrom document node
  inside : ∃ root ∈ roots document start, node.Inside root

variable {node : Node}

/-- What is met is closed: its references are followed to nodes that typing starts from. -/
theorem met_closed (document : Json) (start : Node) : Closed document (Met document start) where
  part hmet hpart := by
    obtain ⟨root, hroot, hinside⟩ := hmet.inside
    exact ⟨hmet.read.part hpart, root, hroot, .head hpart hinside⟩
  target {origin target node} hmet hnode := by
    refine ⟨Schema.nodeAt_readFrom hnode, node, ?_, .refl⟩
    exact List.mem_cons_of_mem _
      (List.mem_flatMap.2 ⟨target, hmet.read.mem_refs, by simp [hnode, Except.toOption]⟩)

theorem met_of_leadsTo {document : Json} {start : Node} {origin : Origin} {target : String}
    (hmet : Met document start (.ref origin target)) (h : leadsTo document target = some node) :
    Met document start node := by
  refine ⟨leadsTo_readFrom h, node, ?_, .refl⟩
  exact List.mem_cons_of_mem _ (List.mem_flatMap.2 ⟨target, hmet.read.mem_refs, by simp [h]⟩)

/-- A question that can come up: different references of the document are open, and the node is one
that is met. -/
structure Arises (document : Json) (start : Node) (question : Question) : Prop where
  nodup : question.opened.Nodup
  written : question.opened ⊆ Schema.refs document
  met : Met document start question.node

theorem finite_arises (document : Json) (start : Node) :
    {question | Arises document start question}.Finite := by
  have hnodes : (⋃ root ∈ {root | root ∈ roots document start},
      {node | Node.Inside node root}).Finite :=
    (List.finite_toSet _).biUnion fun root _ => root.finite_inside
  have hpairs := (finite_nodup_lists (Schema.refs document)).prod hnodes
  refine (hpairs.preimage
    (f := fun question : Question => (question.opened, question.node)) ?_).subset ?_
  · rintro ⟨opened, node⟩ _ ⟨opened', node'⟩ _ heq
    cases heq
    rfl
  · rintro ⟨opened, node⟩ ⟨hnodup, hwritten, -, root, hroot, hinside⟩
    exact ⟨⟨hnodup, hwritten⟩, Set.mem_biUnion hroot hinside⟩

variable {place : Place} {types : Table String} {start : Node}

variable {opened : List String}

theorem Asks.arises {question : Question} {nodes : List Node}
    (h : Asks place types question opened nodes) (harises : Arises place.document start question)
    (hmem : node ∈ nodes) : Arises place.document start ⟨opened, node⟩ := by
  obtain ⟨hnodup, hwritten, hmet⟩ := harises
  have hnode := h.reaches (met_closed place.document start) met_of_leadsTo hmet node hmem
  cases h with
  | parts | merged | branches => exact ⟨hnodup, hwritten, hnode⟩
  | expansion _ hnew _ =>
    exact ⟨hnodup.cons hnew, List.cons_subset.2 ⟨hmet.read.mem_refs, hwritten⟩, hnode⟩

/-! ## Loops -/

/-- Typing a node comes back to a question that it was asked by. -/
def Loops (place : Place) (types : Table String) (start : Node) : Prop :=
  ∃ question, Relation.ReflTransGen (AskedBy place types) question ⟨[], start⟩ ∧
    Relation.TransGen (AskedBy place types) question question

theorem acc_iff_not_loops (hread : Schema.ReadFrom place.document start) :
    Acc (AskedBy place types) ⟨[], start⟩ ↔ ¬Loops place types start := by
  constructor
  · rintro hacc ⟨question, hpath, hcycle⟩
    have hback : Acc (Relation.TransGen (AskedBy place types)) question := by
      clear hcycle
      induction hpath using Relation.ReflTransGen.head_induction_on with
      | refl => exact hacc.transGen
      | head hasked _ ih => exact ih.inv (.single hasked)
    clear hpath
    induction hback with
    | intro question _ ih => exact ih question hcycle hcycle
  · intro hloops
    have hfirst : Arises place.document start ⟨[], start⟩ :=
      ⟨List.nodup_nil, List.nil_subset _, hread, start, List.mem_cons_self, .refl⟩
    refine acc_of_acyclic ((finite_arises place.document start).subset fun question hpath => ?_)
      fun question hpath hcycle => hloops ⟨question, hpath, hcycle⟩
    induction hpath using Relation.ReflTransGen.head_induction_on with
    | refl => exact hfirst
    | head hasked _ ih =>
      obtain ⟨nodes, hasks, hturn⟩ := hasked
      exact hasks.arises ih hturn.mem

/-- No properties are merged on the way from a question. -/
def Unmerged (place : Place) (types : Table String) (question : Question) : Prop :=
  ∀ opened origin branches properties,
    Relation.ReflTransGen (AskedBy place types) ⟨opened, .combinator origin .allOf branches⟩
      question → ¬Merges place opened branches (some properties)

/-- Then every chain ends: nodes become smaller, or there are fewer references to expand. -/
theorem Unmerged.acc (h : Unmerged place types ⟨opened, node⟩)
    (hread : Schema.ReadFrom place.document node) : Acc (AskedBy place types) ⟨opened, node⟩ := by
  induction hleft : (unopened place.document opened).length using Nat.strongRecOn
    generalizing opened node with
  | ind left ih =>
    subst hleft
    induction node using Node.induction with
    | step node hparts =>
      refine ⟨_, fun ⟨opened', inner⟩ hasked => ?_⟩
      have hinner : Unmerged place types ⟨opened', inner⟩ :=
        fun _ _ _ _ hpath => h _ _ _ _ (hpath.tail hasked)
      obtain ⟨nodes, hasks, hturn⟩ := hasked
      cases hasks with
      | parts =>
        have hpart := Node.hasPart_of_typedParts hturn.mem
        exact hparts inner hpart hinner (hread.part hpart)
      | branches =>
        have hmem := List.mem_of_mem_filter hturn.mem
        exact hparts inner (.branch hmem) hinner (hread.part (.branch hmem))
      | merged hmerges => exact (h _ _ _ _ .refl hmerges).elim
      | expansion _ hnew hleads =>
        obtain rfl := List.mem_singleton.1 hturn.mem
        exact ih _ (length_unopened_lt hread.mem_refs hnew) hinner (leadsTo_readFrom hleads) rfl

/-- **Typing comes back to a question only where an `allOf` merges properties.** -/
theorem Loops.exists_merged (h : Loops place types start)
    (hread : Schema.ReadFrom place.document start) : ∃ opened origin branches properties,
      Relation.ReflTransGen (AskedBy place types) ⟨opened, .combinator origin .allOf branches⟩
        ⟨[], start⟩ ∧ Merges place opened branches (some properties) := by
  by_contra hnone
  have hunmerged : Unmerged place types ⟨[], start⟩ :=
    fun opened origin branches properties hpath hmerges =>
      hnone ⟨opened, origin, branches, properties, hpath, hmerges⟩
  exact (acc_iff_not_loops hread).1 (hunmerged.acc hread) h

/-! ## Results -/

/-- The declarations for a pointer, with so much fuel. -/
def declarations (place : Place) (fuel : Nat) (node : Node) (name : String) :
    Compile (List TypeDecl) := do
  modify fun progress => { progress with hoisted := [] }
  let declaration ← declare place fuel [] node name
  return (← get).hoisted ++ [declaration]

theorem ofNode_eq (place : Place) (node : Node) (name : String) :
    ofNode place node name = declarations place (fuelFor place.document) node name := rfl

theorem declarations_finishes (place : Place) {fuel more : Nat} (h : fuel ≤ more) (node : Node)
    (name : String) :
    Finishes (declarations place fuel node name) (declarations place more node name) :=
  .bind (.refl _) fun _ => .bind ((allFinish place h).declare _ _ _) fun _ => .refl _

theorem declarations_settle (hacc : Acc (AskedBy place types) ⟨[], node⟩)
    (hread : Schema.ReadFrom place.document node) (name : String) :
    Settles types fun fuel => declarations place fuel node name := by
  intro s hs
  have hrest : Settles types fun fuel => (do
      let declaration ← declare place fuel [] node name
      return (← get).hoisted ++ [declaration] : Compile (List TypeDecl)) :=
    .bind (declare_settles hacc hread name) fun _ _ => .of_gives fun _ => ⟨_, _, rfl, rfl⟩
  exact hrest { s with hoisted := [] } hs

/-- If typing a node comes back to a question, every run of it is cut short. -/
theorem declarations_cut {s : Progress} (hread : Schema.ReadFrom place.document node)
    (hloops : Loops place s.registry.types node) (fuel : Nat) (name : String) :
    ((declarations place fuel node name).run.run s).1 = .error .tooDeep := by
  by_contra hdone
  have hreset : Gives (modify fun progress => { progress with hoisted := [] } : Compile Unit) s ()
      { s with hoisted := [] } := rfl
  have hdeclare := (Done.rest hdone hreset).first
  exact (acc_iff_not_loops hread).1 (acc_of_done rfl hdeclare) hloops

/-- **Compiling the type of a node comes to an end exactly if it does not come back to a question.**
Beyond some number of calls inside each other nothing changes any more, and what `ofNode` gives
within its own bound is the result. Only where an `allOf` merges properties can it come back. -/
theorem declarations_end_iff (place : Place) (node : Node) (name : String) (s : Progress)
    (hread : Schema.ReadFrom place.document node) :
    ((∃ fuel result, result.1 ≠ .error .tooDeep ∧
        ∀ more ≥ fuel, (declarations place more node name).run.run s = result) ↔
      ¬Loops place s.registry.types node) ∧
    (Loops place s.registry.types node → ∃ opened origin branches properties,
      Relation.ReflTransGen (AskedBy place s.registry.types)
        ⟨opened, .combinator origin .allOf branches⟩ ⟨[], node⟩ ∧
        Merges place opened branches (some properties)) ∧
    (((ofNode place node name).run.run s).1 ≠ .error .tooDeep →
      ∀ more ≥ fuelFor place.document,
        (declarations place more node name).run.run s = (ofNode place node name).run.run s) := by
  refine ⟨⟨?_, fun hloops => ?_⟩, fun hloops => hloops.exists_merged hread,
    fun hown more hmore => ?_⟩
  · rintro ⟨fuel, result, hresult, hsame⟩ hloops
    rw [← hsame fuel (Nat.le_refl _)] at hresult
    exact hresult (declarations_cut hread hloops fuel name)
  · obtain ⟨fuel, result, hresult, _, hsame⟩ :=
      declarations_settle ((acc_iff_not_loops hread).2 hloops) hread name s rfl
    exact ⟨fuel, result, hresult, hsame⟩
  · rw [ofNode_eq] at hown ⊢
    exact declarations_finishes place hmore node name s hown

/-- A household: some of its members are households again, and its home is put together from two
objects. -/
def householdSchema : Json :=
  .object [("type", .string "object"),
    ("properties", .object [
      ("members", .object [("type", .string "array"), ("items", .object [("$ref", .string "#")])]),
      ("home", .object [("allOf", .array [.object [("$ref", .string "#/$defs/site")],
        .object [("type", .string "object"),
          ("properties", .object [("rooms", .object [("type", .string "integer")])])]])])]),
    ("$defs", .object [("site", .object [("type", .string "object"),
      ("properties", .object [("street", .object [("type", .string "string")])])])])]

/-- Only the document itself has a name. -/
def householdStart : Progress := ⟨{ Registry.empty with types := [("#", "Household")] }, [], []⟩

theorem declarations_end_household : ∃ node, Module.nodeOf householdSchema "#" = .ok node ∧
    ¬Loops ⟨householdSchema, "#"⟩ householdStart.registry.types node ∧
    ∃ found t, ∀ more ≥ fuelFor householdSchema,
      Gives (declarations ⟨householdSchema, "#"⟩ more node "Household") householdStart found t := by
  have hruns : (Module.nodeOf householdSchema "#").toOption.any (fun node =>
      ((ofNode ⟨householdSchema, "#"⟩ node "Household").run.run householdStart).1.toOption.any
        fun _ => true) = true := by decide +kernel
  obtain ⟨node, hnode, hruns⟩ := exists_ok_of_any hruns
  obtain ⟨found, hfound, -⟩ := exists_ok_of_any hruns
  obtain ⟨hends, -, hstays⟩ := declarations_end_iff ⟨householdSchema, "#"⟩ node "Household"
    householdStart (Module.nodeOf_readFrom hnode)
  have hreturns : ((ofNode ⟨householdSchema, "#"⟩ node "Household").run.run householdStart).1 ≠
      .error .tooDeep := by
    intro hdeep
    rw [hfound] at hdeep
    cases hdeep
  have hsame := hstays hreturns
  exact ⟨node, hnode, hends.1 ⟨_, _, hreturns, hsame⟩, found, _, fun more hmore =>
    (hsame more hmore).trans (Prod.ext hfound rfl)⟩

/-! ## A loop through an `allOf` -/

/-- Arrays inside each other, so many levels deep. -/
def arraysOf : Nat → Json → Json
  | 0, schema => schema
  | depth + 1, schema => .object [("type", .string "array"), ("items", arraysOf depth schema)]

/-- An object with nested arrays of objects of its own kind, by way of an `allOf`. -/
def chainSchema : Json :=
  .object [("type", .string "object"), ("properties", .object [("next",
    arraysOf 12 (.object [("allOf", .array [.object [("$ref", .string "#")]])]))])]

/-- What stands so many arrays deep inside a node. -/
def itemsBelow : Nat → Node → Option Node
  | 0, node => some node
  | depth + 1, .array _ (.all item) none _ => itemsBelow depth item
  | _, _ => none

theorem askedBy_itemsBelow {depth : Nat} {inner : Node} (h : itemsBelow depth node = some inner) :
    Relation.ReflTransGen (AskedBy place types) ⟨opened, inner⟩ ⟨opened, node⟩ := by
  fun_induction itemsBelow depth node with
  | case1 node =>
    cases h
    exact .refl
  | case2 depth origin item limits ih => exact (ih h).tail ⟨[item], .parts, .first⟩
  | case3 => cases h

/-- Where the reference leads that stands in the arrays of a chain. -/
def chainTarget? : Node → Option String
  | .object _ (some [property]) _ _ _ =>
    match itemsBelow 12 property.node with
    | some (.combinator _ .allOf [.ref _ target]) => some target
    | _ => none
  | _ => none

theorem chain_parse : ∃ origin property required additional limits outer reference,
    Schema.parse "#" chainSchema =
        .ok (.object origin (some [property]) required additional limits) ∧
      itemsBelow 12 property.node = some (.combinator outer .allOf [.ref reference "#"]) := by
  have hcheck : (Schema.parse "#" chainSchema).toOption.any (chainTarget? · == some "#") = true := by
    decide +kernel
  obtain ⟨node, hparse, htarget⟩ := exists_ok_of_any hcheck
  have htarget : chainTarget? node = some "#" := eq_of_beq htarget
  unfold chainTarget? at htarget
  split at htarget
  · split at htarget
    · rename_i hbelow
      cases htarget
      exact ⟨_, _, _, _, _, _, _, hparse, hbelow⟩
    · cases htarget
  · cases htarget

/-- Merging one reference to an object with one property. -/
theorem merges_ref (place : Place) (reference : Origin) {origin : Origin} {target : String}
    {property : Property Node} {required : List String} {additional : Additional Node}
    {limits : ObjectLimits} (hnew : target ∉ opened) (hnode : Schema.nodeAt place.document target =
      .ok (.object origin (some [property]) required additional limits)) :
    ∃ merged : Property Node, merged.node = property.node ∧
      Merges place opened [.ref reference target] (some [merged]) := by
  have hclosed : opened.contains target = false := by simpa using hnew
  refine ⟨{ property with required := property.required || false || false }, rfl, 3,
    ⟨.empty, [], []⟩, ⟨.empty, [], []⟩, ?_⟩
  rw [merge_succ, List.foldlM_cons, propertiesOf_ref, hclosed, hnode]
  rfl

/-- Typing the property of a chain leads back to it. -/
theorem chain_loops : ∃ node, Module.nodeOf chainSchema "#" = .ok node ∧
    ∀ pointer types, Loops ⟨chainSchema, pointer⟩ types node := by
  obtain ⟨origin, property, required, additional, limits, outer, reference, hparse, hbelow⟩ :=
    chain_parse
  have hresolve : Pointer.resolve chainSchema "#" = .ok chainSchema := rfl
  have hescaped : Pointer.resolveEscaped chainSchema "#" = .ok chainSchema := rfl
  have hnode : Schema.nodeAt chainSchema "#" =
      .ok (.object origin (some [property]) required additional limits) := by
    simp only [Schema.nodeAt, hescaped, hparse]
  refine ⟨.object origin (some [property]) required additional limits, ?_, fun pointer types => ?_⟩
  · simp only [Module.nodeOf, hresolve, hparse]
  · obtain ⟨merged, hmerged, hmerges⟩ := merges_ref ⟨chainSchema, pointer⟩ reference
      List.not_mem_nil hnode
    have hasked : AskedBy ⟨chainSchema, pointer⟩ types ⟨[], property.node⟩
        ⟨[], .combinator outer .allOf [.ref reference "#"]⟩ := by
      rw [← hmerged]
      exact ⟨[merged.node], .merged hmerges, .first⟩
    exact ⟨⟨[], property.node⟩, .single ⟨[property.node], .parts, .first⟩,
      Relation.TransGen.head' hasked (askedBy_itemsBelow hbelow)⟩

/-- **Compiling the type of a chain never comes to an end**, whatever names there are. -/
theorem chain_never_ends : ∃ node, Module.nodeOf chainSchema "#" = .ok node ∧
    ∀ fuel name s,
      ((declarations ⟨chainSchema, "#"⟩ fuel node name).run.run s).1 = .error .tooDeep := by
  obtain ⟨node, hnode, hloops⟩ := chain_loops
  exact ⟨node, hnode, fun fuel name s =>
    declarations_cut (Module.nodeOf_readFrom hnode) (hloops "#" s.registry.types) fuel name⟩

end TypeDecl

end SchemaGuard
