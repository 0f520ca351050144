import SchemaGuard.Proofs.Fuel
import SchemaGuard.Proofs.Parsing

/-!
# Merging the branches of an `allOf`

The properties of an `allOf` are collected from its object branches, through references. A reference
that is met again inside itself is refused, so collecting always comes to an end (`merge_settles`):
each reference that is followed is one less to follow.

What is collected depends on the references that are open and on nothing else (`Merges.gives`), and
it is the properties of objects that the branches lead to (`Merges.reaches`).
-/

namespace SchemaGuard.TypeDecl

/-! ## One branch after another -/

/-- Adds what was found in a branch to what was merged so far. -/
def addBranch (merged : Option (Table (Property Node))) (branch : Node) :
    Option (List (Property Node)) → Compile (Option (Table (Property Node)))
  | none => do
    if !branch.isUnknown then
      note (.nonObjectBranch branch.path)
    return merged
  | some properties =>
    return some (requireNames (properties.foldl addProperty (merged.getD [])) (ownRequired branch))

theorem merge_succ (place : Place) (fuel : Nat) (opened : List String) (branches : List Node) :
    merge place (fuel + 1) opened branches = (do
      let merged ← branches.foldlM
        (fun merged branch => propertiesOf place fuel opened branch >>= addBranch merged branch)
          none
      return merged.map fun merged => merged.map (·.2)) := by
  rw [merge]
  congr

theorem addBranch_moves (merged : Option (Table (Property Node))) (branch : Node)
    (found : Option (List (Property Node))) : Moves (addBranch merged branch found) := by
  cases found with
  | some properties => exact .pure _
  | none =>
    unfold addBranch
    dsimp only
    split
    · exact .bind (.note _) fun _ => .pure _
    · exact .pure _

/-! ## Merging comes to an end -/

theorem addBranch_settles {types : Table String} (merged : Option (Table (Property Node)))
    (branch : Node) (found : Option (List (Property Node))) :
    Settles types fun _ => addBranch merged branch found := by
  cases found with
  | some properties => exact .pure _
  | none =>
    unfold addBranch
    dsimp only
    split
    · exact .map (.note _)
    · exact .pure _

section Steps

variable {place : Place} {opened : List String} {types : Table String}

theorem merge_settles_of_branches {branches : List Node}
    (h : ∀ branch ∈ branches, Settles types fun fuel => propertiesOf place fuel opened branch) :
    Settles types fun fuel => merge place fuel opened branches := by
  refine .of_succ ?_
  simp only [merge_succ]
  refine .map (.foldlM (fun branch hmem merged => ?_) none)
  exact .bind (h branch hmem) fun found _ => addBranch_settles merged branch found

/-- The references of the document that are not open. -/
def unopened (document : Json) (opened : List String) : List String :=
  (Schema.refs document).filter (!opened.contains ·)

theorem length_unopened_lt {document : Json} {target : String}
    (hmem : target ∈ Schema.refs document) (hnew : target ∉ opened) :
    (unopened document (target :: opened)).length < (unopened document opened).length := by
  have hsub : unopened document (target :: opened) = (unopened document opened).filter
    (· != target) := by
    unfold unopened
    rw [List.filter_filter]
    refine List.filter_congr fun other _ => ?_
    rw [List.contains_cons, Bool.not_or]
    rfl
  rw [hsub]
  refine List.length_filter_lt_length_iff_exists.2 ⟨target, ?_, by simp⟩
  exact List.mem_filter.2 ⟨hmem, by simpa using hnew⟩

/-- **The properties of a node can be collected, or collecting them is refused.** -/
theorem propertiesOf_settles {node : Node} (hread : Schema.ReadFrom place.document node) :
    Settles types fun fuel => propertiesOf place fuel opened node := by
  -- Outside, the references that are not open become fewer; inside, the nodes become smaller.
  induction hleft : (unopened place.document opened).length using Nat.strongRecOn
    generalizing opened node with
  | ind left ih =>
    subst hleft
    induction node using Node.induction with
    | step node hparts =>
      cases node with
      | combinator origin kind branches =>
        cases kind with
        | allOf =>
          exact .of_succ (merge_settles_of_branches fun branch hmem =>
            hparts branch (.branch hmem) (hread.part (.branch hmem)))
        | oneOf => exact .of_succ (.pure none)
        | anyOf => exact .of_succ (.pure none)
      | ref origin target =>
        refine .of_succ ?_
        simp only [propertiesOf_ref]
        split
        · exact .throw nofun
        · rename_i hopen
          rw [List.contains_iff_mem] at hopen
          split
          · rename_i resolved hnode
            exact ih _ (length_unopened_lt hread.mem_refs hopen) (Schema.nodeAt_readFrom hnode) rfl
          · exact .pure none
          · exact .throw nofun
          · exact .throw nofun
      | object origin properties required additional limits => exact .of_succ (.pure _)
      | unknown | const | enum | primitive | union | array => exact .of_succ (.pure none)

theorem merge_settles {origin : Origin} {kind : Combinator} {branches : List Node}
    (hread : Schema.ReadFrom place.document (.combinator origin kind branches)) :
    Settles types fun fuel => merge place fuel opened branches :=
  merge_settles_of_branches fun _ hmem => propertiesOf_settles (hread.part (.branch hmem))

end Steps

/-! ## What is merged -/

/-- Whatever a computation gives in some state, it gives in every state. -/
def Stateless {α : Type} (x : Compile α) : Prop :=
  ∀ s a s', Gives x s a s' → ∀ t, ∃ t', Gives x t a t'

namespace Stateless

variable {α β : Type}

theorem pure (a : α) : Stateless (Pure.pure a) := by
  intro s b s' h t
  obtain ⟨rfl, -⟩ := Gives.pure_iff.1 h
  exact ⟨t, Gives.pure_iff.2 ⟨rfl, rfl⟩⟩

theorem throw (error : EmitError) : Stateless (MonadExcept.throw error : Compile α) := by
  intro s a s' h
  exact (Gives.throw_iff.1 h).elim

theorem note (notice : Notice) : Stateless (note notice) := by
  intro s a s' _ t
  exact ⟨_, Gives.modify_iff.2 rfl⟩

theorem bind {x : Compile α} {f : α → Compile β} (hx : Stateless x) (hf : ∀ a, Stateless (f a)) :
    Stateless (x >>= f) := by
  intro s b s'' h t
  obtain ⟨a, s', ha, hb⟩ := Gives.bind_iff.1 h
  obtain ⟨t', ha'⟩ := hx _ _ _ ha t
  obtain ⟨t'', hb'⟩ := hf a _ _ _ hb t'
  exact ⟨t'', Gives.bind_iff.2 ⟨a, t', ha', hb'⟩⟩

theorem foldlM {f : β → α → Compile β} (h : ∀ b a, Stateless (f b a)) (elements : List α)
    (start : β) : Stateless (elements.foldlM f start) := by
  induction elements generalizing start with
  | nil => exact .pure start
  | cons a elements ih =>
    rw [List.foldlM_cons]
    exact .bind (h start a) ih

theorem notes (notices : List Notice) : Stateless (notices.forM TypeDecl.note) := by
  induction notices with
  | nil => exact .pure _
  | cons notice notices ih => exact Stateless.bind (.note notice) fun _ => ih

end Stateless

theorem addBranch_stateless (merged : Option (Table (Property Node))) (branch : Node)
    (found : Option (List (Property Node))) : Stateless (addBranch merged branch found) := by
  cases found with
  | some properties => exact .pure _
  | none =>
    unfold addBranch
    dsimp only
    split
    · exact .bind (.note _) fun _ => .pure _
    · exact .pure _

theorem collecting_stateless (place : Place) (fuel : Nat) :
    (∀ opened node, Stateless (propertiesOf place fuel opened node)) ∧
      ∀ opened branches, Stateless (merge place fuel opened branches) := by
  induction fuel with
  | zero => exact ⟨fun _ _ => .throw _, fun _ _ => .throw _⟩
  | succ fuel ih =>
    obtain ⟨hproperties, hmerge⟩ := ih
    refine ⟨fun opened node => ?_, fun opened branches => ?_⟩
    · cases node with
      | combinator origin kind branches =>
        cases kind with
        | allOf => exact hmerge opened branches
        | oneOf => exact .pure none
        | anyOf => exact .pure none
      | ref origin target =>
        rw [propertiesOf_ref]
        split
        · exact .throw _
        · split
          · exact hproperties _ _
          · exact .pure none
          · exact .throw _
          · exact .throw _
      | object origin properties required additional limits => exact .pure _
      | unknown | const | enum | primitive | union | array => exact .pure none
    · rw [merge_succ]
      refine .bind (.foldlM (fun merged branch => ?_) branches none) fun _ => .pure _
      exact .bind (hproperties opened branch) (addBranch_stateless merged branch)

section Result

variable {place : Place} {opened : List String}

/-- What the branches of an `allOf` are merged to, inside the expansion of some references. -/
def Merges (place : Place) (opened : List String) (branches : List Node)
    (merged : Option (List (Property Node))) : Prop :=
  ∃ fuel s s', Gives (merge place fuel opened branches) s merged s'

/-- **Merging gives what is merged, in every state and with all fuel that is enough.** -/
theorem Merges.gives {branches : List Node} {merged : Option (List (Property Node))}
    (h : Merges place opened branches merged) {fuel : Nat} {s : Progress}
    (hdone : Done (merge place fuel opened branches) s) :
    ∃ s', Gives (merge place fuel opened branches) s merged s' := by
  obtain ⟨enough, t, t', hgives⟩ := h
  have hmost := ((allFinish place (Nat.le_max_right fuel enough)).merge _ _).gives hgives
  obtain ⟨s', hmoved⟩ := (collecting_stateless place _).2 _ _ _ _ _ hmost s
  have hsame := (allFinish place (Nat.le_max_left fuel enough)).merge opened branches s hdone
  exact ⟨s', hsame.symm.trans hmoved⟩

/-! ## Where merged properties come from -/

/-- A set of nodes that holds what its nodes hold and what its references point at. -/
structure Closed (document : Json) (reach : Node → Prop) : Prop where
  part : ∀ {node part : Node}, reach node → node.HasPart part → reach part
  target : ∀ {origin target node}, reach (.ref origin target) →
    Schema.nodeAt document target = .ok node → reach node

variable {reach : Node → Prop}

/-- The properties that were found, if any, are about nodes of a set. -/
def FoundIn (reach : Node → Prop) (found : Option (List (Property Node))) : Prop :=
  ∀ properties, found = some properties → ∀ property ∈ properties, reach property.node

/-- The properties merged so far, if any, are about nodes of a set. -/
def MergedIn (reach : Node → Prop) (merged : Option (Table (Property Node))) : Prop :=
  ∀ entry ∈ merged.getD [], reach entry.2.node

theorem addProperties_reach {properties : List (Property Node)} {merged : Table (Property Node)}
    (hmerged : ∀ entry ∈ merged, reach entry.2.node)
    (hproperties : ∀ property ∈ properties, reach property.node) :
    ∀ entry ∈ properties.foldl addProperty merged, reach entry.2.node := by
  induction properties generalizing merged with
  | nil => exact hmerged
  | cons property properties ih =>
    refine ih (fun entry hmem => ?_) fun other hmem => hproperties other (by simp [hmem])
    rcases Table.mem_put hmem with rfl | hmem
    · exact hproperties property (by simp)
    · exact hmerged entry hmem

variable {condition : Condition}

theorem addBranch_reaches {merged : Option (Table (Property Node))}
    (hmerged : MergedIn reach merged) (branch : Node) {found : Option (List (Property Node))}
    (hfound : FoundIn reach found) :
    Ensures condition (addBranch merged branch found) (MergedIn reach) := by
  cases found with
  | some properties =>
    refine .pure fun entry hmem => ?_
    obtain ⟨added, hadded, rfl⟩ := List.mem_map.1 hmem
    exact addProperties_reach hmerged (hfound properties rfl) added hadded
  | none =>
    unfold addBranch
    dsimp only
    split
    · exact .bind (p := fun _ => True) (.of_gives fun _ _ _ _ => trivial) (fun _ => .pure _)
        fun _ _ => .pure hmerged
    · exact .pure hmerged

/-- **Properties are collected from the nodes that the branches lead to.** -/
theorem collecting_reaches (condition : Condition) (hclosed : Closed place.document reach)
    (fuel : Nat) :
    (∀ opened node, reach node →
      Ensures condition (propertiesOf place fuel opened node) (FoundIn reach)) ∧
      ∀ opened branches, (∀ branch ∈ branches, reach branch) →
        Ensures condition (merge place fuel opened branches) (FoundIn reach) := by
  have hmoves := allMove place
  induction fuel with
  | zero => exact ⟨fun _ _ _ => .throw _, fun _ _ _ => .throw _⟩
  | succ fuel ih =>
    obtain ⟨hproperties, hmerge⟩ := ih
    refine ⟨fun opened node hreach => ?_, fun opened branches hreach => ?_⟩
    · cases node with
      | combinator origin kind branches =>
        cases kind with
        | allOf =>
          exact hmerge opened branches fun branch hmem => hclosed.part hreach (.branch hmem)
        | oneOf => exact .pure nofun
        | anyOf => exact .pure nofun
      | ref origin target =>
        rw [propertiesOf_ref]
        split
        · exact .throw _
        · split
          · rename_i hnode
            exact hproperties _ _ (hclosed.target hreach hnode)
          · exact .pure nofun
          · exact .throw _
          · exact .throw _
      | object origin properties required additional limits =>
        refine .pure fun found hfound property hmem => ?_
        cases hfound
        cases properties with
        | none => cases hmem
        | some properties => exact hclosed.part hreach (.property hmem)
      | unknown | const | enum | primitive | union | array => exact .pure nofun
    · rw [merge_succ]
      refine .bind (p := MergedIn reach) (.foldlM (fun merged branch => ?_) nofun
        fun branch hmem merged hmerged => ?_) (fun _ => .pure _)
        fun merged hmerged => .pure fun properties hproperties property hmem => ?_
      · exact .bind ((hmoves fuel).propertiesOf opened branch) (addBranch_moves merged branch)
      · exact .bind (hproperties opened branch (hreach branch hmem)) (addBranch_moves merged branch)
          fun found hfound => addBranch_reaches hmerged branch hfound
      · cases merged with
        | none => cases hproperties
        | some table =>
          cases hproperties
          obtain ⟨entry, hentry, rfl⟩ := List.mem_map.1 hmem
          exact hmerged entry hentry

theorem Merges.reaches {branches : List Node} {properties : List (Property Node)}
    (h : Merges place opened branches (some properties)) (hclosed : Closed place.document reach)
    (hbranches : ∀ branch ∈ branches, reach branch) :
    ∀ property ∈ properties, reach property.node := by
  obtain ⟨fuel, s, s', hgives⟩ := h
  exact (collecting_reaches ⟨fun _ => True, fun _ => id⟩ hclosed fuel).2 opened branches
    hbranches s _ s' hgives trivial properties rfl

end Result

end SchemaGuard.TypeDecl
