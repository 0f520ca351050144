import SchemaGuard.Proofs.Coverage

/-!
# Collecting is a depth-first search

The pointers of a run are collected by a walk that keeps one list of pending pointers and a pool of
those not visited yet. This file says what the walk collects, and in which order, without the walk.

`Preorder` is the order of a depth-first search, one pointer after another: what comes next is the
first new reference of the latest pointer that still has new references, and the first new target
if none has. References that lead nowhere do not count unless they are targets.

**Theorem (`collect_exact`).** Unless a pointer stops at a segment of digits that is no number,
pointers are collected. They are exactly the targets and what leads somewhere and is reached from
them, each once, in depth-first order; and there is no other list in this order with these members.

The proof reads the pending pointers as an agenda (`Agenda`): the references that are left of each
visited pointer, the latest first, and then the targets that are left.
-/

namespace SchemaGuard.Dependencies

variable {document : Json} {targets : List String}

/-! ## Depth-first order -/

/-- The local references of the schema at a pointer, if there is one. -/
def refsAt (document : Json) (pointer : String) : List String :=
  match Pointer.resolve document pointer with
  | .ok schema => Schema.localRefs schema
  | .error _ => []

/-- A pointer is to be collected once it is reached: it is a target or leads somewhere. -/
def Counts (document : Json) (targets : List String) (pointer : String) : Prop :=
  pointer ∈ targets ∨ ∃ schema, Pointer.resolve document pointer = .ok schema

/-- Nothing among some pointers is new, given those seen. -/
def Exhausted (document : Json) (targets seen candidates : List String) : Prop :=
  ∀ pointer ∈ candidates, Counts document targets pointer → pointer ∈ seen

/-- A pointer is the first new one of some, given those seen. -/
structure FirstNew (document : Json) (targets seen candidates : List String) (next : String) :
    Prop where
  counts : Counts document targets next
  fresh : next ∉ seen
  first : ∃ before after, candidates = before ++ next :: after ∧
    Exhausted document targets seen before

/-- What a depth-first search comes to when it has seen some pointers, given in the order in which
they were come to. -/
inductive Next (document : Json) (targets seen : List String) (next : String) : Prop where
  | ref {earlier later : List String} {pointer : String} (hseen : seen = earlier ++ pointer :: later)
      (hfirst : FirstNew document targets seen (refsAt document pointer) next)
      (hlater : ∀ other ∈ later, Exhausted document targets seen (refsAt document other)) :
      Next document targets seen next
  | target (hfirst : FirstNew document targets seen targets next)
      (hseen : ∀ other ∈ seen, Exhausted document targets seen (refsAt document other)) :
      Next document targets seen next

/-- Some pointers continue a depth-first search that has seen others. -/
def Continues (document : Json) (targets seen pointers : List String) : Prop :=
  ∀ before next after, pointers = before ++ next :: after →
    Next document targets (seen ++ before) next

/-- Pointers in the order of a depth-first search. -/
def Preorder (document : Json) (targets pointers : List String) : Prop :=
  Continues document targets [] pointers

/-! ## The order leaves no choice -/

section Unique

variable {seen candidates : List String} {next other : String} {rest : List String}

theorem FirstNew.not_exhausted (h : FirstNew document targets seen candidates next) :
    ¬Exhausted document targets seen candidates := by
  intro hexhausted
  obtain ⟨before, after, heq, -⟩ := h.first
  have hmem : next ∈ candidates := by simp [heq]
  exact h.fresh (hexhausted next hmem h.counts)

theorem FirstNew.unique (h : FirstNew document targets seen candidates next)
    (h' : FirstNew document targets seen candidates other) : next = other := by
  obtain ⟨before, after, heq, hbefore⟩ := h.first
  obtain ⟨before', after', heq', hbefore'⟩ := h'.first
  rw [heq] at heq'
  -- One of the two comes first, and the other would not be new before it.
  rcases List.append_eq_append_iff.1 heq' with ⟨middle, hmiddle, hrest⟩ | ⟨middle, hmiddle, hrest⟩
  · cases middle with
    | nil => exact (List.cons.inj hrest).1
    | cons first middle =>
      have hfirst : next = first := (List.cons.inj hrest).1
      have hmem : next ∈ before' := by simp [hmiddle, hfirst]
      exact (h.fresh (hbefore' next hmem h.counts)).elim
  · cases middle with
    | nil => exact (List.cons.inj hrest).1.symm
    | cons first middle =>
      have hfirst : other = first := (List.cons.inj hrest).1
      have hmem : other ∈ before := by simp [hmiddle, hfirst]
      exact (h'.fresh (hbefore other hmem h'.counts)).elim

theorem Next.fresh (h : Next document targets seen next) : next ∉ seen := by
  cases h with
  | ref _ hfirst _ => exact hfirst.fresh
  | target hfirst _ => exact hfirst.fresh

/-- **What comes next is determined** by what has been seen. -/
theorem Next.unique (h : Next document targets seen next) (h' : Next document targets seen other) :
    next = other := by
  cases h with
  | @ref earlier later pointer hseen hfirst hlater =>
    cases h' with
    | @ref earlier' later' pointer' hseen' hfirst' hlater' =>
      rw [hseen] at hseen'
      -- Both are references of the latest pointer that has new ones.
      rcases List.append_eq_append_iff.1 hseen' with
        ⟨middle, -, hrest⟩ | ⟨middle, -, hrest⟩
      · cases middle with
        | nil =>
          obtain ⟨rfl, -⟩ := List.cons.inj hrest
          exact hfirst.unique hfirst'
        | cons first middle =>
          have hmem : pointer' ∈ later := by simp [(List.cons.inj hrest).2]
          exact (hfirst'.not_exhausted (hlater pointer' hmem)).elim
      · cases middle with
        | nil =>
          obtain ⟨rfl, -⟩ := List.cons.inj hrest
          exact hfirst.unique hfirst'
        | cons first middle =>
          have hmem : pointer ∈ later' := by simp [(List.cons.inj hrest).2]
          exact (hfirst.not_exhausted (hlater' pointer hmem)).elim
    | target _ hnone =>
      exact (hfirst.not_exhausted (hnone pointer (by simp [hseen]))).elim
  | target hfirst hnone =>
    cases h' with
    | @ref earlier later pointer hseen hfirst' hlater =>
      exact (hfirst'.not_exhausted (hnone pointer (by simp [hseen]))).elim
    | target hfirst' _ => exact hfirst.unique hfirst'

theorem Continues.head (h : Continues document targets seen (next :: rest)) :
    Next document targets seen next := by
  have hnext := h [] next rest rfl
  rw [List.append_nil] at hnext
  exact hnext

theorem Continues.tail (h : Continues document targets seen (next :: rest)) :
    Continues document targets (seen ++ [next]) rest := by
  intro before following after heq
  rw [List.append_assoc]
  exact h (next :: before) following after (by rw [heq]; rfl)

theorem Continues.cons (hnext : Next document targets seen next)
    (h : Continues document targets (seen ++ [next]) rest) :
    Continues document targets seen (next :: rest) := by
  intro before following after heq
  cases before with
  | nil =>
    obtain ⟨rfl, -⟩ := List.cons.inj heq
    rw [List.append_nil]
    exact hnext
  | cons first before =>
    obtain ⟨rfl, hrest⟩ := List.cons.inj heq
    have hfollowing := h before following after hrest
    rw [List.append_assoc] at hfollowing
    exact hfollowing

/-- Two continuations of a search with the same members are the same. -/
theorem Continues.unique {pointers others : List String}
    (h : Continues document targets seen pointers) (h' : Continues document targets seen others)
    (hsame : ∀ pointer, pointer ∈ seen ++ pointers ↔ pointer ∈ seen ++ others) :
    pointers = others := by
  induction pointers generalizing seen others with
  | nil =>
    cases others with
    | nil => rfl
    | cons other others =>
      have hmem := (hsame other).2 (by simp)
      rw [List.append_nil] at hmem
      exact (h'.head.fresh hmem).elim
  | cons next pointers ih =>
    cases others with
    | nil =>
      have hmem := (hsame next).1 (by simp)
      rw [List.append_nil] at hmem
      exact (h.head.fresh hmem).elim
    | cons other others =>
      obtain rfl := h.head.unique h'.head
      have htails : ∀ pointer, pointer ∈ (seen ++ [next]) ++ pointers ↔
          pointer ∈ (seen ++ [next]) ++ others := by
        intro pointer
        rw [List.append_assoc, List.append_assoc]
        exact hsame pointer
      rw [ih h.tail h'.tail htails]

end Unique

/-! ## The agenda of a walk -/

/-- What is pending when some pointers have been visited, given latest first: what is left of the
references of each, and then what is left of the targets. -/
inductive Agenda (document : Json) (targets seen : List String) : List String → List String → Prop
  where
  | start {before pending : List String} (heq : targets = before ++ pending)
      (hbefore : Exhausted document targets seen before) : Agenda document targets seen [] pending
  | visited {pointer : String} {trail before rest pending : List String}
      (heq : refsAt document pointer = before ++ rest)
      (hbefore : Exhausted document targets seen before)
      (h : Agenda document targets seen trail pending) :
      Agenda document targets seen (pointer :: trail) (rest ++ pending)

section Agenda

variable {seen trail pending : List String} {next : String} {candidates more : List String}

theorem Exhausted.mono (h : Exhausted document targets seen candidates) (hsub : seen ⊆ more) :
    Exhausted document targets more candidates :=
  fun pointer hmem hcounts => hsub (h pointer hmem hcounts)

theorem Exhausted.snoc (h : Exhausted document targets seen candidates)
    (hnext : Counts document targets next → next ∈ seen) :
    Exhausted document targets seen (candidates ++ [next]) := by
  intro pointer hmem hcounts
  rcases List.mem_append.1 hmem with hmem | hmem
  · exact h pointer hmem hcounts
  · rw [List.mem_singleton.1 hmem] at hcounts ⊢
    exact hnext hcounts

theorem Agenda.mono (h : Agenda document targets seen trail pending) (hsub : seen ⊆ more) :
    Agenda document targets more trail pending := by
  induction h with
  | start heq hbefore => exact .start heq (hbefore.mono hsub)
  | visited heq hbefore _ ih => exact .visited heq (hbefore.mono hsub) ih

/-- A pending pointer that is not new may be dropped. -/
theorem Agenda.drop (h : Agenda document targets seen trail (next :: pending))
    (hnext : Counts document targets next → next ∈ seen) :
    Agenda document targets seen trail pending := by
  generalize hall : next :: pending = all at h
  induction h generalizing pending with
  | start heq hbefore =>
    subst hall
    refine .start ?_ (hbefore.snoc hnext)
    rw [heq, List.append_assoc]
    rfl
  | @visited pointer trail before rest others heq hbefore h ih =>
    cases rest with
    | nil =>
      have hvisited := Agenda.visited heq hbefore (ih hall)
      exact hvisited
    | cons first rest =>
      obtain ⟨rfl, rfl⟩ := List.cons.inj hall
      refine .visited ?_ (hbefore.snoc hnext) h
      rw [heq, List.append_assoc]
      rfl

/-- Skipping the pending pointers that are out of the pool keeps the agenda. -/
theorem Agenda.skip {pool : List String} (h : Agenda document targets seen trail pending)
    (hskipped : ∀ pointer ∈ pending, pointer ∉ pool →
      Counts document targets pointer → pointer ∈ seen) :
    Agenda document targets seen trail (unvisited pool pending) := by
  induction pending with
  | nil => exact h
  | cons next pending ih =>
    rw [unvisited, List.dropWhile_cons]
    split
    · rename_i hout
      have hnext : next ∉ pool := by simpa using hout
      refine ih (h.drop (hskipped next (by simp) hnext)) fun pointer hmem => ?_
      exact hskipped pointer (by simp [hmem])
    · exact h

/-- The first pending pointer, if it is new, is new among the references of the latest visited
pointer that has new ones, or else among the targets. -/
theorem Agenda.first (h : Agenda document targets seen trail (next :: pending))
    (hcounts : Counts document targets next) (hfresh : next ∉ seen) :
    (∃ later pointer earlier, trail = later ++ pointer :: earlier ∧
      FirstNew document targets seen (refsAt document pointer) next ∧
      ∀ other ∈ later, Exhausted document targets seen (refsAt document other)) ∨
    FirstNew document targets seen targets next ∧
      ∀ other ∈ trail, Exhausted document targets seen (refsAt document other) := by
  generalize hall : next :: pending = all at h
  induction h with
  | start heq hbefore =>
    subst hall
    exact .inr ⟨⟨hcounts, hfresh, _, _, heq, hbefore⟩, fun other hmem => by cases hmem⟩
  | @visited pointer trail before rest others heq hbefore h ih =>
    cases rest with
    | cons first rest =>
      obtain ⟨rfl, -⟩ := List.cons.inj hall
      refine .inl ⟨[], pointer, trail, rfl, ⟨hcounts, hfresh, before, rest, heq, hbefore⟩, ?_⟩
      intro other hmem
      cases hmem
    | nil =>
      -- Nothing is left of this pointer's references, so the search goes back.
      rw [List.append_nil] at heq
      have hnone : Exhausted document targets seen (refsAt document pointer) := by
        rw [heq]
        exact hbefore
      rcases ih hall with ⟨later, found, earlier, rfl, hfirst, hlater⟩ | ⟨hfirst, htrail⟩
      · exact .inl ⟨pointer :: later, found, earlier, rfl, hfirst,
          List.forall_mem_cons.2 ⟨hnone, hlater⟩⟩
      · exact .inr ⟨hfirst, List.forall_mem_cons.2 ⟨hnone, htrail⟩⟩

theorem Agenda.comesNext (h : Agenda document targets seen seen.reverse (next :: pending))
    (hcounts : Counts document targets next) (hfresh : next ∉ seen) :
    Next document targets seen next := by
  rcases h.first hcounts hfresh with ⟨later, pointer, earlier, htrail, hfirst, hlater⟩ |
    ⟨hfirst, hnone⟩
  · have hseen : seen = earlier.reverse ++ pointer :: later.reverse := by
      rw [← List.reverse_reverse seen, htrail]
      simp
    exact .ref hseen hfirst fun other hmem => hlater other (List.mem_reverse.1 hmem)
  · exact .target hfirst fun other hmem => hnone other (List.mem_reverse.2 hmem)

end Agenda

/-! ## The walk keeps its agenda -/

section Walk

variable {pool pending pointers seen all : List String}

/-- How the pool of a walk goes with what has been seen: nothing seen is in the pool, and what is out
of the pool is seen, if it counts. -/
structure Kept (document : Json) (targets seen all pool : List String) : Prop where
  out : ∀ pointer ∈ seen, pointer ∉ pool
  settled : ∀ pointer ∈ all, pointer ∉ pool → Counts document targets pointer → pointer ∈ seen

variable {pointer : String}

theorem not_mem_without {other : String} (h : other ∉ without pool pointer) :
    other = pointer ∨ other ∉ pool := by
  by_cases heq : other = pointer
  · exact .inl heq
  · refine .inr fun hmem => h ?_
    simp [without, hmem, heq]

/-- A pointer that is visited is seen from then on. -/
theorem Kept.visit {pointer : String} (h : Kept document targets seen all pool) :
    Kept document targets (seen ++ [pointer]) all (without pool pointer) := by
  refine ⟨fun other hmem hpool => ?_, fun other hmem hout hcounts => ?_⟩
  · have hkept : other ∈ pool ∧ other ≠ pointer := by simpa [without] using hpool
    rcases List.mem_append.1 hmem with hmem | hmem
    · exact h.out other hmem hkept.1
    · exact hkept.2 (List.mem_singleton.1 hmem)
  · rcases not_mem_without hout with rfl | hout
    · simp
    · exact List.mem_append_left _ (h.settled other hmem hout hcounts)

/-- A pointer that does not count is passed by. -/
theorem Kept.pass (h : Kept document targets seen all pool)
    (hnot : ¬Counts document targets pointer) :
    Kept document targets seen all (without pool pointer) := by
  refine ⟨fun other hmem hpool => ?_, fun other hmem hout hcounts => ?_⟩
  · have hkept : other ∈ pool ∧ other ≠ pointer := by simpa [without] using hpool
    exact h.out other hmem hkept.1
  · rcases not_mem_without hout with rfl | hout
    · exact (hnot hcounts).elim
    · exact h.settled other hmem hout hcounts

/-- What is taken from the agenda next, and what is left of it. -/
theorem Agenda.taken {rest : List String} (h : Agenda document targets seen seen.reverse pending)
    (hkept : Kept document targets seen all pool) (hpending : pending ⊆ all)
    (hfound : unvisited pool pending = pointer :: rest) :
    pointer ∉ seen ∧ rest ⊆ all ∧
      Agenda document targets seen seen.reverse (pointer :: rest) := by
  have hpool : pointer ∈ pool := by simpa using contains_of_unvisited hfound
  have hagenda := h.skip fun other hmem hout => hkept.settled other (hpending hmem) hout
  rw [hfound] at hagenda
  refine ⟨fun hmem => hkept.out pointer hmem hpool, fun other hmem => ?_, hagenda⟩
  have hsub : other ∈ unvisited pool pending := by simp [hfound, hmem]
  exact hpending ((List.dropWhile_sublist _).subset hsub)

/-- The agenda after a pointer is visited: its references come first. -/
theorem Agenda.visit {pointer : String} {rest : List String}
    (h : Agenda document targets seen seen.reverse (pointer :: rest)) :
    Agenda document targets (seen ++ [pointer]) (seen ++ [pointer]).reverse
      (refsAt document pointer ++ rest) := by
  have hsub : seen ⊆ seen ++ [pointer] := List.subset_append_left _ _
  have hrest := (h.mono hsub).drop fun _ => by simp
  have hnew : Exhausted document targets (seen ++ [pointer]) [] := fun _ hmem => by cases hmem
  rw [List.reverse_append]
  exact .visited (List.nil_append _).symm hnew hrest

/-- **A walk collects in depth-first order**, from any agenda on. -/
theorem Walk.continues (h : Walk document targets pool pending pointers)
    (hall : ∀ pointer, refsAt document pointer ⊆ all) (hpending : pending ⊆ all)
    (hkept : Kept document targets seen all pool)
    (hagenda : Agenda document targets seen seen.reverse pending) :
    Continues document targets seen pointers := by
  induction h generalizing seen with
  | done =>
    intro before next after heq
    simp at heq
  | @missing pool pending rest others pointer error hfound hmissing _ ih =>
    obtain ⟨hfresh, hrest, htaken⟩ := hagenda.taken hkept hpending hfound
    have hrefs : refsAt document pointer = [] := by rw [refsAt, hmissing]
    split
    · rename_i htarget
      have hcounts : Counts document targets pointer := .inl (List.contains_iff_mem.1 htarget)
      have hvisited := htaken.visit
      rw [hrefs, List.nil_append] at hvisited
      exact .cons (htaken.comesNext hcounts hfresh) (ih hrest hkept.visit hvisited)
    · rename_i htarget
      have hnot : ¬Counts document targets pointer := by
        rintro (hmem | ⟨schema, hschema⟩)
        · exact htarget (List.contains_iff_mem.2 hmem)
        · rw [hmissing] at hschema
          cases hschema
      exact ih hrest (hkept.pass hnot) (htaken.drop fun hcounts => (hnot hcounts).elim)
  | @visit pool pending rest others pointer schema hfound hschema _ ih =>
    obtain ⟨hfresh, hrest, htaken⟩ := hagenda.taken hkept hpending hfound
    have hrefs : refsAt document pointer = Schema.localRefs schema := by rw [refsAt, hschema]
    have hvisited := htaken.visit
    rw [hrefs] at hvisited
    have hsub : Schema.localRefs schema ++ rest ⊆ all := by
      intro other hmem
      rcases List.mem_append.1 hmem with hmem | hmem
      · refine hall pointer ?_
        rw [hrefs]
        exact hmem
      · exact hrest hmem
    exact .cons (htaken.comesNext (.inr ⟨schema, hschema⟩) hfresh) (ih hsub hkept.visit hvisited)

end Walk

/-! ## What is collected -/

theorem refsAt_subset (document : Json) (pointer : String) :
    refsAt document pointer ⊆ Schema.refs document := by
  unfold refsAt
  split
  · rename_i schema hschema
    exact fun ref hmem => Schema.refs_of_resolve hschema (List.mem_filter.1 hmem).1
  · exact List.nil_subset _

/-- What is reached is a target or one of the references of the document. -/
theorem Collected.mem {pointer : String} (h : Collected document targets pointer) :
    pointer ∈ targets ++ Schema.localRefs document := by
  cases h with
  | target hmem => exact List.mem_append_left _ hmem
  | ref _ hschema href => exact List.mem_append_right _ (localRefs_of_resolve hschema href)

section Result

variable {pool pending pointers : List String}

/-- A walk gives only what counts. -/
theorem Walk.counts (h : Walk document targets pool pending pointers) :
    ∀ pointer ∈ pointers, Counts document targets pointer := by
  induction h with
  | done => exact fun pointer hmem => by cases hmem
  | missing _ _ _ ih =>
    split
    · rename_i htarget
      exact List.forall_mem_cons.2 ⟨.inl (List.contains_iff_mem.1 htarget), ih⟩
    · exact ih
  | visit _ hschema _ ih => exact List.forall_mem_cons.2 ⟨.inr ⟨_, hschema⟩, ih⟩

/-- **A walk from the targets gives all that is reached**, if it counts: the references of a pointer
that leads somewhere are given with it. -/
theorem Walk.complete (h : Walk document targets (targets ++ Schema.refs document) targets pointers)
    {pointer : String} (hreached : Collected document targets pointer)
    (hcounts : Counts document targets pointer) : pointer ∈ pointers := by
  induction hreached with
  | target hmem => exact h.mem_of_pending hcounts hmem (List.mem_append_left _ hmem)
  | @ref pointer ref schema hpointer hschema href ih =>
    have hmem : ref ∈ targets ++ Schema.refs document :=
      List.mem_append_right _ (List.mem_filter.1 (localRefs_of_resolve hschema href)).1
    rcases hcounts with htarget | ⟨found, hfound⟩
    · exact h.mem_of_pending (.inl htarget) htarget hmem
    · exact h.mem_of_ref (ih (.inr ⟨schema, hschema⟩)) hschema href hfound hmem

theorem Walk.preorder
    (h : Walk document targets (targets ++ Schema.refs document) targets pointers) :
    Preorder document targets pointers := by
  have hsub : ∀ pointer, refsAt document pointer ⊆ targets ++ Schema.refs document :=
    fun pointer => List.subset_append_of_subset_right _ (refsAt_subset document pointer)
  have hkept : Kept document targets [] (targets ++ Schema.refs document)
      (targets ++ Schema.refs document) :=
    ⟨fun _ hmem => (List.not_mem_nil hmem).elim, fun _ hmem hout => (hout hmem).elim⟩
  have hagenda : Agenda document targets [] [] targets :=
    .start (List.nil_append _).symm fun _ hmem => by cases hmem
  exact h.continues hsub (List.subset_append_left _ _) hkept hagenda

end Result

/-- **Collecting is exact.** Let no pointer that is reached from the targets stop at a segment of digits
that is no number. Then pointers are collected, each once, in depth-first order: the targets, and
what leads somewhere and is reached from a target through schemas that are there. No other list of
the same pointers is in this order. -/
theorem collect_exact (document : Json) (targets : List String) (notices : List Notice)
    (hreads : ∀ pointer, Collected document targets pointer →
      ∀ error, Pointer.resolve document pointer ≠ .error (.index error)) :
    ∃ pointers notices', Gives (collect document targets) notices pointers notices' ∧
      pointers.Nodup ∧ Preorder document targets pointers ∧
      (∀ pointer, pointer ∈ pointers ↔ pointer ∈ targets ∨
        (∃ schema, Pointer.resolve document pointer = .ok schema) ∧
          Collected document targets pointer) ∧
      ∀ others, Preorder document targets others →
        (∀ pointer, pointer ∈ others ↔ pointer ∈ pointers) → others = pointers := by
  have hruns : ∀ error, ¬Stops document targets error := by
    rintro error ⟨pointer, hpointer, herror⟩
    exact hreads pointer hpointer error herror
  obtain ⟨pointers, notices', hgives⟩ := gives_of_not_stops hruns notices
  have hwalk := walk_of_collect hgives
  have hreached := hwalk.collected fun _ hmem => .target hmem
  refine ⟨pointers, notices', hgives, hwalk.nodup.1, hwalk.preorder, fun pointer => ?_,
    fun others hothers hsame => hothers.unique hwalk.preorder hsame⟩
  constructor
  · intro hmem
    rcases hwalk.counts pointer hmem with htarget | hleads
    · exact .inl htarget
    · exact .inr ⟨hleads, hreached pointer hmem⟩
  · rintro (htarget | ⟨hleads, hpointer⟩)
    · exact hwalk.complete (.target htarget) (.inl htarget)
    · exact hwalk.complete hpointer (.inr hleads)

/-- Definitions that refer to each other in a ring, and to one that is not there. -/
def ringSchema : Json := .object [
  ("$defs", .object [
    ("a", .object [("anyOf", .array [.object [("$ref", .string "#/$defs/gone")],
      .object [("$ref", .string "#/$defs/c")], .object [("$ref", .string "#/$defs/b")]])]),
    ("b", .object [("$ref", .string "#/$defs/a")]),
    ("c", .object [("$ref", .string "#/$defs/b")])])]

/-- The theorem at the ring, with a target that leads nowhere: from `a` the search goes through `c` to
`b` before it comes back, and the reference that leads nowhere is left out. -/
theorem collect_exact_ring :
    (∀ pointer, Collected ringSchema ["#/$defs/a", "#/none"] pointer →
      ∀ error, Pointer.resolve ringSchema pointer ≠ .error (.index error)) ∧
    ∃ notices, Gives (collect ringSchema ["#/$defs/a", "#/none"]) []
      ["#/$defs/a", "#/$defs/c", "#/$defs/b", "#/none"] notices ∧
      Preorder ringSchema ["#/$defs/a", "#/none"]
        ["#/$defs/a", "#/$defs/c", "#/$defs/b", "#/none"] := by
  have hlead : ∀ pointer ∈ ["#/$defs/a", "#/none"] ++ Schema.localRefs ringSchema,
      (Pointer.resolve ringSchema pointer).toOption.isSome = true ∨ pointer = "#/none" ∨
        pointer = "#/$defs/gone" := by decide +kernel
  have hnone : Pointer.resolve ringSchema "#/none" =
      .error (.pointer (.missingKey "#/none" "none")) := by rfl
  have hgone : Pointer.resolve ringSchema "#/$defs/gone" =
      .error (.pointer (.missingKey "#/$defs/gone" "gone")) := by rfl
  have hreads : ∀ pointer, Collected ringSchema ["#/$defs/a", "#/none"] pointer →
      ∀ error, Pointer.resolve ringSchema pointer ≠ .error (.index error) := by
    intro pointer hreached error herror
    rcases hlead pointer hreached.mem with hleads | rfl | rfl
    · rw [herror] at hleads
      cases hleads
    · rw [hnone] at herror
      cases herror
    · rw [hgone] at herror
      cases herror
  have hrun : ((collect ringSchema ["#/$defs/a", "#/none"]).run.run []).1.toOption =
      some ["#/$defs/a", "#/$defs/c", "#/$defs/b", "#/none"] := by decide +kernel
  obtain ⟨pointers, notices, hgives, -, horder, -, -⟩ :=
    collect_exact ringSchema ["#/$defs/a", "#/none"] [] hreads
  have hgiven : (collect ringSchema ["#/$defs/a", "#/none"]).run.run [] =
      (.ok pointers, notices) := hgives
  rw [hgiven] at hrun
  cases hrun
  exact ⟨hreads, notices, hgives, horder⟩

end SchemaGuard.Dependencies
