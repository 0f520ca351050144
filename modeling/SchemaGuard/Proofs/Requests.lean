import SchemaGuard.Proofs.Naming

/-!
# Requests to a registry

A registry is asked for names one after another: for a particular name, which may be refused, or for
the first free name that can be made from a base.

**Theorem (`requests_answered`).** Whatever a new registry is asked for, every entry of the names in
use stays where it is and as it is, no reserved name comes into use, a particular name is refused
exactly if it is reserved, hidden or someone else's, and a name that is made from a base is the
first free one, different from all names that were given before.

One request adds at most one entry, at the end (`answer_cases`). That an owner who asks again for a
name changes nothing depends on no name having two entries, so this is carried along (`Tidy`).
-/

namespace SchemaGuard

namespace Table

variable {α : Type} {table : Table α} {key : String} {value : α}

theorem put_of_get?_eq_none (h : table.get? key = none) :
    table.put key value = table ++ [(key, value)] := by
  rw [put, if_neg]
  rw [has_iff, h]
  rintro ⟨found, hfound⟩
  cases hfound

/-- Putting again what is there changes nothing. -/
theorem put_of_get?_eq_some (hkeys : table.keys.Nodup) (h : table.get? key = some value) :
    table.put key value = table := by
  rw [put, if_pos (has_iff.2 ⟨value, h⟩)]
  refine (List.map_congr_left fun entry hmem => ?_).trans (List.map_id table)
  split
  · rename_i hkey
    have hfound : table.get? key = some entry.2 := by
      rw [← eq_of_beq hkey]
      exact get?_of_mem hkeys hmem
    rw [h] at hfound
    exact Prod.ext (eq_of_beq hkey).symm (Option.some.inj hfound)
  · rfl

theorem get?_eq_none_iff : table.get? key = none ↔ key ∉ table.keys := by
  rw [mem_keys, Option.eq_none_iff_forall_ne_some, not_exists]

end Table

namespace Registry

/-- What a registry is asked for: a name for an owner, or a name for an owner that is made from a
base. -/
inductive Request where
  | claim (name owner : String)
  | unique (base owner : String)
deriving DecidableEq

/-- The name that a request is given, or why it is refused, and the registry after it. -/
def answer (registry : Registry) : Request → Except NameError String × Registry
  | .claim name owner =>
    match registry.claim name owner with
    | .ok claimed => (.ok name, claimed)
    | .error error => (.error error, registry)
  | .unique base owner =>
    let (name, claimed) := registry.claimUnique base owner
    (.ok name, claimed)

/-- The registry after some requests. -/
def after (registry : Registry) (requests : List Request) : Registry :=
  requests.foldl (fun registry request => (registry.answer request).2) registry

/-- Some requests with what they are given, one after another. -/
def answers (registry : Registry) : List Request → List (Request × Except NameError String)
  | [] => []
  | request :: requests =>
    (request, (registry.answer request).1) :: answers (registry.answer request).2 requests

/-- No name in use has two entries, and none is reserved. -/
structure Tidy (registry : Registry) : Prop where
  nodup : registry.used.keys.Nodup
  not_reserved : ∀ name ∈ registry.used.keys, isReserved name = false

variable {registry : Registry}

/-! ## One request -/

variable {name owner : String}

/-- **The first free name.** -/
theorem freeName_first (registry : Registry) (base : String) :
    ∃ n, registry.freeName base = candidate base n ∧
      ∀ m < n, registry.isFree (candidate base m) = false := by
  have hfree := isFree_freeName registry base
  unfold freeName at hfree ⊢
  dsimp only at hfree ⊢
  cases hfound : ((List.range (registry.used.length + reservedNames.length + 1)).map
      (candidate base)).find? registry.isFree with
  | none => exact ⟨0, rfl, fun m hm => absurd hm (Nat.not_lt_zero m)⟩
  | some name =>
    obtain ⟨-, n, hn, hname, hbefore⟩ := List.find?_eq_some_iff_getElem.1 hfound
    rw [List.getElem_map, List.getElem_range] at hname
    refine ⟨n, hname.symm, fun m hm => ?_⟩
    have hnot := hbefore m hm
    rw [List.getElem_map, List.getElem_range] at hnot
    simpa using hnot

theorem isFree_iff :
    registry.isFree name = true ↔ name ∉ registry.used.keys ∧ isReserved name = false := by
  rw [isFree, Bool.and_eq_true, Bool.not_eq_true', Bool.not_eq_true', Table.mem_keys,
    ← Table.has_iff, Bool.not_eq_true]

/-- A name is claimed exactly if it may be claimed. -/
theorem claim_eq_ok_iff :
    (∃ claimed, registry.claim name owner = .ok claimed) ↔ Claimable registry name owner := by
  constructor
  · rintro ⟨claimed, h⟩
    exact (claim_eq_ok h).1
  · intro h
    have hopen : (isReserved name || name.toList.head? == some '_') = false := by
      rw [h.not_reserved, Bool.false_or, beq_eq_false_iff_ne]
      exact h.visible
    unfold claim
    rw [hopen, if_neg Bool.false_ne_true]
    dsimp only
    split
    · exact ⟨_, rfl⟩
    · rename_i existing hexisting
      rw [if_pos (beq_iff_eq.2 (h.not_taken existing hexisting))]
      exact ⟨_, rfl⟩

/-- A claim is refused exactly if the name is reserved, hidden or someone else's, and then nothing
changes. -/
theorem answer_claim_refused_iff :
    (∃ error, registry.answer (.claim name owner) = (.error error, registry)) ↔
      isReserved name = true ∨ name.toList.head? = some '_' ∨
        ∃ other, other ≠ owner ∧ registry.used.get? name = some other := by
  have hrefused : (∃ error, registry.answer (.claim name owner) = (.error error, registry)) ↔
      ¬Claimable registry name owner := by
    rw [← claim_eq_ok_iff]
    cases hresult : registry.claim name owner with
    | error error => simp [answer, hresult]
    | ok claimed => simp [answer, hresult]
  rw [hrefused]
  constructor
  · intro h
    by_contra hnone
    simp only [not_or, not_exists, not_and, Bool.not_eq_true] at hnone
    exact h ⟨hnone.1, hnone.2.1, fun other hother => by_contra fun hne =>
      hnone.2.2 other hne hother⟩
  · rintro (hreserved | hhidden | ⟨other, hne, hother⟩) h
    · rw [h.not_reserved] at hreserved
      cases hreserved
    · exact h.visible hhidden
    · exact hne (h.not_taken other hother)

/-- **What one request does.** It leaves the registry as it is, and a name that is given then is one
that its owner has; or it adds one entry at the end, for a name that was free. -/
theorem answer_cases (h : registry.Tidy) (request : Request) :
    ((registry.answer request).2 = registry ∧
      ∀ name, (registry.answer request).1 = .ok name → name ∈ registry.used.keys) ∨
    ∃ name owner, registry.isFree name = true ∧ registry.answer request =
      (.ok name, { registry with used := registry.used ++ [(name, owner)] }) := by
  cases request with
  | claim name owner =>
    unfold answer
    dsimp only
    split
    · rename_i claimed hclaimed
      obtain ⟨hclaimable, rfl⟩ := claim_eq_ok hclaimed
      cases hused : registry.used.get? name with
      | none =>
        refine .inr ⟨name, owner, isFree_iff.2 ⟨Table.get?_eq_none_iff.1 hused,
          hclaimable.not_reserved⟩, ?_⟩
        rw [Table.put_of_get?_eq_none hused]
      | some other =>
        obtain rfl := hclaimable.not_taken other hused
        refine .inl ⟨?_, fun given hgiven => ?_⟩
        · rw [Table.put_of_get?_eq_some h.nodup hused]
        · cases hgiven
          exact Table.mem_keys.2 ⟨other, hused⟩
    · exact .inl ⟨rfl, fun given hgiven => by cases hgiven⟩
  | unique base owner =>
    refine .inr ⟨registry.freeName base, owner, isFree_freeName registry base, ?_⟩
    rw [answer, claimUnique, Table.put_of_get?_eq_none (freeName_fresh registry base).1]

theorem Tidy.add (h : registry.Tidy) (hfree : registry.isFree name = true) :
    Tidy { registry with used := registry.used ++ [(name, owner)] } := by
  obtain ⟨hnew, hreserved⟩ := isFree_iff.1 hfree
  have hkeys : Table.keys (registry.used ++ [(name, owner)]) = registry.used.keys ++ [name] := by
    simp [Table.keys]
  constructor
  · dsimp only
    rw [hkeys]
    exact h.nodup.append (List.nodup_singleton _) (by simpa using hnew)
  · dsimp only
    rw [hkeys]
    intro other hother
    rcases List.mem_append.1 hother with hother | hother
    · exact h.not_reserved other hother
    · rw [List.mem_singleton.1 hother]
      exact hreserved

/-- A request keeps a registry tidy and all entries in their places. -/
theorem Tidy.answer (h : registry.Tidy) (request : Request) :
    (registry.answer request).2.Tidy ∧ registry.used <+: (registry.answer request).2.used := by
  rcases answer_cases h request with ⟨hsame, -⟩ | ⟨name, owner, hfree, hadded⟩
  · rw [hsame]
    exact ⟨h, List.prefix_refl _⟩
  · rw [hadded]
    exact ⟨h.add hfree, List.prefix_append _ _⟩

/-- A name that is given is in use from then on. -/
theorem Tidy.given_mem (h : registry.Tidy) {request : Request}
    (hgiven : (registry.answer request).1 = .ok name) :
    name ∈ (registry.answer request).2.used.keys := by
  rcases answer_cases h request with ⟨hsame, hheld⟩ | ⟨other, owner, -, hadded⟩
  · rw [hsame]
    exact hheld name hgiven
  · rw [hadded] at hgiven ⊢
    cases hgiven
    simp [Table.keys]

/-! ## Runs -/

variable {base : String}

theorem empty_tidy : empty.Tidy where
  nodup := List.nodup_nil
  not_reserved _ h := by cases h

theorem after_append (registry : Registry) (requests later : List Request) :
    registry.after (requests ++ later) = (registry.after requests).after later :=
  List.foldl_append

/-- **Requests keep a registry tidy and all entries in their places.** -/
theorem Tidy.after (h : registry.Tidy) (requests : List Request) :
    (registry.after requests).Tidy ∧ registry.used <+: (registry.after requests).used := by
  induction requests generalizing registry with
  | nil => exact ⟨h, List.prefix_refl _⟩
  | cons request requests ih =>
    obtain ⟨htidy, hkept⟩ := h.answer request
    obtain ⟨htidy', hkept'⟩ := ih htidy
    exact ⟨htidy', hkept.trans hkept'⟩

/-- What a request for a name made from a base is given is not in use before. -/
theorem answer_unique_fresh (h : (registry.answer (.unique base owner)).1 = .ok name) :
    name ∉ registry.used.keys := by
  cases h
  exact (isFree_iff.1 (isFree_freeName registry base)).1

/-- The names that are made from bases in a run were not in use when it began. -/
theorem answers_fresh (h : registry.Tidy) {requests : List Request}
    (hmem : (.unique base owner, .ok name) ∈ registry.answers requests) :
    name ∉ registry.used.keys := by
  induction requests generalizing registry with
  | nil => cases hmem
  | cons request requests ih =>
    rcases List.mem_cons.1 hmem with heq | hmem
    · obtain ⟨rfl, hanswer⟩ := Prod.mk.inj heq
      exact answer_unique_fresh hanswer.symm
    · obtain ⟨htidy, hkept⟩ := h.answer request
      exact fun hused => ih htidy hmem ((hkept.map Prod.fst).subset hused)

/-- **A name that is made from a base is none that was given before.** -/
theorem answers_distinct (h : registry.Tidy) (requests : List Request) :
    (registry.answers requests).Pairwise fun first second =>
      ∀ base owner name, second.1 = .unique base owner → first.2 = .ok name →
        second.2 ≠ .ok name := by
  induction requests generalizing registry with
  | nil => exact .nil
  | cons request requests ih =>
    obtain ⟨htidy, -⟩ := h.answer request
    refine .cons (fun second hmem base owner name hunique hgiven hsecond => ?_) (ih htidy)
    have hanswered : (.unique base owner, .ok name) ∈
        (registry.answer request).2.answers requests := by
      rw [← hunique, ← hsecond]
      exact hmem
    exact answers_fresh htidy hanswered (h.given_mem hgiven)

/-- **Runs of a registry.** After any requests to a new registry:
* whatever is asked for later, the entries of the names in use stay in their places, with their
  owners;
* no name has two entries, and no reserved name is in use;
* a claim is refused exactly if the name is reserved, starts with an underscore or has another owner,
  and then nothing changes; if it is not refused, the name is its owner's;
* a name is made from a base by taking the first of the base, the base with 2, with 3, … that is
  neither in use nor reserved, and it is added at the end;
* a name made from a base is different from every name that was given before it. -/
theorem requests_answered (requests : List Request) :
    (∀ later, (empty.after requests).used <+: (empty.after (requests ++ later)).used) ∧
    (empty.after requests).Tidy ∧
    (∀ name owner,
      ((∃ error, (empty.after requests).answer (.claim name owner) =
          (.error error, empty.after requests)) ↔
        isReserved name = true ∨ name.toList.head? = some '_' ∨
          ∃ other, other ≠ owner ∧ (empty.after requests).used.get? name = some other) ∧
      ∀ given claimed, (empty.after requests).answer (.claim name owner) = (.ok given, claimed) →
        given = name ∧ claimed.used.get? name = some owner) ∧
    (∀ base owner, ∃ n,
      (candidate base n ∉ (empty.after requests).used.keys ∧
        isReserved (candidate base n) = false) ∧
      (∀ m < n, candidate base m ∈ (empty.after requests).used.keys ∨
        isReserved (candidate base m) = true) ∧
      (empty.after requests).answer (.unique base owner) =
        (.ok (candidate base n), { empty.after requests with
          used := (empty.after requests).used ++ [(candidate base n, owner)] })) ∧
    (empty.answers requests).Pairwise fun first second =>
      ∀ base owner name, second.1 = .unique base owner → first.2 = .ok name →
        second.2 ≠ .ok name := by
  have htidy := (empty_tidy.after requests).1
  refine ⟨fun later => ?_, htidy, fun name owner => ⟨answer_claim_refused_iff, ?_⟩, ?_,
    answers_distinct empty_tidy requests⟩
  · rw [after_append]
    exact (htidy.after later).2
  · intro given claimed h
    unfold answer at h
    dsimp only at h
    split at h
    · rename_i hclaimed
      obtain ⟨-, rfl⟩ := claim_eq_ok hclaimed
      cases h
      exact ⟨rfl, (Table.get?_put ..).trans (if_pos rfl)⟩
    · cases h
  · intro base owner
    obtain ⟨n, hname, hbefore⟩ := freeName_first (empty.after requests) base
    refine ⟨n, ?_, fun m hm => ?_, ?_⟩
    · rw [← hname]
      exact isFree_iff.1 (isFree_freeName _ base)
    · have htaken := mt isFree_iff.2 (Bool.eq_false_iff.1 (hbefore m hm))
      rw [not_and_or, not_not, Bool.not_eq_false] at htaken
      exact htaken
    · rw [answer, claimUnique, Table.put_of_get?_eq_none (freeName_fresh _ base).1, hname]

/-- Bases that end in digits do not come into each other's way. -/
example : ((empty.answers [.claim "A" "#", .unique "A" "#/x", .unique "A2" "#/y",
    .claim "A22" "#", .unique "A2" "#/y"]).map fun entry => entry.2.toOption) =
    [some "A", some "A2", some "A22", none, some "A23"] := by
  decide

end Registry

end SchemaGuard
