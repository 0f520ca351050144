import Mathlib.Data.List.Flatten
import Mathlib.Data.List.Nodup
import Mathlib.Logic.Relation
import SchemaGuard.Proofs.Emitted
import SchemaGuard.Proofs.Numerals

/-!
# The local names of validators

A validator binds local names: for what it calls, for branches and how many of them match, and in
loops. A branch is a function of its own. A name that is bound somewhere in the text of a function
belongs to that function in all of its text, and reading it there never finds a name of a function
around it. A branch reads names of the functions around it when it is called, not when it is defined,
and what a name was bound to in one round of a loop is still there in the next.

**Theorem (`validatorOf_hygienic`).** None of this does any harm. Every name that occurs in a
validator is bound at one place. A branch binds no name that is bound outside of it. On every path
through the validator and the branches it calls, what is read is bound in the function it belongs to,
and in a loop it was bound in the same round.

Paths are those of a machine, `Point.Next`, which takes every `if` both ways and goes through loops
any number of times. When a round of a loop is over it takes back what was bound in it, so that a name
left over from an earlier round counts as not bound.
-/

namespace SchemaGuard.Check

/-! ## Names in a text -/

/-- The names that a statement binds itself. -/
def Stmt.binds : Stmt → List Local
  | forItems index item _ _ _ => [index, item]
  | forKeys key _ _ => [key]
  | call name _ _ | branch name _ | countMatches name _ => [name]
  | report .. | abort _ | ifElse .. | takeOver .. => []

mutual

/-- A statement and those inside of it, in the order of the text; the text of branches counts if
`nested`. -/
def Stmt.within (nested : Bool) : Stmt → List Stmt
  | .ifElse test body orelse =>
    .ifElse test body orelse :: (withinAll nested body ++ withinAll nested orelse)
  | .forItems index item operand start body =>
    .forItems index item operand start body :: withinAll nested body
  | .forKeys key operand body => .forKeys key operand body :: withinAll nested body
  | .branch name body => .branch name body :: if nested then withinAll nested body else []
  | check => [check]

def withinAll (nested : Bool) : List Stmt → List Stmt
  | [] => []
  | check :: checks => check.within nested ++ withinAll nested checks

end

/-- The names bound in a text, once for each place where they are. -/
def boundIn (nested : Bool) (checks : List Stmt) : List Local :=
  (withinAll nested checks).flatMap Stmt.binds

/-! ## Paths through a text -/

/-- The names that stay bound after a statement, branches with their bodies. -/
def Stmt.leaves : Stmt → List (Local × Option (List Stmt))
  | call name _ _ | countMatches name _ => [(name, none)]
  | branch name body => [(name, some body)]
  | _ => []

/-- The names that a loop binds in a round, and what it does then. -/
def Stmt.round? : Stmt → Option (List Local × List Stmt)
  | forItems index item _ _ body => some ([index, item], body)
  | forKeys key _ body => some ([key], body)
  | _ => none

/-- A function that is running: the names that belong to it, and those that are bound now. -/
structure Level where
  own : List Local
  bound : List (Local × Option (List Stmt))

/-- A function at its start. -/
def Level.start (body : List Stmt) : Level := ⟨boundIn false body, []⟩

/-- Something to be done. -/
inductive Task where
  | block (checks : List Stmt)
  /-- Takes back what was bound in a round of a loop. -/
  | unbind (bound : List (Local × Option (List Stmt)))

/-- A point of a path: what the innermost function still has to do, and the functions around each
other, the innermost first. -/
structure Point where
  todo : List Task
  levels : List Level

/-- The function that a name belongs to, in front of those around it. -/
def home (name : Local) : List Level → List Level
  | [] => []
  | level :: outer => if name ∈ level.own then level :: outer else home name outer

/-- A name is bound in the function that it belongs to. -/
def Sees (levels : List Level) (name : Local) : Prop :=
  ∃ level outer body, home name levels = level :: outer ∧ (name, body) ∈ level.bound

/-- Steps of paths. A branch that is called is either followed, and then nothing else is, or it has
returned. -/
inductive Point.Next : Point → Point → Prop
  | finish {todo levels} : Next ⟨.block [] :: todo, levels⟩ ⟨todo, levels⟩
  | unbind {bound todo level outer} :
      Next ⟨.unbind bound :: todo, level :: outer⟩ ⟨todo, ⟨level.own, bound⟩ :: outer⟩
  | pass {check rest todo level outer} : Next ⟨.block (check :: rest) :: todo, level :: outer⟩
      ⟨.block rest :: todo, ⟨level.own, check.leaves ++ level.bound⟩ :: outer⟩
  | choose {test body orelse way rest todo levels} (hway : way = body ∨ way = orelse) :
      Next ⟨.block (.ifElse test body orelse :: rest) :: todo, levels⟩
        ⟨.block way :: .block rest :: todo, levels⟩
  | round {check names body rest todo level outer} (hround : check.round? = some (names, body)) :
      Next ⟨.block (check :: rest) :: todo, level :: outer⟩
        ⟨.block body :: .unbind level.bound :: .block (check :: rest) :: todo,
          ⟨level.own, names.map (·, none) ++ level.bound⟩ :: outer⟩
  | enter {check rest todo levels name body level outer} (hread : name ∈ check.reads)
      (hhome : home name levels = level :: outer) (hbody : (name, some body) ∈ level.bound) :
      Next ⟨.block (check :: rest) :: todo, levels⟩ ⟨[.block body], .start body :: level :: outer⟩

/-- The names of a text are bound and read as they should be. -/
structure Hygienic (text : List Stmt) : Prop where
  /-- A name that occurs is bound at one place. -/
  bound_once : ∀ check ∈ withinAll true text, ∀ name ∈ check.binds ++ check.reads,
    ((boundIn true text).map Local.text).count name.text = 1
  /-- What a branch binds is bound nowhere outside of it. -/
  kept_apart : ∀ name body, .branch name body ∈ withinAll true text → ∀ inner ∈ boundIn true body,
    (boundIn true text).count inner = (boundIn true body).count inner
  /-- What is read has been bound, on every path. -/
  read_in_time : ∀ point, Relation.ReflTransGen Point.Next ⟨[.block text], [.start text]⟩ point →
    ∀ check rest todo, point.todo = .block (check :: rest) :: todo →
      ∀ name ∈ check.reads, Sees point.levels name

/-! ## One place for every name -/

section Bound

variable {nested : Bool} {check : Stmt} {rest : List Stmt} {body : List Stmt}

theorem boundIn_ifElse {test : Test} {orelse : List Stmt} :
    boundIn nested (.ifElse test body orelse :: rest) =
      boundIn nested body ++ (boundIn nested orelse ++ boundIn nested rest) := by
  simp [boundIn, withinAll, Stmt.within, Stmt.binds]

theorem boundIn_round {names : List Local} (h : check.round? = some (names, body)) :
    boundIn nested (check :: rest) = names ++ (boundIn nested body ++ boundIn nested rest) := by
  unfold Stmt.round? at h
  split at h <;> cases h <;> simp [boundIn, withinAll, Stmt.within, Stmt.binds]

theorem boundIn_subset_cons : boundIn nested rest ⊆ boundIn nested (check :: rest) := by
  simp [boundIn, withinAll]

end Bound

/-- The numbers of names ascend between two numbers. -/
structure Ascends (low high : Nat) (names : List Local) : Prop where
  le : low ≤ high
  between : ∀ name ∈ names, low < name.number ∧ name.number ≤ high
  sorted : names.Pairwise (·.number < ·.number)

namespace Ascends

variable {low mid high : Nat} {names others : List Local} {s t : Progress} {name : Local}

theorem nil (h : low ≤ high) : Ascends low high [] := ⟨h, by simp, .nil⟩

theorem append (h : Ascends low mid names) (h' : Ascends mid high others) :
    Ascends low high (names ++ others) where
  le := Nat.le_trans h.le h'.le
  between name hname := by
    rcases List.mem_append.1 hname with hname | hname
    · exact ⟨(h.between name hname).1, Nat.le_trans (h.between name hname).2 h'.le⟩
    · exact ⟨Nat.lt_of_le_of_lt h.le (h'.between name hname).1, (h'.between name hname).2⟩
  sorted := List.pairwise_append.2 ⟨h.sorted, h'.sorted, fun a ha b hb =>
    Nat.lt_of_le_of_lt (h.between a ha).2 (h'.between b hb).1⟩

theorem of_draws (h : Draws s name t) : Ascends s.counter t.counter [name] where
  le := h.passes.1
  between other hother := by
    obtain rfl := List.mem_singleton.1 hother
    exact ⟨h.1, Nat.le_of_eq h.2.1.symm⟩
  sorted := List.pairwise_singleton _ _

theorem cons (h : Draws s name t) (h' : Ascends t.counter high names) :
    Ascends s.counter high (name :: names) :=
  (of_draws h).append h'

end Ascends

variable {name : Local}

theorem Local.digits_text (name : Local) :
    name.text.toList.filter Char.isDigit = Nat.toDigits 10 name.number := by
  have hstem : name.kind.stem.toList.filter Char.isDigit = [] := by
    cases name.kind <;> decide
  simp only [Local.text, toString, String.toList_append, List.filter_append, Nat.toList_repr, hstem]
  exact List.filter_eq_self.2 fun c => Nat.isDigit_of_mem_toDigits (by decide) (by decide)

theorem Local.number_eq_of_text {other : Local} (h : name.text = other.text) :
    name.number = other.number := by
  refine Number.toDigits_injective ?_
  rw [← name.digits_text, h, other.digits_text]

section Emitted

variable {place : Place} {inBranch : Bool} {known : List Local} {s s' : Progress}
  {checks : List Stmt} {check : Stmt} {name : Local}

/-- **Names are bound in the order of their numbers.** -/
theorem Emitted.ascends (h : Emitted place inBranch known s checks s') (nested : Bool) :
    Ascends s.counter s'.counter (boundIn nested checks) := by
  induction h with
  | done hs => exact .nil hs.1
  | report _ _ ih => exact ih
  | takeOver _ _ ih => exact ih
  | ifElse hasks _ _ _ _ ihbody ihorelse ih =>
    rw [boundIn_ifElse]
    exact (Ascends.nil hasks.1).append (ihbody.append (ihorelse.append ih))
  | forItems hindex hitem _ _ _ ihbody ih =>
    rw [boundIn_round rfl]
    exact .cons hindex (.cons hitem (ihbody.append ih))
  | forKeys hkey _ _ _ ihbody ih =>
    rw [boundIn_round rfl]
    exact .cons hkey (ihbody.append ih)
  | call hresult _ _ _ ih => exact .cons hresult ih
  | branch hname _ _ ihbody ih =>
    cases nested with
    | true =>
      have h := Ascends.cons hname (ihbody.append ih)
      simpa [boundIn, withinAll, Stmt.within, Stmt.binds] using h
    | false => exact .cons hname ((Ascends.nil ihbody.le).append ih)
  | countMatches hcount _ _ ih => exact .cons hcount ih

/-- What is read in a text is known to it or bound in it. -/
theorem Emitted.reads_bound (h : Emitted place inBranch known s checks s')
    (hcheck : check ∈ withinAll true checks) (hname : name ∈ check.reads) :
    name ∈ known ∨ name ∈ boundIn true checks := by
  unfold boundIn
  rw [List.mem_flatMap]
  induction h with
  | done => cases hcheck
  | report hreads _ ih =>
    simp only [withinAll, Stmt.within, List.mem_append, List.mem_singleton] at hcheck ⊢
    grind [Stmt.reads]
  | takeOver hreads _ ih =>
    simp only [withinAll, Stmt.within, List.mem_append, List.mem_cons, List.not_mem_nil] at hcheck ⊢
    grind [Stmt.reads, Test.locals]
  | ifElse _ hreads _ _ _ ihbody ihorelse ih =>
    simp only [withinAll, Stmt.within, List.mem_append, List.mem_cons] at hcheck ⊢
    grind [Stmt.reads]
  | forItems _ _ hreads _ _ ihbody ih | forKeys _ hreads _ _ ihbody ih =>
    simp only [withinAll, Stmt.within, List.mem_append, List.mem_cons] at hcheck ⊢
    grind [Stmt.reads, Stmt.binds]
  | branch _ _ _ ihbody ih =>
    simp only [withinAll, Stmt.within, List.mem_append, List.mem_cons, if_true] at hcheck ⊢
    grind [Stmt.reads, Stmt.binds]
  | call _ hreads _ _ ih | countMatches _ hreads _ ih =>
    simp only [withinAll, Stmt.within, List.mem_append, List.mem_singleton] at hcheck ⊢
    grind [Stmt.reads, Stmt.binds]

/-- The text of a branch is a part of the text that it stands in. -/
theorem Emitted.branch_within (h : Emitted place inBranch known s checks s') {body : List Stmt}
    (hmem : .branch name body ∈ withinAll true checks) :
    (withinAll true body).Sublist (withinAll true checks) := by
  induction h with
  | done => cases hmem
  | report _ _ ih | takeOver _ _ ih | ifElse _ _ _ _ _ ihbody ihorelse ih
  | forItems _ _ _ _ _ ihbody ih | forKeys _ _ _ _ ihbody ih | call _ _ _ _ ih
  | branch _ _ _ ihbody ih | countMatches _ _ _ ih =>
    simp only [withinAll, Stmt.within, List.mem_append, List.mem_cons, if_true] at hmem ⊢
    grind

/-- What a statement reads is known where it stands. -/
theorem Emitted.reads_known {rest : List Stmt}
    (h : Emitted place inBranch known s (check :: rest) s') : check.reads ⊆ known := by
  cases h with
  | report hreads | ifElse _ hreads | forItems _ _ hreads | forKeys _ hreads | call _ hreads
  | countMatches _ hreads => exact hreads
  | takeOver hreads => exact List.cons_subset.2 ⟨hreads List.mem_cons_self, List.nil_subset _⟩
  | branch => exact List.nil_subset _

end Emitted

/-! ## Bound before read -/

theorem Sees.mono {own : List Local} {bound more : List (Local × Option (List Stmt))}
    {outer : List Level} (h : Sees (⟨own, bound⟩ :: outer) name) (hmore : bound ⊆ more) :
    Sees (⟨own, more⟩ :: outer) name := by
  obtain ⟨level, rest, body, hhome, hbound⟩ := h
  unfold Sees
  simp only [home] at hhome ⊢
  split at hhome
  · obtain ⟨rfl, rfl⟩ := List.cons.inj hhome
    exact ⟨_, _, body, if_pos ‹_›, hmore hbound⟩
  · exact ⟨level, rest, body, by rwa [if_neg ‹_›], hbound⟩

/-- Statements that bind nothing and have nothing inside. -/
def Stmt.isPlain : Stmt → Bool
  | report .. | abort _ | takeOver .. => true
  | _ => false

/-- Names that are seen, with numbers drawn before. -/
def Available (levels : List Level) (s : Progress) (known : List Local) : Prop :=
  ∀ name ∈ known, name.number ≤ s.counter ∧ Sees levels name

/-- Checks that a function can go on with. -/
inductive Ready (place : Place) (level : Level) (outer : List Level) : List Stmt → Prop
  | emitted {inBranch known s checks s'} (h : Emitted place inBranch known s checks s')
      (hknown : Available (level :: outer) s known) (hown : boundIn false checks ⊆ level.own) :
      Ready place level outer checks
  | plain {check rest} (hplain : check.isPlain = true)
      (hreads : ∀ name ∈ check.reads, Sees (level :: outer) name)
      (hrest : Ready place level outer rest) : Ready place level outer (check :: rest)

/-- The branches that are bound can be called. -/
def Callable (place : Place) (level : Level) (outer : List Level) : Prop :=
  ∀ name body, (name, some body) ∈ level.bound → ∃ known s s',
    Emitted place true known s body s' ∧ Available (level :: outer) s known

section Paths

variable {place : Place} {own : List Local} {bound more : List (Local × Option (List Stmt))}
  {outer : List Level} {known : List Local} {s t : Progress} {check : Stmt} {rest : List Stmt}

theorem Sees.of_own {name : Local} {body : Option (List Stmt)} (hown : name ∈ own)
    (hbound : (name, body) ∈ bound) : Sees (⟨own, bound⟩ :: outer) name :=
  ⟨_, _, body, if_pos hown, hbound⟩

namespace Available

variable {levels : List Level}

theorem mono (h : Available (⟨own, bound⟩ :: outer) s known) (hmore : bound ⊆ more) :
    Available (⟨own, more⟩ :: outer) s known :=
  fun name hname => ⟨(h name hname).1, (h name hname).2.mono hmore⟩

theorem later (h : Available levels s known) (ht : s.counter ≤ t.counter) :
    Available levels t known :=
  fun name hname => ⟨Nat.le_trans (h name hname).1 ht, (h name hname).2⟩

theorem cons {name : Local} (h : Available levels s known) (hname : Draws s name t)
    (hsees : Sees levels name) : Available levels t (name :: known) := by
  intro other hother
  rcases List.mem_cons.1 hother with rfl | hother
  · exact ⟨Nat.le_of_eq hname.2.1.symm, hsees⟩
  · exact h.later hname.passes.1 other hother

end Available

namespace Ready

theorem nil {level : Level} : Ready place level outer [] :=
  .emitted (.nil : Emitted place false [] ⟨0, false, []⟩ [] _)
    (fun _ hname => (List.not_mem_nil hname).elim) (List.nil_subset _)

theorem sees (h : Ready place ⟨own, bound⟩ outer (check :: rest)) {name : Local}
    (hname : name ∈ check.reads) : Sees (⟨own, bound⟩ :: outer) name := by
  cases h with
  | emitted h hknown => exact (hknown name (h.reads_known hname)).2
  | plain _ hreads => exact hreads name hname

theorem mono {checks : List Stmt} (h : Ready place ⟨own, bound⟩ outer checks)
    (hmore : bound ⊆ more) : Ready place ⟨own, more⟩ outer checks := by
  induction h with
  | emitted h hknown hown => exact .emitted h (hknown.mono hmore) hown
  | plain hplain hreads _ ih =>
    exact .plain hplain (fun name hname => (hreads name hname).mono hmore) ih

/-- One statement is passed. What it leaves bound is its function's own, so it is seen from then on. -/
theorem pass (h : Ready place ⟨own, bound⟩ outer (check :: rest)) :
    Ready place ⟨own, check.leaves ++ bound⟩ outer rest := by
  have hmore : bound ⊆ check.leaves ++ bound := List.subset_append_right _ _
  cases h with
  | plain hplain hreads hrest => exact hrest.mono hmore
  | emitted h hknown hown =>
    have hrestown := List.Subset.trans boundIn_subset_cons hown
    cases h with
    | report hreads hrest =>
      exact .plain rfl (by simp [Stmt.reads])
        (.emitted hrest hknown (List.Subset.trans boundIn_subset_cons hrestown))
    | takeOver _ hrest => exact .emitted hrest hknown hrestown
    | ifElse hasks _ hbody horelse hrest =>
      exact .emitted hrest (hknown.later (Nat.le_trans hasks.1
        (Nat.le_trans (hbody.ascends true).le (horelse.ascends true).le))) hrestown
    | forItems hindex hitem _ hbody hrest =>
      exact .emitted hrest (hknown.later (Nat.le_trans
        (hindex.passes.trans hitem.passes).1 (hbody.ascends true).le)) hrestown
    | forKeys hkey _ hbody hrest =>
      exact .emitted hrest (hknown.later (Nat.le_trans hkey.passes.1 (hbody.ascends true).le))
        hrestown
    | call hname _ _ hrest | countMatches hname _ hrest =>
      exact .emitted hrest ((hknown.mono hmore).cons hname
        (.of_own (hown List.mem_cons_self) List.mem_cons_self)) hrestown
    | branch hname hbody hrest =>
      exact .emitted hrest (((hknown.mono hmore).cons hname
        (.of_own (hown List.mem_cons_self) List.mem_cons_self)).later (hbody.ascends true).le)
        hrestown

theorem choose {level : Level} {test : Test} {body orelse way : List Stmt}
    (h : Ready place level outer (.ifElse test body orelse :: rest))
    (hway : way = body ∨ way = orelse) : Ready place level outer way := by
  cases h with
  | plain hplain => cases hplain
  | emitted h hknown hown =>
    rw [boundIn_ifElse] at hown
    obtain ⟨hbodyown, horelseown⟩ := List.append_subset.1 hown
    cases h with
    | takeOver hreads =>
      rcases hway with rfl | rfl
      · exact .plain rfl (fun name hname => (hknown name (hreads hname)).2)
          (.plain rfl (by simp [Stmt.reads]) nil)
      · exact nil
    | ifElse hasks _ hbody horelse =>
      rcases hway with rfl | rfl
      · exact .emitted hbody (hknown.later hasks.1) hbodyown
      · exact .emitted horelse (hknown.later (Nat.le_trans hasks.1 (hbody.ascends true).le))
          (List.append_subset.1 horelseown).1

theorem round {names : List Local} {body : List Stmt} (hround : check.round? = some (names, body))
    (h : Ready place ⟨own, bound⟩ outer (check :: rest)) :
    Ready place ⟨own, names.map (·, none) ++ bound⟩ outer body := by
  have hmore : bound ⊆ names.map (·, none) ++ bound := List.subset_append_right _ _
  cases h with
  | plain hplain => cases check <;> simp_all [Stmt.isPlain, Stmt.round?]
  | emitted h hknown hown =>
    rw [boundIn_round hround] at hown
    obtain ⟨hnames, hbodyown⟩ := List.append_subset.1 hown
    have hseen : ∀ name ∈ names, Sees (⟨own, names.map (·, none) ++ bound⟩ :: outer) name :=
      fun name hname => .of_own (hnames hname) (List.mem_append_left _ (List.mem_map_of_mem hname))
    have hknown := hknown.mono hmore
    cases h with
    | forItems hindex hitem _ hbody =>
      cases hround
      exact .emitted hbody ((hknown.cons hindex (hseen _ (by simp))).cons hitem (hseen _ (by simp)))
        (List.append_subset.1 hbodyown).1
    | forKeys hkey _ hbody =>
      cases hround
      exact .emitted hbody (hknown.cons hkey (hseen _ (by simp))) (List.append_subset.1 hbodyown).1
    | report | takeOver | ifElse | call | branch | countMatches => cases hround

end Ready

/-- More names may be bound, branches among them if they can be called. -/
theorem Callable.extend (h : Callable place ⟨own, bound⟩ outer)
    (hmore : ∀ name body, (name, some body) ∈ more → ∃ known s s',
      Emitted place true known s body s' ∧ Available (⟨own, bound⟩ :: outer) s known) :
    Callable place ⟨own, more ++ bound⟩ outer := by
  intro name body hmem
  have hcall : ∃ known s s', Emitted place true known s body s' ∧
      Available (⟨own, bound⟩ :: outer) s known :=
    (List.mem_append.1 hmem).elim (hmore name body) (h name body)
  obtain ⟨known, s, s', hbody, hknown⟩ := hcall
  exact ⟨known, s, s', hbody, hknown.mono (List.subset_append_right _ _)⟩

theorem Ready.callable_pass (h : Ready place ⟨own, bound⟩ outer (check :: rest))
    (hcall : Callable place ⟨own, bound⟩ outer) :
    Callable place ⟨own, check.leaves ++ bound⟩ outer := by
  refine hcall.extend fun name body hmem => ?_
  cases check with
  | branch =>
    cases List.mem_singleton.1 hmem
    cases h with
    | plain hplain => cases hplain
    | emitted h hknown =>
      cases h with
      | branch hname hbody => exact ⟨_, _, _, hbody, hknown.later hname.passes.1⟩
  | call | countMatches => cases List.mem_singleton.1 hmem
  | report | abort | ifElse | forItems | forKeys | takeOver => cases hmem

end Paths

/-! ## All paths -/

section Points

variable (place : Place)

/-- What is to be done can be done in a function, where some names are bound now. -/
def TodoReady (own : List Local) (outer : List Level) :
    List Task → List (Local × Option (List Stmt)) → Prop
  | [], _ => True
  | .block checks :: todo, bound =>
    Ready place ⟨own, bound⟩ outer checks ∧ TodoReady own outer todo bound
  | .unbind before :: todo, _ =>
    Callable place ⟨own, before⟩ outer ∧ TodoReady own outer todo before

def AllCallable : List Level → Prop
  | [] => True
  | level :: outer => Callable place level outer ∧ AllCallable outer

/-- A point from which paths go on as they should. -/
def Sound : Point → Prop
  | ⟨todo, level :: outer⟩ =>
    TodoReady place level.own outer todo level.bound ∧ AllCallable place (level :: outer)
  | ⟨_, []⟩ => False

variable {place} {todo : List Task} {name : Local} {point : Point}

theorem TodoReady.mono {own : List Local} {bound more : List (Local × Option (List Stmt))}
    {outer : List Level} (h : TodoReady place own outer todo bound) (hmore : bound ⊆ more) :
    TodoReady place own outer todo more := by
  induction todo with
  | nil => trivial
  | cons task todo ih =>
    cases task with
    | block checks => exact ⟨h.1.mono hmore, ih h.2⟩
    | unbind before => exact h

theorem AllCallable.home {levels found : List Level} (h : AllCallable place levels)
    (hhome : home name levels = found) : AllCallable place found := by
  induction levels with
  | nil =>
    cases hhome
    trivial
  | cons level outer ih =>
    unfold Check.home at hhome
    split at hhome
    · cases hhome
      exact h
    · exact ih h.2 hhome

/-- **Every step keeps a point sound.** -/
theorem Sound.next {point point' : Point} (h : Sound place point) (hnext : point.Next point') :
    Sound place point' := by
  cases hnext with
  | @finish todo levels =>
    cases levels with
    | nil => exact h
    | cons level outer => exact ⟨h.1.2, h.2⟩
  | unbind => exact ⟨h.1.2, h.1.1, h.2.2⟩
  | pass =>
    exact ⟨⟨h.1.1.pass, h.1.2.mono (List.subset_append_right _ _)⟩, h.1.1.callable_pass h.2.1, h.2.2⟩
  | @choose _ _ _ _ _ _ levels hway =>
    cases levels with
    | nil => exact h
    | cons level outer => exact ⟨⟨h.1.1.choose hway, h.1.1.pass, h.1.2⟩, h.2⟩
  | round hround =>
    exact ⟨⟨h.1.1.round hround, h.2.1, h.1⟩, h.2.1.extend (by simp), h.2.2⟩
  | @enter _ _ _ levels name body level outer _ hhome hbody =>
    cases levels with
    | nil => cases hhome
    | cons first others =>
      have hall := h.2.home hhome
      obtain ⟨known, s, s', hemitted, hknown⟩ := hall.1 _ _ hbody
      refine ⟨⟨.emitted hemitted (fun other hother => ?_) (List.Subset.refl _), trivial⟩,
        fun _ _ hmem => (List.not_mem_nil hmem).elim, hall⟩
      -- The branch knows names with lower numbers than its own, so it does not hide them.
      obtain ⟨hle, found, rest, bound, hfound, hmem⟩ := hknown other hother
      have hforeign : other ∉ boundIn false body := fun hown =>
        Nat.not_lt.2 hle ((hemitted.ascends false).between other hown).1
      exact ⟨hle, found, rest, bound, (if_neg hforeign).trans hfound, hmem⟩

theorem Sound.reaches {point' : Point} (h : Sound place point)
    (hpath : Relation.ReflTransGen Point.Next point point') : Sound place point' := by
  induction hpath with
  | refl => exact h
  | tail _ hnext ih => exact ih.next hnext

theorem Sound.sees (h : Sound place point) {check : Stmt} {rest : List Stmt}
    (htodo : point.todo = .block (check :: rest) :: todo) (hname : name ∈ check.reads) :
    Sees point.levels name := by
  obtain ⟨_, levels⟩ := point
  cases htodo
  cases levels with
  | nil => exact h.elim
  | cons level outer => exact h.1.1.sees hname

end Points

/-- **The local names of every validator are hygienic.** -/
theorem validatorOf_hygienic {place : Place} {node : Node} {name typeName : String} {s s' : Progress}
    {validator : Validator} (h : Gives (validatorOf place node name typeName) s validator s') :
    Hygienic validator.body := by
  have hemitted := validatorOf_emitted h
  have hsorted := (hemitted.ascends true).sorted
  have hnodup : (boundIn true validator.body).Nodup :=
    List.nodup_iff_pairwise_ne.2
      (hsorted.imp fun hlt heq => Nat.ne_of_lt hlt (congrArg Local.number heq))
  constructor
  · intro check hcheck name hname
    have hmem : name ∈ boundIn true validator.body := by
      rcases List.mem_append.1 hname with hname | hname
      · exact List.mem_flatMap.2 ⟨check, hcheck, hname⟩
      · exact (hemitted.reads_bound hcheck hname).resolve_left List.not_mem_nil
    refine List.count_eq_one_of_mem ?_ (List.mem_map_of_mem hmem)
    rw [List.nodup_iff_pairwise_ne, List.pairwise_map]
    exact hsorted.imp fun hlt heq => Nat.ne_of_lt hlt (Local.number_eq_of_text heq)
  · intro name body hbranch inner hinner
    have hpart : (boundIn true body).Sublist (boundIn true validator.body) :=
      (hemitted.branch_within hbranch).flatMap Stmt.binds
    rw [List.count_eq_one_of_mem hnodup (hpart.subset hinner),
      List.count_eq_one_of_mem (hnodup.sublist hpart) hinner]
  · intro point hpath check rest todo htodo name hname
    have hstart : Sound place ⟨[.block validator.body], [.start validator.body]⟩ :=
      ⟨⟨.emitted hemitted (fun _ hname => (List.not_mem_nil hname).elim) (List.Subset.refl _), trivial⟩,
        fun _ _ hmem => (List.not_mem_nil hmem).elim, trivial⟩
    exact (hstart.reaches hpath).sees htodo hname

/-- Lists of alternatives, of which one is itself a list with alternatives. -/
def alternatives : Node :=
  let origin : Origin := ⟨"#", .null⟩
  .array origin (.all (.combinator origin .oneOf [
    .array origin (.all (.combinator origin .anyOf [.ref origin "#/$defs/a"])) none
      ⟨none, none, false⟩,
    .object origin none [] (.schema (.primitive origin .boolean)) ⟨none, none⟩])) none
    ⟨none, none, false⟩

/-- A place where one pointer has a validator. -/
def alternativesPlace : Place :=
  ⟨.null, { Registry.empty with validators := [("#/$defs/a", "validateA")] }⟩

/-- The theorem at branches in loops in branches in loops. -/
theorem validatorOf_hygienic_alternatives : ∃ validator s',
    Gives (validatorOf alternativesPlace alternatives "validateT" "T") ⟨0, false, []⟩ validator s' ∧
    (boundIn true validator.body).map Local.text = ["_i1", "_item2", "_branch3", "_i4", "_item5",
      "_branch6", "_ref7", "_branch8", "_key9", "_matches10"] ∧ Hygienic validator.body := by
  have hruns : ((validatorOf alternativesPlace alternatives "validateT" "T").run.run
      ⟨0, false, []⟩).1.toOption.any (fun validator => decide
        ((boundIn true validator.body).map Local.text = ["_i1", "_item2", "_branch3", "_i4", "_item5",
          "_branch6", "_ref7", "_branch8", "_key9", "_matches10"])) = true := by decide +kernel
  obtain ⟨validator, hrun, hnames⟩ := exists_ok_of_any hruns
  have hgives : Gives _ _ validator _ := Prod.ext hrun rfl
  exact ⟨validator, _, hgives, of_decide_eq_true hnames, validatorOf_hygienic hgives⟩

end SchemaGuard.Check
