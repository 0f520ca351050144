import Mathlib.Algebra.Ring.Nat
import Mathlib.Data.List.Induction
import Mathlib.Data.List.Nodup
import SchemaGuard.Issue
import SchemaGuard.Proofs.Numerals
import SchemaGuard.Proofs.Tables

/-!
# Issues grouped by place

Issues are shown beside the text of their path. Two paths have the same text only if they are the
same, provided that their names are not empty and hold neither of the characters that begin a step, `.`
and `[` (`pathText_injective`): every step of a text begins with such a character and has no other one
in it, so the text can be cut into its steps again.

Grouping goes through the issues one after another. What it has built up after some of them is said by
these alone: the messages of those without a path, and for each other path, in the order in which the
paths first come, the messages of the issues that have it (`flatten_eq`).
-/

namespace SchemaGuard

/-! ## Cutting texts into steps -/

/-- A step whose text can be told from what stands around it. -/
def PathToken.isPlain : PathToken → Bool
  | key name => !name.isEmpty && !name.toList.contains '.' && !name.toList.contains '['
  | index _ => true
  | flag _ => true

namespace Issue

/-- The characters that steps begin with. -/
def opens (c : Char) : Bool := c == '.' || c == '['

/-- The characters of some steps after the first one. -/
def steps (path : List PathToken) : List Char := path.flatMap fun token => (stepText token).toList

variable {path other : List PathToken}

theorem toList_stepText_key (name : String) : (stepText (.key name)).toList = '.' :: name.toList := by
  simp [stepText]

theorem toList_stepText_index (position : Int) :
    (stepText (.index position)).toList = '[' :: ((toString position).toList ++ [']']) := by
  change ("[" ++ toString position ++ "]").toList = _
  simp

/-- The text of a step begins like one, and only there. -/
theorem stepText_cases {token : PathToken} (h : token.isPlain = true) :
    ∃ first inner, (stepText token).toList = first :: inner ∧ opens first = true ∧
      ∀ c ∈ inner, opens c = false := by
  cases token with
  | key name =>
    simp only [PathToken.isPlain, Bool.and_eq_true, Bool.not_eq_true', List.contains_eq_mem,
      decide_eq_false_iff_not] at h
    refine ⟨'.', name.toList, toList_stepText_key name, rfl, fun c hc => ?_⟩
    have hpoint : c ≠ '.' := fun heq => h.1.2 (heq ▸ hc)
    have hbracket : c ≠ '[' := fun heq => h.2 (heq ▸ hc)
    simp [opens, hpoint, hbracket]
  | index position =>
    refine ⟨'[', _, toList_stepText_index position, rfl, fun c hc => ?_⟩
    rcases List.mem_append.1 hc with hc | hc
    · rcases Number.toString_int_chars hc with rfl | hdigit
      · rfl
      · have hpoint : c ≠ '.' := by
          rintro rfl
          simp at hdigit
        have hbracket : c ≠ '[' := by
          rintro rfl
          simp at hdigit
        simp [opens, hpoint, hbracket]
    · rw [List.mem_singleton.1 hc]
      rfl
  | flag value =>
    cases value with
    | false => exact ⟨'[', ['F', 'a', 'l', 's', 'e', ']'], by simp [stepText], rfl, by simp [opens]⟩
    | true => exact ⟨'[', ['T', 'r', 'u', 'e', ']'], by simp [stepText], rfl, by simp [opens]⟩

theorem toList_flag_ne_index (value : Bool) (position : Int) :
    (stepText (.flag value)).toList ≠ (stepText (.index position)).toList := by
  intro h
  rw [toList_stepText_index] at h
  have hletter : 'e' ∈ (toString position).toList := by
    have hmem : 'e' ∈ (stepText (.flag value)).toList := by cases value <;> simp [stepText]
    simpa [h] using hmem
  rcases Number.toString_int_chars hletter with heq | hdigit
  · simp at heq
  · simp at hdigit

theorem stepText_injective {token other : PathToken}
    (h : (stepText token).toList = (stepText other).toList) : token = other := by
  cases token with
  | key name =>
    cases other with
    | key name' => simpa [toList_stepText_key, String.toList_inj] using h
    | index position => simp [toList_stepText_key, toList_stepText_index] at h
    | flag value => cases value <;> simp [stepText] at h
  | index position =>
    cases other with
    | key name => simp [toList_stepText_key, toList_stepText_index] at h
    | index position' =>
      rw [toList_stepText_index, toList_stepText_index] at h
      have htext := String.toList_inj.1 (List.append_cancel_right (List.cons.inj h).2)
      rw [Number.toString_int_injective htext]
    | flag value => exact (toList_flag_ne_index value position h.symm).elim
  | flag value =>
    cases other with
    | key name => cases value <;> simp [stepText] at h
    | index position => exact (toList_flag_ne_index value position h).elim
    | flag value' => cases value <;> cases value' <;> simp_all [stepText]

theorem takeWhile_steps (h : path.all PathToken.isPlain = true) :
    (steps path).takeWhile (fun c => !opens c) = [] := by
  cases path with
  | nil => rfl
  | cons token rest =>
    obtain ⟨first, inner, htext, hopens, -⟩ := stepText_cases (List.all_eq_true.1 h token (by simp))
    simp [steps, htext, hopens]

/-- What stands before the first step is told from the steps. -/
theorem append_steps_inj {start start' : List Char} (hstart : ∀ c ∈ start, opens c = false)
    (hstart' : ∀ c ∈ start', opens c = false) (hpath : path.all PathToken.isPlain = true)
    (hother : other.all PathToken.isPlain = true)
    (h : start ++ steps path = start' ++ steps other) : start = start' ∧ steps path = steps other := by
  have hcut := congrArg (List.takeWhile fun c => !opens c) h
  rw [List.takeWhile_append_of_pos (by simpa using hstart), takeWhile_steps hpath,
    List.takeWhile_append_of_pos (by simpa using hstart'), takeWhile_steps hother, List.append_nil,
    List.append_nil] at hcut
  subst hcut
  exact ⟨rfl, List.append_cancel_left h⟩

theorem steps_injective (hpath : path.all PathToken.isPlain = true)
    (hother : other.all PathToken.isPlain = true) (h : steps path = steps other) :
    path = other := by
  induction path generalizing other with
  | nil =>
    cases other with
    | nil => rfl
    | cons token rest =>
      obtain ⟨first, inner, htext, -⟩ := stepText_cases (List.all_eq_true.1 hother token (by simp))
      simp [steps, htext] at h
  | cons token rest ih =>
    rw [List.all_cons, Bool.and_eq_true] at hpath
    obtain ⟨first, inner, htext, -, hinner⟩ := stepText_cases hpath.1
    cases other with
    | nil => simp [steps, htext] at h
    | cons token' rest' =>
      rw [List.all_cons, Bool.and_eq_true] at hother
      obtain ⟨first', inner', htext', -, hinner'⟩ := stepText_cases hother.1
      have hcut : first :: (inner ++ steps rest) = first' :: (inner' ++ steps rest') := by
        simpa [steps, htext, htext'] using h
      obtain ⟨rfl, hafter⟩ := List.cons.inj hcut
      obtain ⟨rfl, hrest⟩ := append_steps_inj hinner hinner' hpath.2 hother.2 hafter
      rw [stepText_injective (htext.trans htext'.symm), ih hpath.2 hother.2 hrest]

/-! ## The text of a path -/

theorem toList_pathText_key (name : String) (rest : List PathToken) :
    (pathText (.key name :: rest)).toList = name.toList ++ steps rest := by
  simp [pathText, steps, List.flatMap_map]

/-- A path that begins with no name is a sequence of steps. -/
theorem toList_pathText (h : ∀ name rest, path ≠ .key name :: rest) :
    (pathText path).toList = steps path := by
  unfold pathText
  split
  · rfl
  · exact (h _ _ rfl).elim
  · simp [steps, List.flatMap_map]

theorem isPlain_key {name : String} (h : (PathToken.key name).isPlain = true) :
    name.toList ≠ [] ∧ ∀ c ∈ name.toList, opens c = false := by
  obtain ⟨first, inner, htext, -, hinner⟩ := stepText_cases h
  obtain ⟨-, rfl⟩ := List.cons.inj ((toList_stepText_key name).symm.trans htext)
  refine ⟨fun hempty => ?_, hinner⟩
  simp [PathToken.isPlain, String.toList_eq_nil_iff.1 hempty] at h

theorem key_append_ne_steps {name : String} {rest : List PathToken}
    (hname : (PathToken.key name).isPlain = true) (hrest : rest.all PathToken.isPlain = true)
    (hother : other.all PathToken.isPlain = true) :
    name.toList ++ steps rest ≠ [] ++ steps other := by
  obtain ⟨hne, hinner⟩ := isPlain_key hname
  exact fun h => hne (append_steps_inj hinner (by simp) hrest hother h).1

/-- **Different places have different texts.** -/
theorem pathText_injective (hpath : path.all PathToken.isPlain = true)
    (hother : other.all PathToken.isPlain = true) (h : pathText path = pathText other) :
    path = other := by
  have htext := congrArg String.toList h
  by_cases hkey : ∃ name rest, path = .key name :: rest
  · obtain ⟨name, rest, rfl⟩ := hkey
    rw [List.all_cons, Bool.and_eq_true] at hpath
    rw [toList_pathText_key] at htext
    by_cases hkey' : ∃ name' rest', other = .key name' :: rest'
    · obtain ⟨name', rest', rfl⟩ := hkey'
      rw [List.all_cons, Bool.and_eq_true] at hother
      rw [toList_pathText_key] at htext
      obtain ⟨hname, hrest⟩ := append_steps_inj (isPlain_key hpath.1).2 (isPlain_key hother.1).2
        hpath.2 hother.2 htext
      rw [String.toList_inj.1 hname, steps_injective hpath.2 hother.2 hrest]
    · rw [toList_pathText fun name' rest' heq => hkey' ⟨name', rest', heq⟩] at htext
      exact (key_append_ne_steps hpath.1 hpath.2 hother htext).elim
  · rw [toList_pathText fun name rest heq => hkey ⟨name, rest, heq⟩] at htext
    by_cases hkey' : ∃ name' rest', other = .key name' :: rest'
    · obtain ⟨name', rest', rfl⟩ := hkey'
      rw [List.all_cons, Bool.and_eq_true] at hother
      rw [toList_pathText_key] at htext
      exact (key_append_ne_steps hother.1 hother.2 hpath htext.symm).elim
    · rw [toList_pathText fun name' rest' heq => hkey' ⟨name', rest', heq⟩] at htext
      exact steps_injective hpath hother htext

end Issue

/-! ## Tables whose keys are texts of something -/

namespace Table

variable {ι α : Type} [DecidableEq ι] {text : ι → String} {items : List ι} {item : ι}

theorem get?_map (f : ι → α) (h : ∀ other ∈ items, text other = text item → other = item) :
    Table.get? (items.map fun other => (text other, f other)) (text item) =
      if item ∈ items then some (f item) else none := by
  induction items with
  | nil => rfl
  | cons first items ih =>
    rw [List.map_cons, get?_cons]
    by_cases heq : first = item
    · simp [heq]
    · have hne : text item ≠ text first := fun htext => heq (h first (by simp) htext.symm)
      rw [if_neg hne, ih fun other hmem => h other (by simp [hmem])]
      simp [Ne.symm heq]

theorem has_map (f : ι → α) (h : ∀ other ∈ items, text other = text item → other = item) :
    Table.has (items.map fun other => (text other, f other)) (text item) = true ↔ item ∈ items := by
  rw [has_iff, get?_map f h]
  split <;> simp_all

theorem put_map (f : ι → α) (value : α)
    (h : ∀ other ∈ items, text other = text item → other = item) :
    Table.put (items.map fun other => (text other, f other)) (text item) value =
      (if item ∈ items then items else items ++ [item]).map
        fun other => (text other, if other = item then value else f other) := by
  unfold put
  by_cases hmem : item ∈ items
  · rw [if_pos ((has_map f h).2 hmem), if_pos hmem, List.map_map]
    refine List.map_congr_left fun other hother => ?_
    by_cases heq : other = item
    · simp [heq]
    · have hne : text other ≠ text item := fun htext => heq (h other hother htext)
      simp [heq, hne]
  · rw [if_neg (mt (has_map f h).1 hmem), if_neg hmem, List.map_append]
    refine congr (congrArg _ (List.map_congr_left fun other hother => ?_)) (by simp)
    have hne : other ≠ item := by
      rintro rfl
      exact hmem hother
    simp [hne]

end Table

/-! ## Groups -/

namespace Issue

/-- The messages of the issues that have a path. -/
def messagesAt (issues : List Issue) (path : List PathToken) : List String :=
  (issues.filter (·.path == path)).map (·.message)

/-- The paths of issues that go somewhere, in the order in which they first come. -/
def places (issues : List Issue) : List (List PathToken) :=
  ((issues.map (·.path)).filter (!·.isEmpty)).eraseDups

variable {issues : List Issue}

theorem messagesAt_append (issues : List Issue) (issue : Issue) (path : List PathToken) :
    messagesAt (issues ++ [issue]) path =
      messagesAt issues path ++ if path = issue.path then [issue.message] else [] := by
  unfold messagesAt
  by_cases h : path = issue.path
  · simp [h]
  · simp [h, Ne.symm h]

theorem messagesAt_eq_nil {path : List PathToken} (h : ∀ issue ∈ issues, issue.path ≠ path) :
    messagesAt issues path = [] := by
  simpa [messagesAt] using h

theorem mem_places {path : List PathToken} :
    path ∈ places issues ↔ path ≠ [] ∧ ∃ issue ∈ issues, issue.path = path := by
  simp [places, List.mem_eraseDups, and_comm]

theorem eraseDups_concat {α : Type} [BEq α] [LawfulBEq α] (elements : List α) (last : α) :
    (elements ++ [last]).eraseDups =
      if last ∈ elements then elements.eraseDups else elements.eraseDups ++ [last] := by
  rw [List.eraseDups_append]
  by_cases h : last ∈ elements <;> simp [List.removeAll, h, List.eraseDups_cons]

theorem places_append (issues : List Issue) (issue : Issue) :
    places (issues ++ [issue]) =
      if issue.path = [] ∨ issue.path ∈ places issues then places issues
      else places issues ++ [issue.path] := by
  by_cases hempty : issue.path = []
  · simp [places, hempty]
  · have hlast : [issue.path].filter (!·.isEmpty) = [issue.path] := by simp [hempty]
    rw [places, List.map_append, List.filter_append, List.map_singleton, hlast, eraseDups_concat]
    by_cases hmem : issue.path ∈ places issues
    · rw [if_pos (List.mem_eraseDups.1 hmem), if_pos (.inr hmem), places]
    · rw [if_neg (mt List.mem_eraseDups.2 hmem), if_neg (by simp [hempty, hmem]), places]

theorem nodup_places (issues : List Issue) : (places issues).Nodup := by
  induction issues using List.reverseRecOn with
  | nil => simp [places]
  | append_singleton issues issue ih =>
    rw [places_append]
    split
    · exact ih
    · rename_i hnew
      rw [not_or] at hnew
      refine List.nodup_append.2 ⟨ih, List.nodup_singleton _, fun path hpath other hother heq => ?_⟩
      rw [heq, List.mem_singleton.1 hother] at hpath
      exact hnew.2 hpath

/-- Adding a message to those of a place. -/
theorem addField_places {issue : Issue} {form : List String} (hne : issue.path ≠ [])
    (h : ∀ path ∈ places issues, pathText path = pathText issue.path → path = issue.path) :
    Flat.addField ⟨form, (places issues).map fun path => (pathText path, messagesAt issues path)⟩
        (pathText issue.path) issue.message =
      ⟨form, (places (issues ++ [issue])).map fun path =>
        (pathText path, messagesAt (issues ++ [issue]) path)⟩ := by
  have hearlier : (Table.get? ((places issues).map fun path => (pathText path, messagesAt issues path))
      (pathText issue.path)).getD [] = messagesAt issues issue.path := by
    rw [Table.get?_map _ h]
    by_cases hmem : issue.path ∈ places issues
    · simp [hmem]
    · have hnone : messagesAt issues issue.path = [] :=
        messagesAt_eq_nil fun other hother heq => hmem (mem_places.2 ⟨hne, other, hother, heq⟩)
      simp [hmem, hnone]
  have hmessages : (fun path => (pathText path, messagesAt (issues ++ [issue]) path)) = fun path =>
      (pathText path, if path = issue.path then messagesAt issues issue.path ++ [issue.message]
        else messagesAt issues path) := by
    funext path
    rw [messagesAt_append]
    by_cases heq : path = issue.path <;> simp [heq]
  rw [Flat.addField, hearlier, Table.put_map _ _ h, places_append, hmessages]
  by_cases hmem : issue.path ∈ places issues <;> simp [hne, hmem]

/-- **Grouping gives the groups**: what has been built up is said by the issues alone. -/
theorem flatten_eq (h : ∀ issue ∈ issues, issue.path.all PathToken.isPlain = true) :
    flatten issues = ⟨messagesAt issues [],
      (places issues).map fun path => (pathText path, messagesAt issues path)⟩ := by
  induction issues using List.reverseRecOn with
  | nil => rfl
  | append_singleton issues issue ih =>
    have hissues : ∀ issue ∈ issues, issue.path.all PathToken.isPlain = true :=
      fun other hother => h other (by simp [hother])
    unfold flatten at ih ⊢
    rw [List.foldl_append, ih hissues, List.foldl_cons, List.foldl_nil]
    by_cases hempty : issue.path = []
    · rw [if_pos (by simp [hempty]), places_append, messagesAt_append]
      simp only [hempty, if_true, true_or, Flat.mk.injEq, true_and]
      refine List.map_congr_left fun path hpath => ?_
      simp [messagesAt_append, hempty, (mem_places.1 hpath).1]
    · rw [if_neg (by simp [hempty]), addField_places hempty, messagesAt_append]
      · simp [Ne.symm hempty]
      · intro path hpath htext
        obtain ⟨-, other, hother, rfl⟩ := mem_places.1 hpath
        exact pathText_injective (hissues other hother) (h issue (by simp)) htext

/-! ## Nothing is lost -/

theorem sum_count {α : Type} [BEq α] [LawfulBEq α] {distinct elements : List α} (hnodup : distinct.Nodup)
    (h : ∀ element ∈ elements, element ∈ distinct) :
    (distinct.map fun element => elements.count element).sum = elements.length := by
  induction distinct generalizing elements with
  | nil =>
    have hnil : elements = [] := List.eq_nil_iff_forall_not_mem.2 fun element hmem => by
      simpa using h element hmem
    simp [hnil]
  | cons first distinct ih =>
    obtain ⟨hfirst, hnodup⟩ := List.nodup_cons.1 hnodup
    have hothers : ∀ element ∈ elements.filter (· != first), element ∈ distinct := by
      intro element hmem
      obtain ⟨hmem, hne⟩ := List.mem_filter.1 hmem
      simpa [bne_iff_ne.1 hne] using h element hmem
    have hcounts : (distinct.map fun element => elements.count element) =
        distinct.map fun element => (elements.filter (· != first)).count element := by
      refine List.map_congr_left fun element hmem => ?_
      have hne : element ≠ first := by
        rintro rfl
        exact hfirst hmem
      rw [List.count_filter (by simpa using hne)]
    have hsplit : elements.length =
        elements.count first + (elements.filter (· != first)).length := by
      rw [List.length_eq_countP_add_countP (· == first), List.count,
        ← List.countP_eq_length_filter]
      simp [bne]
    rw [List.map_cons, List.sum_cons, hcounts, ih hnodup hothers, hsplit]

theorem length_messagesAt (issues : List Issue) (path : List PathToken) :
    (messagesAt issues path).length = (issues.map (·.path)).count path := by
  rw [messagesAt, List.length_map, List.count_eq_length_filter, List.filter_map, List.length_map]
  rfl

/-- Every issue has its message in one of the groups. -/
theorem length_groups (issues : List Issue) : (messagesAt issues []).length +
    ((places issues).map fun path => (messagesAt issues path).length).sum = issues.length := by
  have hnodup : ([] :: places issues).Nodup :=
    List.nodup_cons.2 ⟨fun hmem => (mem_places.1 hmem).1 rfl, nodup_places issues⟩
  have hall : ∀ path ∈ issues.map (·.path), path ∈ [] :: places issues := by
    intro path hmem
    obtain ⟨issue, hissue, rfl⟩ := List.mem_map.1 hmem
    by_cases hempty : issue.path = []
    · simp [hempty]
    · exact List.mem_cons_of_mem _ (mem_places.2 ⟨hempty, issue, hissue, rfl⟩)
  have hsum := sum_count hnodup hall
  simpa [length_messagesAt] using hsum

/-- **Grouping keeps places apart and loses nothing.** Plain paths are told apart by their texts. The
issues without a path are grouped by themselves, every other path has one group, in the order in which
the paths first come, and the groups have as many messages as there are issues. -/
theorem flatten_keeps_apart (issues : List Issue)
    (h : ∀ issue ∈ issues, issue.path.all PathToken.isPlain = true) :
    (∀ path other : List PathToken, path.all PathToken.isPlain = true →
      other.all PathToken.isPlain = true → pathText path = pathText other → path = other) ∧
    (flatten issues).form = messagesAt issues [] ∧
    (flatten issues).fields =
      (places issues).map (fun path => (pathText path, messagesAt issues path)) ∧
    (flatten issues).fields.keys.Nodup ∧
    (flatten issues).form.length + ((flatten issues).fields.map (·.2.length)).sum =
      issues.length := by
  refine ⟨fun path other hpath hother => pathText_injective hpath hother, ?_⟩
  rw [flatten_eq h]
  refine ⟨rfl, rfl, ?_, ?_⟩
  · rw [Table.keys, List.map_map]
    refine List.Nodup.map_on (fun path hpath other hother htext => ?_) (nodup_places issues)
    obtain ⟨-, issue, hissue, rfl⟩ := mem_places.1 hpath
    obtain ⟨-, issue', hissue', rfl⟩ := mem_places.1 hother
    exact pathText_injective (h issue hissue) (h issue' hissue') htext
  · rw [List.map_map]
    exact length_groups issues

/-- Issues at the root and at two places, one of them visited again. -/
def scatteredIssues : List Issue := [
  report "invalid_type" [.key "users", .index 0, .key "name"] "string" "number",
  report "missing_key" [] "property id" "undefined",
  report "too_small" [.index (-1), .key "a]b"] "number >= 0" "-1",
  report "pattern" [.key "users", .index 0, .key "name"] "pattern x" "y"]

theorem flatten_keeps_apart_scattered :
    (∀ issue ∈ scatteredIssues, issue.path.all PathToken.isPlain = true) ∧
    (flatten scatteredIssues).form = messagesAt scatteredIssues [] ∧
    (flatten scatteredIssues).fields = [
      (pathText [.key "users", .index 0, .key "name"],
        ["Expected string, received number", "Expected pattern x, received y"]),
      (pathText [.index (-1), .key "a]b"], ["Expected number >= 0, received -1"])] ∧
    (flatten scatteredIssues).form.length +
      ((flatten scatteredIssues).fields.map (·.2.length)).sum = 4 := by
  have hplain : ∀ issue ∈ scatteredIssues, issue.path.all PathToken.isPlain = true := by
    decide +kernel
  obtain ⟨-, hform, hfields, -, hlength⟩ := flatten_keeps_apart scatteredIssues hplain
  exact ⟨hplain, hform, hfields, hlength⟩

end Issue

end SchemaGuard
