import SchemaGuard.Proofs.Atomicity

/-!
# What a recorded command line does to the code of a module

The code of a text is what is left of it without its leading lines that are blank or comments. A
command line is recorded in the first line of a module, as the end of a comment, and it is recorded
as it is. A comment ends with its line, so whatever follows the first line end of a command line is
no longer part of it: this is what the command line *spills*.

**Theorem (`code_eq_iff_spill_eq`).** Two command lines give modules with the same code if and only
if they spill the same, or none is recorded at all. In particular, command lines without line ends
never change the code.

The spilled text stands before everything else, so it is found again at the start of the code, and
where nothing is spilled the code starts with the first import.
-/

namespace SchemaGuard

/-! ## Lines -/

namespace Text

/-- Whether a line ends after a character. A carriage return before a line feed does not end one,
since the line feed does. -/
def endsLine (c : Char) (rest : List Char) : Bool :=
  c == '\n' || c == '\r' && rest.head? != some '\n'

/-- Puts a character in front of the first line. -/
def joinLine (c : Char) : List (List Char) → List (List Char)
  | [] => [[c]]
  | line :: others => (c :: line) :: others

/-- The lines of a text, each with its end: a line feed, a carriage return, or one after the
other. -/
def lines : List Char → List (List Char)
  | [] => []
  | c :: rest => if endsLine c rest then [c] :: lines rest else joinLine c (lines rest)

/-- Whether a line is blank or a comment. -/
def isIdle (line : List Char) : Bool :=
  line.head? == some '#' || line.all ([' ', '\t', '\x0c', '\r', '\n'].contains ·)

/-- A text without its leading lines that are blank or comments. -/
def code (text : List Char) : List Char := ((lines text).dropWhile isIdle).flatten

variable {c : Char} {text rest : List Char}

theorem joinLine_append (c : Char) {first : List (List Char)} (h : first ≠ [])
    (others : List (List Char)) : joinLine c (first ++ others) = joinLine c first ++ others := by
  cases first with
  | nil => exact absurd rfl h
  | cons line lines => rfl

theorem tail_joinLine (c : Char) (lines : List (List Char)) :
    (joinLine c lines).tail = lines.tail := by
  cases lines <;> rfl

theorem flatten_joinLine (c : Char) (lines : List (List Char)) :
    (joinLine c lines).flatten = c :: lines.flatten := by
  cases lines <;> rfl

/-- The first character of a text is the first one of its first line. -/
theorem lines_cons (c : Char) (rest : List Char) :
    ∃ line others, lines (c :: rest) = (c :: line) :: others := by
  rw [lines]
  split
  · exact ⟨[], _, rfl⟩
  · cases lines rest with
    | nil => exact ⟨[], [], rfl⟩
    | cons line others => exact ⟨line, others, rfl⟩

theorem flatten_lines (text : List Char) : (lines text).flatten = text := by
  induction text with
  | nil => rfl
  | cons c rest ih =>
    rw [lines]
    split
    · rw [List.flatten_cons, ih, List.singleton_append]
    · rw [flatten_joinLine, ih]

theorem ne_nil_of_mem_lines {line : List Char} (h : line ∈ lines text) : line ≠ [] := by
  induction text with
  | nil => cases h
  | cons c rest ih =>
    rw [lines] at h
    split at h
    · rcases List.mem_cons.1 h with rfl | hrest
      · exact List.cons_ne_nil _ _
      · exact ih hrest
    · cases hlines : lines rest with
      | nil =>
        rw [hlines] at h
        cases List.mem_singleton.1 h
        exact List.cons_ne_nil _ _
      | cons first others =>
        rw [hlines] at h ih
        rcases List.mem_cons.1 h with rfl | hothers
        · exact List.cons_ne_nil _ _
        · exact ih (List.mem_cons_of_mem _ hothers)

/-- **A line feed cuts the lines of a text in two.** -/
theorem lines_append_lineFeed (text rest : List Char) :
    lines (text ++ '\n' :: rest) = lines (text ++ ['\n']) ++ lines rest := by
  induction text with
  | nil => simp [lines, endsLine]
  | cons c text ih =>
    have hends : endsLine c (text ++ '\n' :: rest) = endsLine c (text ++ ['\n']) := by
      cases text <;> rfl
    have hsome : lines (text ++ ['\n']) ≠ [] := by
      intro hnone
      have hflat := flatten_lines (text ++ ['\n'])
      rw [hnone] at hflat
      simp at hflat
    rw [List.cons_append, List.cons_append, lines, lines, hends, ih]
    split
    · rfl
    · exact joinLine_append c hsome _

/-- A piece without line ends is part of the first line. -/
theorem tail_lines_append {piece : List Char} (h : ∀ c ∈ piece, c ≠ '\n' ∧ c ≠ '\r')
    (rest : List Char) : (lines (piece ++ rest)).tail = (lines rest).tail := by
  induction piece with
  | nil => rfl
  | cons c piece ih =>
    obtain ⟨hfeed, hreturn⟩ := h c List.mem_cons_self
    have hends : endsLine c (piece ++ rest) = false := by simp [endsLine, hfeed, hreturn]
    rw [List.cons_append, lines, hends, if_neg Bool.false_ne_true, tail_joinLine]
    exact ih fun c hc => h c (List.mem_cons_of_mem _ hc)

/-- A text that starts with neither a blank nor a comment is code. -/
theorem code_eq_self (hc : [' ', '\t', '\x0c', '\r', '\n', '#'].contains c = false)
    (rest : List Char) : code (c :: rest) = c :: rest := by
  obtain ⟨line, others, hlines⟩ := lines_cons c rest
  have hidle : isIdle (c :: line) = false := by
    simp_all [isIdle]
  rw [code, hlines, List.dropWhile_cons_of_neg (by simp [hidle]), ← hlines, flatten_lines]

/-! ## What comes after a comment -/

/-- The part of a command line that is not recorded as a comment: what follows its first line, from
the first line on that is code. -/
def spill (commandLine : List Char) : List Char :=
  ((lines (commandLine ++ ['\n'])).tail.dropWhile isIdle).flatten

theorem spill_eq_nil (h : ∀ c ∈ text, c ≠ '\n' ∧ c ≠ '\r') : spill text = [] := by
  rw [spill, tail_lines_append h]
  rfl

theorem dropWhile_eq_nil_of_spill {commandLine : List Char} (h : spill commandLine = []) :
    (lines (commandLine ++ ['\n'])).tail.dropWhile isIdle = [] := by
  rw [List.eq_nil_iff_forall_not_mem]
  intro line hline
  have hmem : line ∈ lines (commandLine ++ ['\n']) :=
    List.mem_of_mem_tail ((List.dropWhile_sublist _).subset hline)
  exact ne_nil_of_mem_lines hmem (List.flatten_eq_nil_iff.1 h line hline)

/-- **What is spilled comes first.** Where a comment ends in a command line, the code after it is
what the command line spills and all that follows it; a command line that spills nothing is gone
with its comment. -/
theorem code_comment {comment : List Char} (hmark : comment.head? = some '#')
    (hends : ∀ c ∈ comment, c ≠ '\n' ∧ c ≠ '\r') (commandLine rest : List Char) :
    code (comment ++ commandLine ++ '\n' :: rest) =
      if spill commandLine = [] then code rest else spill commandLine ++ rest := by
  obtain ⟨inside, rfl⟩ := List.head?_eq_some_iff.1 hmark
  obtain ⟨line, others, hlines⟩ := lines_cons '#' (inside ++ (commandLine ++ ['\n']))
  have hothers : others = (lines (commandLine ++ ['\n'])).tail := by
    rw [← tail_lines_append hends, List.cons_append, hlines]
    rfl
  have hdrop : (lines ('#' :: inside ++ commandLine ++ '\n' :: rest)).dropWhile isIdle =
      ((lines (commandLine ++ ['\n'])).tail ++ lines rest).dropWhile isIdle := by
    rw [lines_append_lineFeed, List.append_assoc, List.cons_append, hlines, hothers,
      List.cons_append, List.dropWhile_cons_of_pos rfl]
  rw [code, hdrop, List.dropWhile_append]
  split
  · rename_i hnone
    rw [if_pos (by rw [spill, List.isEmpty_iff.1 hnone]; rfl)]
    rfl
  · rename_i hsome
    rw [if_neg fun hspill => hsome (by rw [dropWhile_eq_nil_of_spill hspill]; rfl),
      List.flatten_append, flatten_lines]
    rfl

/-- Lines that are blank or comments are not code. -/
theorem code_append_idle (h : (lines (text ++ ['\n'])).all isIdle = true) (rest : List Char) :
    code (text ++ '\n' :: rest) = code rest := by
  rw [code, lines_append_lineFeed, List.dropWhile_append_of_pos (List.all_eq_true.1 h)]
  rfl

end Text

/-! ## The first lines of a module -/

namespace Module

variable {config : Config} {module : Module}

/-- The start of the line in which a command line is recorded. -/
def recordStart : String := s!"# Generated by {programName} v{version} : "

theorem recordStart_ends : ∀ c ∈ recordStart.toList, c ≠ '\n' ∧ c ≠ '\r' := by
  have hall : recordStart.toList.all (fun c => c != '\n' && c != '\r') = true := by decide
  simpa using hall

/-- The line that comes after it. -/
def recordEnd : String := "# Do not edit by hand: change the schema and regenerate."

theorem headerText_some (commandLine runtimeModule : String) (module : Module) :
    headerText ⟨some commandLine, runtimeModule⟩ module =
      recordStart ++ commandLine ++ "\n" ++ (recordEnd ++ "\n" ++
        ("\n" ++ headerText ⟨none, runtimeModule⟩ module)) := by
  simp only [headerText, commentLines, List.nil_append, List.cons_append,
    String.intercalate_cons_cons, String.empty_append]
  rfl

theorem headerText_none (runtimeModule : String) (module : Module) :
    ∃ rest, headerText ⟨none, runtimeModule⟩ module =
      "from __future__ import annotations" ++ rest := by
  simp only [headerText, commentLines, List.nil_append, List.cons_append,
    String.intercalate_cons_cons, String.append_assoc]
  exact ⟨_, rfl⟩

/-- What follows a section does not depend on it. -/
theorem sections_cons (others : List String) :
    ∃ rest, ∀ first, first ≠ "" → sections (first :: others) = first ++ rest := by
  cases hothers : others.filter fun text => !text.isEmpty with
  | nil =>
    refine ⟨"", fun first hfirst => ?_⟩
    simp [sections, hfirst, hothers]
  | cons other more =>
    refine ⟨"\n\n\n" ++ "\n\n\n".intercalate (other :: more), fun first hfirst => ?_⟩
    simp [sections, hfirst, hothers, String.intercalate_cons_cons, String.append_assoc]

/-- **A recorded command line stands before all else.** Without it a module starts with its first
import. -/
theorem text_parts (runtimeModule : String) (module : Module) :
    ∃ rest, text ⟨none, runtimeModule⟩ module = "from __future__ import annotations" ++ rest ∧
      ∀ commandLine, text ⟨some commandLine, runtimeModule⟩ module =
        recordStart ++ commandLine ++ "\n" ++ (recordEnd ++ "\n" ++
          ("\n" ++ text ⟨none, runtimeModule⟩ module)) := by
  obtain ⟨rest, hnone⟩ := headerText_none runtimeModule module
  obtain ⟨later, hlater⟩ := sections_cons [
    "\n\n\n".intercalate (module.entries.map Entry.typeText),
    "\n\n\n".intercalate (module.entries.map Entry.validatorText)]
  have hplain : text ⟨none, runtimeModule⟩ module =
      headerText ⟨none, runtimeModule⟩ module ++ later ++ "\n" := by
    rw [text, hlater _ (by simp [hnone])]
  refine ⟨rest ++ later ++ "\n", ?_, fun commandLine => ?_⟩
  · rw [hplain, hnone]
    simp only [String.append_assoc]
  · rw [text, hlater _ (by simp [headerText_some]), headerText_some, hplain]
    simp only [String.append_assoc]

open Text in
/-- **The code of a module** in which a command line is recorded is what the command line spills,
with the rest of the text after it, or else the text of the module without a command line. -/
theorem code_text (runtimeModule commandLine : String) (module : Module) :
    code (text ⟨some commandLine, runtimeModule⟩ module).toList =
      if spill commandLine.toList = [] then (text ⟨none, runtimeModule⟩ module).toList
      else spill commandLine.toList ++
        (recordEnd.toList ++ '\n' :: '\n' :: (text ⟨none, runtimeModule⟩ module).toList) := by
  obtain ⟨rest, hnone, hsome⟩ := text_parts runtimeModule module
  generalize text ⟨none, runtimeModule⟩ module = plain at hnone hsome ⊢
  have hplain : code plain.toList = plain.toList := by
    rw [hnone, String.toList_append]
    exact code_eq_self rfl _
  have hend : code (recordEnd.toList ++ '\n' :: '\n' :: plain.toList) = plain.toList := by
    rw [code_append_idle (by decide), ← List.nil_append ('\n' :: _), code_append_idle (by decide),
      hplain]
  have hcomment := code_comment (by decide) recordStart_ends commandLine.toList
    (recordEnd.toList ++ '\n' :: '\n' :: plain.toList)
  rw [hend] at hcomment
  rw [hsome, ← hcomment]
  simp

open Text in
/-- Two command lines leave the same code if they spill the same, and only then: the code after a
spill is longer than the code without one. -/
theorem code_text_eq_iff (runtimeModule first second : String) (module : Module) :
    code (text ⟨some first, runtimeModule⟩ module).toList =
        code (text ⟨some second, runtimeModule⟩ module).toList ↔
      spill first.toList = spill second.toList := by
  rw [code_text, code_text]
  generalize (text ⟨none, runtimeModule⟩ module).toList = plain
  have hlonger : ∀ spilled, spilled ++ (recordEnd.toList ++ '\n' :: '\n' :: plain) ≠ plain := by
    intro spilled h
    have hlength := congrArg List.length h
    simp only [List.length_append, List.length_cons] at hlength
    omega
  constructor
  · intro h
    split at h <;> split at h
    · rename_i hfirst hsecond
      rw [hfirst, hsecond]
    · exact absurd h.symm (hlonger _)
    · exact absurd h (hlonger _)
    · exact List.append_cancel_right h
  · intro h
    rw [h]

end Module

/-! ## Two runs -/

namespace Generation

open Text

/-- The text of the module of a document, with a command line to record. -/
def source (document : Json) (schemaPath : String) (targets : List Target) (config : Config)
    (commandLine : String) : Generate String :=
  generateModule document schemaPath targets >>= moduleText config (.ok commandLine)

variable {document : Json} {schemaPath : String} {targets : List Target} {config : Config}
  {before after : State}

theorem source_gives_iff {commandLine text : String} :
    Gives (source document schemaPath targets config commandLine) before text after ↔
      ∃ module, Gives (generateModule document schemaPath targets) before module after ∧
        text = module.text (.ofConfig config commandLine) := by
  have htext : ∀ module : Module, moduleText config (.ok commandLine) module =
      pure (module.text (.ofConfig config commandLine)) := by
    intro module
    unfold moduleText
    split
    · rfl
    · rename_i hcomment
      simp [Header.ofConfig, hcomment]
  simp only [source, Gives.bind_iff, htext, Gives.pure_iff]
  constructor
  · rintro ⟨module, _, hmodule, htext, rfl⟩
    exact ⟨module, hmodule, htext⟩
  · rintro ⟨module, hmodule, htext⟩
    exact ⟨module, _, hmodule, htext, rfl⟩

/-- The code of a module depends on the command line only through what it spills, and not at all if
none is recorded. -/
theorem code_ofConfig_eq_iff (config : Config) (first second : String) (module : Module) :
    code (module.text (.ofConfig config first)).toList =
        code (module.text (.ofConfig config second)).toList ↔
      config.addGenerationComment.isTruthy = false ∨
        spill first.toList = spill second.toList := by
  cases hcomment : config.addGenerationComment.isTruthy with
  | false => simp [Header.ofConfig, hcomment]
  | true => simp [Header.ofConfig, hcomment, Module.code_text_eq_iff]

/-- **A command line changes the code of a module exactly by what it spills.** If a generation
succeeds with one command line, then it succeeds with any other, and the two modules have the same
code if and only if the command lines spill the same or are not recorded. Command lines without line
ends spill nothing. -/
theorem code_eq_iff_spill_eq {first text : String}
    (h : Gives (source document schemaPath targets config first) before text after)
    (second : String) :
    ∃ text', Gives (source document schemaPath targets config second) before text' after ∧
      (code text.toList = code text'.toList ↔
        config.addGenerationComment.isTruthy = false ∨
          spill first.toList = spill second.toList) ∧
      ((∀ c ∈ first.toList ++ second.toList, c ≠ '\n' ∧ c ≠ '\r') →
        code text.toList = code text'.toList) := by
  obtain ⟨module, hmodule, rfl⟩ := source_gives_iff.1 h
  refine ⟨_, source_gives_iff.2 ⟨module, hmodule, rfl⟩, code_ofConfig_eq_iff .., fun hends => ?_⟩
  refine (code_ofConfig_eq_iff ..).2 (.inr ?_)
  rw [spill_eq_nil fun c hc => hends c (List.mem_append_left _ hc),
    spill_eq_nil fun c hc => hends c (List.mem_append_right _ hc)]

def stringSchema : Json := .object [("type", .string "string")]

/-- Where only blank lines and comments follow a line end, nothing is spilled. -/
theorem code_eq_iff_spill_eq_comment :
    (∃ text after, Gives (source stringSchema "schema.json" [] .standard "generate")
      ⟨draftDisk, []⟩ text after) ∧
    ∃ text text' after,
      Gives (source stringSchema "schema.json" [] .standard "generate") ⟨draftDisk, []⟩
        text after ∧
      Gives (source stringSchema "schema.json" [] .standard "generate 'a\r# b\n\n#'")
        ⟨draftDisk, []⟩ text' after ∧
      code text.toList = code text'.toList := by
  obtain ⟨text, after, hfirst⟩ := Gives.of_isSome
    (x := source stringSchema "schema.json" [] .standard "generate") (s := ⟨draftDisk, []⟩)
    (by decide +kernel)
  obtain ⟨text', hsecond, hcode, -⟩ :=
    code_eq_iff_spill_eq hfirst "generate 'a\r# b\n\n#'"
  exact ⟨⟨text, after, hfirst⟩, text, text', after, hfirst, hsecond, hcode.2 (.inr (by decide))⟩

/-- **A command line with a line feed in it changes the code.** -/
theorem recorded_line_becomes_code :
    ∃ text text' after,
      Gives (source stringSchema "schema.json" [] .standard "generate") ⟨draftDisk, []⟩
        text after ∧
      Gives (source stringSchema "schema.json" [] .standard "generate\nimport os")
        ⟨draftDisk, []⟩ text' after ∧
      code text.toList ≠ code text'.toList := by
  obtain ⟨text, after, hfirst⟩ := Gives.of_isSome
    (x := source stringSchema "schema.json" [] .standard "generate") (s := ⟨draftDisk, []⟩)
    (by decide +kernel)
  obtain ⟨module, hmodule, rfl⟩ := source_gives_iff.1 hfirst
  refine ⟨_, _, after, hfirst, source_gives_iff.2 ⟨module, hmodule, rfl⟩, ?_⟩
  rw [Ne, code_ofConfig_eq_iff]
  decide

end Generation

end SchemaGuard
