import SchemaGuard.Generation
import SchemaGuard.Proofs.Disks
import SchemaGuard.Proofs.Fails

/-!
# Modules are written in one step or not at all

**Theorem (`generate_all_or_nothing`).** If a generation fails, whatever the reason and wherever a
failure from outside hits it, all files are as they were, and what has been made are directories on
the way to the output. If it succeeds, the output holds the text of the module as the formatter lays
it out, and all other files are as they were.

Nothing before the writing touches the disk, so what is left is one sequence of operations: making
directories, staging, filling, moving. A staged file is there only between staging and moving, where
every failure takes it away again; and it was put where there was nothing, so that taking it away
restores the disk.
-/

namespace SchemaGuard

/-! ## Staged files -/

namespace Disk

variable {disk later base : Disk} {staged location : Location} {path : Path} {trouble : Trouble}
  {content : List UInt8} {error : Error}

theorem read_eq_ok : disk.read path = .ok content ↔
    ∃ location, disk.locate path = .ok location ∧
      disk.entry? location = some (.file content) := by
  unfold read find
  simp only [bind_eq_ok]
  constructor
  · rintro ⟨⟨location, entry⟩, ⟨found, hlocate, hfound⟩, h⟩
    split at hfound
    · rename_i hentry
      cases hfound
      cases entry with
      | directory => cases h
      | file bytes =>
        cases h
        exact ⟨location, hlocate, hentry⟩
    · cases hfound
  · rintro ⟨location, hlocate, hentry⟩
    refine ⟨(location, .file content), ⟨location, hlocate, ?_⟩, rfl⟩
    rw [hentry]
    rfl

/-- Files that are there can be read as before after directories were made. -/
theorem MakesWay.read {other : Path} (h : MakesWay other disk later)
    (hread : disk.read path = .ok content) : later.read path = .ok content := by
  obtain ⟨location, hlocate, hentry⟩ := read_eq_ok.1 hread
  refine read_eq_ok.2 ⟨location, locate_mono h.keeps h.working_eq hlocate, ?_⟩
  rcases h.entries location with hsame | ⟨hnone, -⟩
  · rw [hsame, hentry]
  · rw [hentry] at hnone
    cases hnone

theorem guarded_eq_ok {α : Type} {operation : Operation} {text : String} {result : Except Fault α}
    {value : α} (h : disk.guarded trouble operation text result = .ok value) :
    result = .ok value := by
  unfold guarded at h
  split at h
  · rename_i hamid
    cases h
    exact amid_eq_ok hamid
  · cases h

theorem replace_eq_ok (h : disk.replace staged path = .ok later) :
    ∃ location entry, disk.locate path = .ok location ∧
      disk.entry? location ≠ some .directory ∧ disk.entry? staged = some entry ∧
      later = (disk.erase staged).put location entry := by
  unfold replace at h
  dsimp only at h
  by_cases hname : (!endsInName path) = true
  · rw [if_pos hname] at h
    cases h
  · rw [if_neg hname] at h
    obtain ⟨location, hlocate, h⟩ := bind_eq_ok.1 h
    by_cases hdirectory : disk.isDirectory location = true
    · rw [if_pos hdirectory] at h
      cases h
    · rw [if_neg hdirectory] at h
      split at h
      · rename_i entry hentry
        cases h
        exact ⟨location, entry, hlocate, mt isDirectory_iff.2 hdirectory, hentry, rfl⟩
      · cases h

/-- A staged file that is not moved is taken away, which leaves the disk as it was. -/
theorem commit_fails (hfree : base.entry? staged = none)
    (h : (base.put staged (.file [])).commit trouble staged path content = (later, some error)) :
    later.working = base.working ∧ ∀ location, later.entry? location = base.entry? location := by
  have hroot : staged ≠ [] := base.ne_root (by simp [hfree])
  unfold commit at h
  dsimp only at h
  split at h
  · cases h
  · cases h
    refine ⟨rfl, fun location => ?_⟩
    rw [entry?_erase _ hroot, entry?_put _ hroot]
    by_cases hsame : location = staged
    · rw [hsame, if_pos rfl, hfree]
    · rw [if_neg hsame, if_neg hsame]

theorem put_put (disk : Disk) (location : Location) (entry entry' : Entry) :
    (disk.put location entry).put location entry' = disk.put location entry' := by
  simp [put, List.filter_filter]

theorem erase_put (disk : Disk) (location : Location) (entry : Entry) :
    (disk.put location entry).erase location = disk.erase location := by
  simp [put, erase, List.filter_filter]

/-- What is at the locations of a disk after a file was put at one of them and moved to another. -/
theorem entry?_moved (hfree : base.entry? staged = none) (hlocation : location ≠ [])
    (other : Location) :
    Disk.entry? ((base.erase staged).put location (.file content)) other =
      if other = location then some (.file content) else base.entry? other := by
  have hroot : staged ≠ [] := base.ne_root (by simp [hfree])
  rw [entry?_put _ hlocation, entry?_erase _ hroot]
  by_cases hstaged : other = staged
  · rw [hstaged, if_pos rfl, hfree]
  · rw [if_neg hstaged]

/-- A file that is put where there was nothing and then moved is what the path holds, and nothing
else has changed. -/
theorem replace_staged (hfree : base.entry? staged = none)
    (h : (base.put staged (.file content)).replace staged path = .ok later) :
    later.working = base.working ∧ KeepsDirectories base later ∧
      ∃ location, later.locate path = .ok location ∧
        later.entry? location = some (.file content) ∧
        ∀ other, other ≠ location → later.entry? other = base.entry? other := by
  have hroot : staged ≠ [] := base.ne_root (by simp [hfree])
  obtain ⟨location, entry, hlocate, hfile, hentry, rfl⟩ := replace_eq_ok h
  rw [entry?_put _ hroot, if_pos rfl] at hentry
  cases hentry
  have hlocation : location ≠ [] := ne_root _ hfile
  rw [erase_put]
  have hstaged : KeepsDirectories base (base.put staged (.file content)) := by
    intro other hdirectory
    rw [isDirectory_iff] at hdirectory ⊢
    rw [entry?_put _ hroot, if_neg, hdirectory]
    rintro rfl
    rw [hdirectory] at hfree
    cases hfree
  -- Neither the staged file nor what it replaces is a directory.
  have hmoved : KeepsDirectories (base.put staged (.file content))
      ((base.erase staged).put location (.file content)) := by
    intro other hdirectory
    rw [isDirectory_iff] at hdirectory ⊢
    have hne : other ≠ location := by
      rintro rfl
      exact hfile hdirectory
    rw [entry?_moved hfree hlocation, if_neg hne]
    rw [entry?_put _ hroot] at hdirectory
    split at hdirectory
    · cases hdirectory
    · exact hdirectory
  refine ⟨rfl, fun other hother => hmoved other (hstaged other hother), location,
    locate_mono hmoved rfl hlocate, ?_, ?_⟩
  · rw [entry?_moved hfree hlocation, if_pos rfl]
  · intro other hne
    rw [entry?_moved hfree hlocation, if_neg hne]

/-- A staged file that is moved is what the path holds, and nothing else has changed. -/
theorem commit_succeeds (hfree : base.entry? staged = none)
    (h : (base.put staged (.file [])).commit trouble staged path content = (later, none)) :
    later.working = base.working ∧ KeepsDirectories base later ∧
      ∃ location, later.locate path = .ok location ∧
        later.entry? location = some (.file content) ∧
        ∀ other, other ≠ location → later.entry? other = base.entry? other := by
  unfold commit at h
  dsimp only at h
  split at h
  · rename_i moved hmoved
    cases h
    obtain ⟨filled, hfill, hmove⟩ := bind_eq_ok.1 hmoved
    cases guarded_eq_ok hfill
    have hreplace := guarded_eq_ok hmove
    rw [put_put] at hreplace
    exact replace_staged hfree hreplace
  · cases h

/-- **A write that fails leaves all files as they were.** -/
theorem writeStaged_fails (h : disk.writeStaged trouble path content = (later, some error)) :
    MakesWay path.parent disk later := by
  have hway := ensureDirectories_makesWay disk trouble path.parent
  unfold writeStaged at h
  split at h
  · rename_i made _ hmade
    cases h
    rw [hmade] at hway
    exact hway
  · rename_i made hmade
    rw [hmade] at hway
    split at h
    · cases h
      exact hway
    · rename_i staged filled hstage
      obtain ⟨hfree, rfl⟩ := stage_eq_ok (guarded_eq_ok hstage)
      obtain ⟨hworking, hentries⟩ := commit_fails hfree h
      have hkeeps : KeepsDirectories made later := by
        intro location hdirectory
        rw [isDirectory_iff] at hdirectory ⊢
        rw [hentries, hdirectory]
      exact ⟨hworking.trans hway.working_eq, fun location =>
        (hway.entries location).kept hkeeps hworking (hentries location)⟩

/-- **A write that succeeds changes the file at its path and no other.** -/
theorem writeStaged_succeeds (h : disk.writeStaged trouble path content = (later, none)) :
    ∃ location, later.locate path = .ok location ∧
      later.entry? location = some (.file content) ∧
      ∀ other, other ≠ location → MadeOnWay path.parent disk later other := by
  have hway := ensureDirectories_makesWay disk trouble path.parent
  unfold writeStaged at h
  split at h
  · cases h
  · rename_i made hmade
    rw [hmade] at hway
    split at h
    · cases h
    · rename_i staged filled hstage
      obtain ⟨hfree, rfl⟩ := stage_eq_ok (guarded_eq_ok hstage)
      obtain ⟨hworking, hkeeps, location, hlocate, hentry, hothers⟩ := commit_succeeds hfree h
      exact ⟨location, hlocate, hentry, fun other hne =>
        (hway.entries other).kept hkeeps hworking (hothers other hne)⟩

end Disk

/-! ## Whole generations -/

namespace Generation

variable {check : SourceCheck} {formatter : Option Formatter} {trouble : Disk.Trouble}
  {config : Config} {task : Task}

/-- A computation that does not change the disk, whether or not it fails. -/
def LeavesDisk {α : Type} (x : Generate α) : Prop := ∀ s, (x.run.run s).2.disk = s.disk

namespace LeavesDisk

variable {α β : Type} {x : Generate α} {s s' : State}

protected theorem pure (a : α) : LeavesDisk (pure a : Generate α) := fun _ => rfl

protected theorem throw (failure : Failure) : LeavesDisk (throw failure : Generate α) :=
  fun _ => rfl

protected theorem note (notices : List Notice) : LeavesDisk (note notices) := fun _ => rfl

protected theorem get : LeavesDisk (get : Generate State) := fun _ => rfl

protected theorem bind {f : α → Generate β} (hx : LeavesDisk x) (hf : ∀ a, LeavesDisk (f a)) :
    LeavesDisk (x >>= f) := by
  intro s
  have hfirst := hx s
  rw [Gives.run_bind]
  rcases hrun : x.run.run s with ⟨failure | a, s'⟩
  · rw [hrun] at hfirst
    exact hfirst
  · rw [hrun] at hfirst
    exact (hf a s').trans hfirst

theorem of_gives (h : LeavesDisk x) {a : α} (hgives : Gives x s a s') : s'.disk = s.disk := by
  rw [← h s, hgives]

theorem of_fails (h : LeavesDisk x) {failure : Failure} (hfails : Fails x s failure s') :
    s'.disk = s.disk := by
  rw [← h s, hfails]

end LeavesDisk

theorem readTargets_leavesDisk (texts : List String) : LeavesDisk (readTargets texts) := by
  unfold readTargets
  split
  · exact .pure _
  · exact .throw _

theorem load_leavesDisk (document : Document) (path : String) :
    LeavesDisk (load trouble document path) := by
  refine .bind .get fun state => ?_
  split
  · exact .pure _
  · exact .throw _

theorem generateModule_leavesDisk (document : Json) (schemaPath : String) (targets : List Target) :
    LeavesDisk (generateModule document schemaPath targets) := by
  unfold generateModule
  refine .bind (.note _) fun _ => ?_
  split
  · exact .pure _
  · exact .throw _

theorem moduleText_leavesDisk (line : Except CommandLine.RecordError String) (module : Module) :
    LeavesDisk (moduleText config line module) := by
  unfold moduleText
  split
  · split
    · exact .pure _
    · exact .throw _
  · exact .pure _

theorem format_leavesDisk (text : String) : LeavesDisk (format formatter config text) := by
  unfold format
  split
  · refine .bind (.note _) fun _ => ?_
    split
    · exact .pure _
    · exact .throw _
  · exact .pure _

/-- All of a generation that comes before the writing. -/
def prepare (formatter : Option Formatter) (trouble : Disk.Trouble) (config : Config) (task : Task) :
    Generate (Module × String) := do
  let targets ← readTargets task.targets
  let document ← load trouble .schema task.schema
  let module ← generateModule document task.schema targets
  let text ← moduleText config task.commandLine module
  let text ← format formatter config text
  return (module, text)

theorem prepare_leavesDisk : LeavesDisk (prepare formatter trouble config task) := by
  refine .bind (readTargets_leavesDisk _) fun targets => ?_
  refine .bind (load_leavesDisk _ _) fun document => ?_
  refine .bind (generateModule_leavesDisk _ _ _) fun module => ?_
  refine .bind (moduleText_leavesDisk _ _) fun text => ?_
  exact .bind (format_leavesDisk _) fun text => .pure _

theorem generate_eq : generate check formatter trouble config task =
    prepare formatter trouble config task >>= fun prepared =>
      write check trouble config (.ofString task.output) prepared.2 >>= fun _ =>
        note [.finished prepared.1.entries.length (Path.ofString task.output).text] >>= fun _ =>
          pure prepared.1 := by
  simp only [generate, prepare, bind_assoc, pure_bind]

/-! ### What is written -/

/-- How a text is written: as the formatter lays it out, or as it is if it is not to be formatted, if
there is no formatter, or if the formatter cannot read it. -/
inductive LaidOut (config : Config) (text : String) : Option Formatter → String → Prop where
  | disabled {formatter : Option Formatter} (h : config.formatter.enabled.isTruthy = false) :
      LaidOut config text formatter text
  | absent : LaidOut config text none text
  | formatted {formatter : Formatter} {written : String}
      (henabled : config.formatter.enabled.isTruthy = true)
      (h : formatter.format config.formatter text = .ok written) :
      LaidOut config text (some formatter) written
  | unreadable {formatter : Formatter} {reason : String}
      (henabled : config.formatter.enabled.isTruthy = true)
      (h : formatter.format config.formatter text = .error (.unreadable reason)) :
      LaidOut config text (some formatter) text

/-- What a generation produces from the files on a disk: the module of the schema file and its
targets, and the text of the module, in which the command line is recorded if that is asked for, laid
out. -/
def Produces (formatter : Option Formatter) (trouble : Disk.Trouble) (config : Config) (task : Task)
    (disk : Disk) (module : Module) (text : String) : Prop :=
  ∃ targets document line, task.targets.mapM Target.parse = .ok targets ∧
    loadJson disk trouble task.schema = .ok document ∧
    (Module.ofDocument document task.schema targets).1 = .ok module ∧
    (config.addGenerationComment.isTruthy = true → task.commandLine = .ok line) ∧
    LaidOut config (module.text (.ofConfig config line)) formatter text

variable {s s' : State} {module : Module} {text : String} {targets : List Target}

theorem readTargets_gives {texts : List String} (h : Gives (readTargets texts) s targets s') :
    texts.mapM Target.parse = .ok targets := by
  unfold readTargets at h
  split at h
  · rename_i hparsed
    rw [hparsed, (Gives.pure_iff.1 h).1]
  · exact (Gives.throw_iff.1 h).elim

theorem load_gives {document : Document} {path : String} {json : Json}
    (h : Gives (load trouble document path) s json s') :
    loadJson s.disk trouble path = .ok json := by
  obtain ⟨state, s'', hget, hfound⟩ := Gives.bind_iff.1 h
  obtain ⟨rfl, rfl⟩ := Gives.get_iff.1 hget
  split at hfound
  · rename_i hloaded
    rw [hloaded, (Gives.pure_iff.1 hfound).1]
  · exact (Gives.throw_iff.1 hfound).elim

theorem generateModule_gives {document : Json} {schemaPath : String}
    (h : Gives (generateModule document schemaPath targets) s module s') :
    (Module.ofDocument document schemaPath targets).1 = .ok module := by
  unfold generateModule at h
  dsimp only at h
  obtain ⟨_, _, -, h⟩ := Gives.bind_iff.1 h
  split at h
  · rename_i hmodule
    rw [hmodule, (Gives.pure_iff.1 h).1]
  · exact (Gives.throw_iff.1 h).elim

theorem moduleText_gives {line : Except CommandLine.RecordError String}
    (h : Gives (moduleText config line module) s text s') :
    ∃ recorded, (config.addGenerationComment.isTruthy = true → line = .ok recorded) ∧
      text = module.text (.ofConfig config recorded) := by
  unfold moduleText at h
  split at h
  · split at h
    · rename_i recorded
      exact ⟨recorded, fun _ => rfl, (Gives.pure_iff.1 h).1⟩
    · exact (Gives.throw_iff.1 h).elim
  · rename_i hcomment
    exact ⟨"", fun hcomment' => absurd hcomment' hcomment, (Gives.pure_iff.1 h).1⟩

theorem laidOut_of_run {written : String} (henabled : config.formatter.enabled.isTruthy = true)
    (h : (Formatter.run formatter config.formatter text).1 = .ok written) :
    LaidOut config text formatter written := by
  unfold Formatter.run at h
  split at h
  · cases h
    exact .absent
  · split at h
    · cases h
    · split at h
      · rename_i hformat
        cases h
        exact .formatted henabled hformat
      · rename_i hformat
        cases h
        exact .unreadable henabled hformat
      · cases h

theorem format_gives {written : String} (h : Gives (format formatter config text) s written s') :
    LaidOut config text formatter written := by
  unfold format at h
  split at h
  · rename_i henabled
    obtain ⟨_, _, -, h⟩ := Gives.bind_iff.1 h
    split at h
    · rename_i hrun
      exact laidOut_of_run henabled ((Gives.pure_iff.1 h).1 ▸ hrun)
    · exact (Gives.throw_iff.1 h).elim
  · rename_i hdisabled
    rw [(Gives.pure_iff.1 h).1]
    exact .disabled (Bool.eq_false_iff.2 hdisabled)

theorem prepare_gives {prepared : Module × String}
    (h : Gives (prepare formatter trouble config task) s prepared s') :
    Produces formatter trouble config task s.disk prepared.1 prepared.2 := by
  unfold prepare at h
  simp only [Gives.bind_iff, Gives.pure_iff] at h
  obtain ⟨targets, s₁, htargets, document, s₂, hload, module, s₃, hmodule, text, s₄, htext,
    formatted, s₅, hformat, rfl, -⟩ := h
  have hdisk : s₁.disk = s.disk := (readTargets_leavesDisk _).of_gives htargets
  obtain ⟨line, hline, rfl⟩ := moduleText_gives htext
  exact ⟨targets, document, line, readTargets_gives htargets, hdisk ▸ load_gives hload,
    generateModule_gives hmodule, hline, format_gives hformat⟩

/-! ### Writing -/

variable {operation : Disk → Disk × Option Disk.Error} {u : Unit} {failure : Failure} {path : Path}

theorem onDisk_gives (h : Gives (onDisk operation) s u s') :
    operation s.disk = (s'.disk, none) := by
  unfold onDisk at h
  simp only [Gives.bind_iff, Gives.get_iff, Gives.set_iff] at h
  obtain ⟨_, _, ⟨rfl, rfl⟩, _, _, rfl, h⟩ := h
  split at h
  · exact (Gives.throw_iff.1 h).elim
  · rename_i hnone
    rw [(Gives.pure_iff.1 h).2, ← hnone]

theorem onDisk_fails (h : Fails (onDisk operation) s failure s') :
    ∃ error, operation s.disk = (s'.disk, some error) := by
  unfold onDisk at h
  simp only [Fails.bind_iff, Fails.get_iff, Fails.set_iff, Gives.get_iff, Gives.set_iff,
    false_or] at h
  obtain ⟨_, _, ⟨rfl, rfl⟩, _, _, rfl, h⟩ := h
  split at h
  · rename_i error hsome
    rw [(Fails.throw_iff.1 h).2]
    exact ⟨error, by rw [← hsome]⟩
  · exact (Fails.pure_iff.1 h).elim

/-- A text that is written in one step is found defective or goes to the disk. -/
theorem writeAtomic_cases (check : SourceCheck) (trouble : Disk.Trouble) (path : Path)
    (text : String) (validate : Bool) :
    (∃ defect, writeAtomic check trouble path text validate = throw (.source defect)) ∨
      writeAtomic check trouble path text validate =
        (onDisk fun disk => disk.writeStaged trouble path (Text.Utf8.encode text)) >>= fun _ =>
          note [.wrote path.text text.length] := by
  unfold writeAtomic
  cases validate with
  | false => exact .inr rfl
  | true =>
    cases check text with
    | none => exact .inr rfl
    | some defect => exact .inl ⟨defect, rfl⟩

theorem write_gives (hatomic : config.output.atomicWrite.isTruthy = true)
    (h : Gives (write check trouble config path text) s u s') :
    s.disk.writeStaged trouble path (Text.Utf8.encode text) = (s'.disk, none) := by
  rw [write, if_pos hatomic] at h
  rcases writeAtomic_cases check trouble path text config.output.validateBeforeWrite.isTruthy with
    ⟨defect, hwrite⟩ | hwrite
  · rw [hwrite] at h
    exact (Gives.throw_iff.1 h).elim
  · rw [hwrite, Gives.bind_iff] at h
    obtain ⟨_, s₁, hdisk, hnote⟩ := h
    rw [onDisk_gives hdisk, (LeavesDisk.note _).of_gives hnote]

theorem write_fails (hatomic : config.output.atomicWrite.isTruthy = true)
    (h : Fails (write check trouble config path text) s failure s') :
    Disk.MakesWay path.parent s.disk s'.disk := by
  rw [write, if_pos hatomic] at h
  rcases writeAtomic_cases check trouble path text config.output.validateBeforeWrite.isTruthy with
    ⟨defect, hwrite⟩ | hwrite
  · rw [hwrite] at h
    rw [(Fails.throw_iff.1 h).2]
    exact .refl _ _
  · rw [hwrite, Fails.bind_iff] at h
    rcases h with hdisk | ⟨_, _, -, hnote⟩
    · obtain ⟨error, hfailed⟩ := onDisk_fails hdisk
      exact Disk.writeStaged_fails hfailed
    · exact (Fails.modify_iff.1 hnote).elim

/-- **A generation writes all or nothing.** If it fails, nothing on the disk has changed except for
directories that were made on the way to the output, so that no file has been changed, added or
taken away; what the output held it still holds. If it succeeds, the output holds exactly the text of the
module as it is laid out, and but for directories on the way to it nothing else has changed. The
failures from outside are arbitrary: any operation may fail, depending on its path and on the disk at
that moment, and so are the formatter, if there is one, and what it fails at. -/
theorem generate_all_or_nothing (check : SourceCheck) (formatter : Option Formatter)
    (trouble : Disk.Trouble) (config : Config) (task : Task) (before : State)
    (hatomic : config.output.atomicWrite.isTruthy = true) :
    (∀ failure after, Fails (generate check formatter trouble config task) before failure after →
      Disk.MakesWay (Path.ofString task.output).parent before.disk after.disk ∧
        ∀ content, before.disk.read (.ofString task.output) = .ok content →
          after.disk.read (.ofString task.output) = .ok content) ∧
    ∀ module after, Gives (generate check formatter trouble config task) before module after →
      ∃ text location, Produces formatter trouble config task before.disk module text ∧
        after.disk.read (.ofString task.output) = .ok (Text.Utf8.encode text) ∧
        after.disk.locate (.ofString task.output) = .ok location ∧
        ∀ other, other ≠ location →
          Disk.MadeOnWay (Path.ofString task.output).parent before.disk after.disk other := by
  rw [generate_eq]
  constructor
  · intro failure after h
    have hway : Disk.MakesWay (Path.ofString task.output).parent before.disk after.disk := by
      rcases Fails.bind_iff.1 h with hprepare | ⟨prepared, ready, hprepare, h⟩
      · rw [prepare_leavesDisk.of_fails hprepare]
        exact .refl _ _
      · rw [← prepare_leavesDisk.of_gives hprepare]
        rcases Fails.bind_iff.1 h with hwrite | ⟨_, _, -, h⟩
        · exact write_fails hatomic hwrite
        · rcases Fails.bind_iff.1 h with hnote | ⟨_, _, -, h⟩
          · exact (Fails.modify_iff.1 hnote).elim
          · exact (Fails.pure_iff.1 h).elim
    exact ⟨hway, fun content hread => hway.read hread⟩
  · intro module after h
    simp only [Gives.bind_iff, Gives.pure_iff] at h
    obtain ⟨prepared, ready, hprepare, _, written, hwrite, _, _, hnote, rfl, rfl⟩ := h
    have hready := prepare_leavesDisk.of_gives hprepare
    have hnoted := (LeavesDisk.note _).of_gives hnote
    obtain ⟨location, hlocate, hentry, hothers⟩ :=
      Disk.writeStaged_succeeds (write_gives hatomic hwrite)
    rw [hready] at hothers
    rw [hnoted]
    exact ⟨prepared.2, location, prepare_gives hprepare,
      Disk.read_eq_ok.2 ⟨location, hlocate, hentry⟩, hlocate, hothers⟩

/-- A schema beside an earlier module. -/
def draftDisk : Disk where
  entries := [(["work"], .directory),
    (["work", "schema.json"], .file (Text.Utf8.encode "\x7b\"type\": \"string\"\x7d")),
    (["work", "models.py"], .file (Text.Utf8.encode "VERSION = 1\n"))]
  working := ["work"]

def draftTask : Task := ⟨"schema.json", "models.py", [], .ok "generate"⟩

/-- There is no room for the last operation. -/
def fullAtMove : Disk.Trouble := fun operation _ _ => if operation = .move then some .full else none

/-- A formatter that ends every text with an empty line. -/
def spacious : Formatter := ⟨fun _ => true, fun _ text => .ok (text ++ "\n")⟩

/-- With a full disk the earlier module stays, and without trouble it is replaced. -/
theorem generate_all_or_nothing_draft :
    Config.standard.output.atomicWrite.isTruthy = true ∧
    (∃ failure after,
      Fails (generate (fun _ => none) none fullAtMove .standard draftTask) ⟨draftDisk, []⟩
          failure after ∧
        Disk.MakesWay ⟨"", []⟩ draftDisk after.disk ∧
        after.disk.read (.ofString "models.py") = .ok (Text.Utf8.encode "VERSION = 1\n")) ∧
    ∃ module after text,
      Gives (generate (fun _ => none) (some spacious) Disk.noTrouble .standard draftTask)
          ⟨draftDisk, []⟩ module after ∧
        Produces (some spacious) Disk.noTrouble .standard draftTask draftDisk module text ∧
        after.disk.read (.ofString "models.py") = .ok (Text.Utf8.encode text) := by
  refine ⟨rfl, ?_, ?_⟩
  · obtain ⟨failure, after, hfails⟩ := Fails.of_isNone
      (x := generate (fun _ => none) none fullAtMove .standard draftTask) (s := ⟨draftDisk, []⟩)
      (by decide +kernel)
    obtain ⟨hway, hread⟩ := (generate_all_or_nothing (fun _ => none) none fullAtMove .standard
      draftTask ⟨draftDisk, []⟩ rfl).1 failure after hfails
    have hbefore : draftDisk.read (.ofString "models.py") =
        .ok (Text.Utf8.encode "VERSION = 1\n") := by
      decide +kernel
    exact ⟨failure, after, hfails, hway, hread _ hbefore⟩
  · obtain ⟨module, after, hgives⟩ := Gives.of_isSome
      (x := generate (fun _ => none) (some spacious) Disk.noTrouble .standard draftTask)
      (s := ⟨draftDisk, []⟩) (by decide +kernel)
    obtain ⟨text, location, hproduces, hread, -⟩ := (generate_all_or_nothing (fun _ => none)
      (some spacious) Disk.noTrouble .standard draftTask ⟨draftDisk, []⟩ rfl).2 module after hgives
    exact ⟨module, after, text, hgives, hproduces, hread⟩

end Generation

end SchemaGuard
