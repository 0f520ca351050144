import SchemaGuard.Proofs.Atomicity

/-!
# Which texts are checked before they are written

**Theorem (`checked_if_in_one_step`).** Where texts are to be checked and modules are written in one
step, a text that does not pass the check is refused before anything on the disk has changed, and
every file that a run leaves behind, whether or not it fails, is an earlier file or holds a text that
passes. Where modules are written directly, the check is not asked at all, and a run that succeeds
leaves whatever text it has produced.

The first part holds of each computation that a generation consists of and is transitive, so that
only the writing needs a proof.
-/

namespace SchemaGuard

namespace Disk

variable {disk later latest : Disk} {path : Path} {trouble : Trouble} {content : List UInt8}
  {check : SourceCheck}

/-- All files that are new or have changed hold texts that pass a check. -/
def AddsChecked (check : SourceCheck) (disk later : Disk) : Prop :=
  ∀ location content, later.entry? location = some (.file content) →
    disk.entry? location = some (.file content) ∨
      ∃ text, content = Text.Utf8.encode text ∧ check text = none

theorem AddsChecked.refl (check : SourceCheck) (disk : Disk) : AddsChecked check disk disk :=
  fun _ _ h => .inl h

theorem AddsChecked.trans (h : AddsChecked check disk later)
    (h' : AddsChecked check later latest) : AddsChecked check disk latest := by
  intro location content hentry
  rcases h' location content hentry with hlater | hchecked
  · exact h location content hlater
  · exact .inr hchecked

/-- A file where at most a directory was made was there before. -/
theorem MadeOnWay.file {location : Location} (h : MadeOnWay path disk later location)
    (hentry : later.entry? location = some (.file content)) :
    disk.entry? location = some (.file content) := by
  rcases h with hsame | ⟨-, hmade, -⟩
  · rw [← hsame, hentry]
  · rw [hmade] at hentry
    cases hentry

/-- Writing a text in one step adds no other text, whether or not it fails. -/
theorem writeStaged_addsChecked {text : String} (hcheck : check text = none) :
    AddsChecked check disk (disk.writeStaged trouble path (Text.Utf8.encode text)).1 := by
  intro location content hentry
  rcases hwrite : disk.writeStaged trouble path (Text.Utf8.encode text) with ⟨later, _ | error⟩
  · rw [hwrite] at hentry
    obtain ⟨written, -, hwritten, hothers⟩ := writeStaged_succeeds hwrite
    by_cases hsame : location = written
    · rw [hsame, hwritten] at hentry
      cases hentry
      exact .inr ⟨text, rfl, hcheck⟩
    · exact .inl ((hothers location hsame).file hentry)
  · rw [hwrite] at hentry
    exact .inl (((writeStaged_fails hwrite).entries location).file hentry)

/-- A file that is written directly holds what was written. -/
theorem write_eq_ok (h : disk.write path content = .ok later) : later.read path = .ok content := by
  obtain ⟨location, hlocate, h⟩ := bind_eq_ok.1 h
  by_cases hdirectory : disk.isDirectory location = true
  · rw [if_pos hdirectory] at h
    cases h
  · rw [if_neg hdirectory] at h
    cases h
    have hfile : disk.entry? location ≠ some .directory := mt isDirectory_iff.2 hdirectory
    have hroot : location ≠ [] := ne_root _ hfile
    have hkeeps : KeepsDirectories disk (disk.put location (.file content)) := by
      intro other hother
      rw [isDirectory_iff] at hother ⊢
      rw [entry?_put _ hroot, if_neg, hother]
      rintro rfl
      exact hfile hother
    refine read_eq_ok.2 ⟨location, locate_mono hkeeps rfl hlocate, ?_⟩
    rw [entry?_put _ hroot, if_pos rfl]

theorem writePlain_succeeds (h : disk.writePlain trouble path content = (later, none)) :
    later.read path = .ok content := by
  unfold writePlain at h
  split at h
  · cases h
  · split at h
    · cases h
    · rename_i hwrite
      cases h
      exact write_eq_ok (guarded_eq_ok hwrite)

end Disk

namespace Generation

variable {check : SourceCheck} {formatter : Option Formatter} {trouble : Disk.Trouble}
  {config : Config} {task : Task} {path : Path} {text : String} {α β : Type}

/-! ## Runs that add checked texts only -/

/-- A computation that adds no texts but those that pass a check, whether or not it fails. -/
def WritesChecked (check : SourceCheck) (x : Generate α) : Prop :=
  ∀ s, Disk.AddsChecked check s.disk (x.run.run s).2.disk

namespace WritesChecked

theorem of_leavesDisk {x : Generate α} (h : LeavesDisk x) : WritesChecked check x := by
  intro s
  rw [h s]
  exact .refl _ _

protected theorem bind {x : Generate α} {f : α → Generate β} (hx : WritesChecked check x)
    (hf : ∀ a, WritesChecked check (f a)) : WritesChecked check (x >>= f) := by
  intro s
  have hfirst := hx s
  rw [Gives.run_bind]
  rcases hrun : x.run.run s with ⟨failure | a, s'⟩
  · rw [hrun] at hfirst
    exact hfirst
  · rw [hrun] at hfirst
    exact hfirst.trans (hf a s')

protected theorem onDisk {operation : Disk → Disk × Option Disk.Error}
    (h : ∀ disk, Disk.AddsChecked check disk (operation disk).1) :
    WritesChecked check (onDisk operation) := by
  intro s
  rcases hrun : (onDisk operation).run.run s with ⟨failure | u, s'⟩
  · obtain ⟨error, hfailed⟩ := onDisk_fails hrun
    have hdisk := h s.disk
    rw [hfailed] at hdisk
    exact hdisk
  · have hdisk := h s.disk
    rw [onDisk_gives hrun] at hdisk
    exact hdisk

end WritesChecked

/-- A defective text is refused. -/
theorem writeAtomic_of_defect {defect : SourceDefect} (h : check text = some defect) :
    writeAtomic check trouble path text true = throw (.source defect) := by
  simp only [writeAtomic, h]
  rfl

theorem writeAtomic_writesChecked :
    WritesChecked check (writeAtomic check trouble path text true) := by
  cases hcheck : check text with
  | none =>
    rcases writeAtomic_cases check trouble path text true with ⟨defect, hwrite⟩ | hwrite
    · rw [hwrite]
      exact .of_leavesDisk (.throw _)
    · rw [hwrite]
      exact .bind (.onDisk fun _ => Disk.writeStaged_addsChecked hcheck) fun _ =>
        .of_leavesDisk (.note _)
  | some defect =>
    rw [writeAtomic_of_defect hcheck]
    exact .of_leavesDisk (.throw _)

/-! ## Whole generations -/

theorem write_of_atomic (hvalidate : config.output.validateBeforeWrite.isTruthy = true)
    (hatomic : config.output.atomicWrite.isTruthy = true) :
    write check trouble config path text = writeAtomic check trouble path text true := by
  rw [write, if_pos hatomic, hvalidate]

theorem write_of_plain (hplain : config.output.atomicWrite.isTruthy = false) :
    write check trouble config path text = writePlain trouble path text := by
  rw [write, if_neg (by simp [hplain])]

theorem generate_writesChecked (hvalidate : config.output.validateBeforeWrite.isTruthy = true)
    (hatomic : config.output.atomicWrite.isTruthy = true) :
    WritesChecked check (generate check formatter trouble config task) := by
  rw [generate_eq]
  refine .bind (.of_leavesDisk prepare_leavesDisk) fun prepared => ?_
  rw [write_of_atomic hvalidate hatomic]
  refine .bind writeAtomic_writesChecked fun _ => ?_
  exact .of_leavesDisk (.bind (.note _) fun _ => .pure _)

/-- A generation fails on a defective text and has not touched the disk. -/
theorem generate_refuses (hvalidate : config.output.validateBeforeWrite.isTruthy = true)
    (hatomic : config.output.atomicWrite.isTruthy = true) {before ready : State}
    {prepared : Module × String} {defect : SourceDefect}
    (hprepare : Gives (prepare formatter trouble config task) before prepared ready)
    (hdefect : check prepared.2 = some defect) :
    Fails (generate check formatter trouble config task) before (.source defect) ready := by
  rw [generate_eq, Fails.bind_iff]
  refine .inr ⟨prepared, ready, hprepare, Fails.bind_iff.2 (.inl ?_)⟩
  rw [write_of_atomic hvalidate hatomic, writeAtomic_of_defect hdefect]
  exact Fails.throw_iff.2 ⟨rfl, rfl⟩

/-- A generation that writes directly leaves the text that it has produced. -/
theorem generate_plain_gives (hplain : config.output.atomicWrite.isTruthy = false)
    {before after : State} {module : Module}
    (h : Gives (generate check formatter trouble config task) before module after) :
    ∃ text, Produces formatter trouble config task before.disk module text ∧
      after.disk.read (.ofString task.output) = .ok (Text.Utf8.encode text) := by
  rw [generate_eq] at h
  simp only [Gives.bind_iff, Gives.pure_iff, write_of_plain hplain] at h
  obtain ⟨prepared, ready, hprepare, _, written, hwrite, _, _, hnote, rfl, rfl⟩ := h
  rw [(LeavesDisk.note _).of_gives hnote]
  exact ⟨prepared.2, prepare_gives hprepare, Disk.writePlain_succeeds (onDisk_gives hwrite)⟩

/-- **A text is checked exactly where it is written in one step.** Suppose that texts are to be
checked. If modules are written in one step, a generation whose text is defective fails with the
defect and leaves the disk as it was, and whatever else happens, all files that a run adds or changes
hold texts that pass. If modules are written directly, the check makes no difference to a generation,
and one that succeeds leaves the text that it has produced, defective or not. -/
theorem checked_if_in_one_step (check : SourceCheck) (formatter : Option Formatter)
    (trouble : Disk.Trouble) (config : Config) (task : Task) (before : State)
    (hvalidate : config.output.validateBeforeWrite.isTruthy = true) :
    (config.output.atomicWrite.isTruthy = true →
      (∀ module text ready defect,
        Gives (prepare formatter trouble config task) before (module, text) ready →
          check text = some defect →
            ∃ after,
              Fails (generate check formatter trouble config task) before (.source defect) after ∧
              after.disk = before.disk) ∧
      Disk.AddsChecked check before.disk
        ((generate check formatter trouble config task).run.run before).2.disk) ∧
    (config.output.atomicWrite.isTruthy = false →
      (∀ other, generate check formatter trouble config task =
        generate other formatter trouble config task) ∧
      ∀ module after, Gives (generate check formatter trouble config task) before module after →
        ∃ text, Produces formatter trouble config task before.disk module text ∧
          after.disk.read (.ofString task.output) = .ok (Text.Utf8.encode text)) := by
  constructor
  · intro hatomic
    refine ⟨fun module text ready defect hprepare hdefect => ?_,
      generate_writesChecked hvalidate hatomic before⟩
    exact ⟨ready, generate_refuses hvalidate hatomic hprepare hdefect,
      prepare_leavesDisk.of_gives hprepare⟩
  · intro hplain
    refine ⟨fun other => ?_, fun module after h => generate_plain_gives hplain h⟩
    simp only [generate_eq, write_of_plain hplain]

/-- A check that no text passes. -/
def refuseAll : SourceCheck := fun _ => some .malformed

/-- With the usual settings a text that does not pass is refused, and the earlier module stays. -/
theorem checked_if_in_one_step_refused :
    Config.standard.output.validateBeforeWrite.isTruthy = true ∧
    Config.standard.output.atomicWrite.isTruthy = true ∧
    ∃ after, Fails (generate refuseAll none Disk.noTrouble .standard draftTask) ⟨draftDisk, []⟩
        (.source .malformed) after ∧
      after.disk = draftDisk := by
  obtain ⟨⟨module, text⟩, ready, hprepare⟩ := Gives.of_isSome
    (x := prepare none Disk.noTrouble .standard draftTask) (s := ⟨draftDisk, []⟩) (by decide +kernel)
  obtain ⟨hrefused, -⟩ := (checked_if_in_one_step refuseAll none Disk.noTrouble .standard draftTask
      ⟨draftDisk, []⟩ rfl).1 rfl
  exact ⟨rfl, rfl, hrefused module text ready .malformed hprepare rfl⟩

/-- The usual settings, but for modules that are written directly. -/
def plainConfig : Config :=
  { Config.standard with output := { Config.standard.output with atomicWrite := .bool false } }

/-- **A text that does not pass is written nevertheless** if modules are written directly, although
texts are to be checked. -/
theorem defective_text_written :
    plainConfig.output.validateBeforeWrite.isTruthy = true ∧
    ∃ module after text,
      Gives (generate refuseAll none Disk.noTrouble plainConfig draftTask) ⟨draftDisk, []⟩
          module after ∧
        refuseAll text = some .malformed ∧
        after.disk.read (.ofString draftTask.output) = .ok (Text.Utf8.encode text) := by
  obtain ⟨module, after, hgives⟩ := Gives.of_isSome
    (x := generate refuseAll none Disk.noTrouble plainConfig draftTask) (s := ⟨draftDisk, []⟩)
    (by decide +kernel)
  obtain ⟨text, -, hread⟩ := generate_plain_gives rfl hgives
  exact ⟨rfl, module, after, text, hgives, rfl, hread⟩

end Generation

end SchemaGuard
