import SchemaGuard.Disk.Writer
import SchemaGuard.Proofs.Naming

/-!
# What operations do to a disk

`MakesWay path disk later` says that a disk has changed only by directories on the way to a path,
made where there was nothing. **Theorem (`ensureDirectories_makesWay`).** This is all that making
directories does, whether or not it succeeds and whatever goes wrong on the way.

Paths that lead somewhere lead there on every later disk that has kept its directories
(`locate_mono`). The name of a staged file is free (`freshName_free`): the names tried are more than
the entries of the disk, and no two of them are the same.
-/

namespace SchemaGuard.Disk

variable {disk later : Disk} {location other : Location} {path : Path} {trouble : Trouble}

/-! ## Entries -/

theorem entry?_of_ne (disk : Disk) (h : location ≠ []) :
    disk.entry? location = disk.entries.lookup location := by
  exact if_neg (by simpa using h)

theorem lookup_without (location other : Location) (entries : List (Location × Entry)) :
    (entries.filter (·.1 != location)).lookup other =
      if other = location then none else entries.lookup other := by
  induction entries with
  | nil => simp
  | cons entry entries ih =>
    obtain ⟨found, kind⟩ := entry
    by_cases hfound : found = location
    · subst hfound
      rw [List.filter_cons_of_neg (by simp), ih, List.lookup_cons]
      by_cases hother : other = found
      · simp [hother]
      · simp [hother, beq_eq_false_iff_ne.2 hother]
    · rw [List.filter_cons_of_pos (by simpa using hfound), List.lookup_cons, List.lookup_cons, ih]
      by_cases hother : other = found
      · subst hother
        simp [hfound]
      · simp [beq_eq_false_iff_ne.2 hother]

/-- What is at the locations of a disk after something was put at one. -/
theorem entry?_put (disk : Disk) (h : location ≠ []) (entry : Entry) (other : Location) :
    Disk.entry? (disk.put location entry) other =
      if other = location then some entry else disk.entry? other := by
  by_cases hroot : other = []
  · subst hroot
    rw [if_neg h.symm]
    rfl
  · rw [entry?_of_ne _ hroot, entry?_of_ne _ hroot, put, List.lookup_cons, lookup_without]
    by_cases hother : other = location
    · simp [hother]
    · simp [hother, beq_eq_false_iff_ne.2 hother]

/-- What is at the locations of a disk after something was taken away from one. -/
theorem entry?_erase (disk : Disk) (h : location ≠ []) (other : Location) :
    Disk.entry? (disk.erase location) other =
      if other = location then none else disk.entry? other := by
  by_cases hroot : other = []
  · subst hroot
    rw [if_neg h.symm]
    rfl
  · rw [entry?_of_ne _ hroot, entry?_of_ne _ hroot, erase, lookup_without]

theorem isDirectory_iff : disk.isDirectory location = true ↔
    disk.entry? location = some .directory := by
  rw [isDirectory, beq_iff_eq]

theorem ne_root (disk : Disk) (h : disk.entry? location ≠ some .directory) : location ≠ [] := by
  rintro rfl
  exact h rfl

/-! ## Following paths -/

/-- Everything that is a directory on one disk is one on the other. -/
def KeepsDirectories (disk later : Disk) : Prop :=
  ∀ location, disk.isDirectory location = true → later.isDirectory location = true

variable {name : String} {names : List String}

theorem step_eq_ok (h : disk.step location name = .ok other) :
    disk.isDirectory location = true := by
  unfold step at h
  split at h
  · cases h
  · rename_i hdirectory
    simpa using hdirectory

theorem step_mono (hkeeps : KeepsDirectories disk later) (h : disk.step location name = .ok other) :
    later.step location name = .ok other := by
  have hdirectory := step_eq_ok h
  rw [← h, step, step, hdirectory, hkeeps location hdirectory]

/-- Following at least one name. -/
theorem follow_cons :
    disk.follow location (name :: names) = .ok other ↔
      ∃ next, disk.step location name = .ok next ∧
        (names = [] ∧ other = next ∨
          names ≠ [] ∧ disk.entry? next ≠ none ∧ disk.follow next names = .ok other) := by
  rw [follow, bind_eq_ok]
  refine exists_congr fun next => and_congr_right fun _ => ?_
  cases names with
  | nil => simp [pure, Except.pure, eq_comm]
  | cons second names =>
    cases hentry : disk.entry? next with
    | none => simp [bind, Except.bind, throw, throwThe, MonadExceptOf.throw]
    | some entry => simp

theorem follow_mono (hkeeps : KeepsDirectories disk later)
    (h : disk.follow location names = .ok other) : later.follow location names = .ok other := by
  induction names generalizing location with
  | nil => exact h
  | cons name names ih =>
    obtain ⟨next, hstep, hrest⟩ := follow_cons.1 h
    refine follow_cons.2 ⟨next, step_mono hkeeps hstep, ?_⟩
    rcases hrest with hlast | ⟨hnames, -, hfollow⟩
    · exact .inl hlast
    · refine .inr ⟨hnames, ?_, ih hfollow⟩
      -- There are more names to follow, so what is in between is a directory.
      obtain ⟨second, others, rfl⟩ := List.exists_cons_of_ne_nil hnames
      obtain ⟨_, hstep', -⟩ := follow_cons.1 hfollow
      rw [isDirectory_iff.1 (hkeeps next (step_eq_ok hstep'))]
      simp

/-- **Where a path leads to, it leads to on a later disk.** -/
theorem locate_mono (hkeeps : KeepsDirectories disk later) (hworking : later.working = disk.working)
    (h : disk.locate path = .ok location) : later.locate path = .ok location := by
  unfold locate at h ⊢
  dsimp only at h ⊢
  split at h
  · cases h
  · rename_i hnull
    split at h
    · cases h
    · rename_i hlong
      rw [if_neg hnull, if_neg hlong, start, hworking]
      exact follow_mono hkeeps h

/-! ## Making directories -/

/-- A location is as it was, or a directory was made there, on the way to a path. -/
def MadeOnWay (path : Path) (disk later : Disk) (location : Location) : Prop :=
  later.entry? location = disk.entry? location ∨
    disk.entry? location = none ∧ later.entry? location = some .directory ∧
      ∃ parts, parts <+: path.parts ∧ later.locate ⟨path.root, parts⟩ = .ok location

/-- What was made on the way to a path still counts as that after other changes. -/
theorem MadeOnWay.kept {latest : Disk} (h : MadeOnWay path disk later location)
    (hkeeps : KeepsDirectories later latest) (hworking : latest.working = later.working)
    (hsame : latest.entry? location = later.entry? location) :
    MadeOnWay path disk latest location := by
  rcases h with hsame' | ⟨hnone, hmade, parts, hparts, hlocate⟩
  · exact .inl (hsame.trans hsame')
  · exact .inr ⟨hnone, hsame.trans hmade, parts, hparts, locate_mono hkeeps hworking hlocate⟩

/-- Only directories on the way to a path were made, where there was nothing. -/
structure MakesWay (path : Path) (disk later : Disk) : Prop where
  working_eq : later.working = disk.working
  entries : ∀ location, MadeOnWay path disk later location

namespace MakesWay

theorem refl (path : Path) (disk : Disk) : MakesWay path disk disk := ⟨rfl, fun _ => .inl rfl⟩

theorem keeps (h : MakesWay path disk later) : KeepsDirectories disk later := by
  intro location hdirectory
  rw [isDirectory_iff] at hdirectory ⊢
  rcases h.entries location with hsame | ⟨hnone, -⟩
  · rw [hsame, hdirectory]
  · rw [hdirectory] at hnone
    cases hnone

theorem trans {latest : Disk} (h : MakesWay path disk later) (h' : MakesWay path later latest) :
    MakesWay path disk latest := by
  refine ⟨h'.working_eq.trans h.working_eq, fun location => ?_⟩
  rcases h'.entries location with hsame | ⟨hnone, hmade, hway⟩
  · exact (h.entries location).kept h'.keeps h'.working_eq hsame
  · refine .inr ⟨?_, hmade, hway⟩
    rcases h.entries location with hsame' | ⟨-, hmade', -⟩
    · rw [← hsame', hnone]
    · rw [hmade'] at hnone
      cases hnone

/-- What is on the way to a path is on the way to what is below it. -/
theorem below {root : String} {above parts : List String} (h : MakesWay ⟨root, above⟩ disk later)
    (hparts : above <+: parts) : MakesWay ⟨root, parts⟩ disk later := by
  refine ⟨h.working_eq, fun location => ?_⟩
  rcases h.entries location with hsame | ⟨hnone, hmade, way, hway, hlocate⟩
  · exact .inl hsame
  · exact .inr ⟨hnone, hmade, way, hway.trans hparts, hlocate⟩

end MakesWay

theorem amid_eq_ok {α : Type} {operation : Operation} {text : String} {result : Except Fault α}
    {value : α} (h : disk.amid trouble operation text result = .ok value) : result = .ok value := by
  unfold amid at h
  split at h
  · cases h
  · exact h

theorem makeDirectory_makesWay (h : disk.makeDirectory path = .ok later) :
    MakesWay path disk later := by
  obtain ⟨location, hlocate, h⟩ := bind_eq_ok.1 h
  cases hentry : disk.entry? location with
  | some entry => simp [hentry, bind, Except.bind, throw, throwThe, MonadExceptOf.throw] at h
  | none =>
    simp only [hentry, bind, Except.bind, pure, Except.pure] at h
    cases h
    have hroot : location ≠ [] := disk.ne_root (by simp [hentry])
    have hkeeps : KeepsDirectories disk (disk.put location .directory) := by
      intro other hother
      rw [isDirectory_iff] at hother ⊢
      rw [entry?_put disk hroot]
      split
      · rfl
      · exact hother
    refine ⟨rfl, fun other => ?_⟩
    rw [MadeOnWay, entry?_put disk hroot]
    by_cases hother : other = location
    · subst hother
      exact .inr ⟨hentry, if_pos rfl, path.parts, List.prefix_rfl, locate_mono hkeeps rfl hlocate⟩
    · exact .inl (if_neg hother)

theorem attemptDirectory_makesWay (disk : Disk) (trouble : Trouble) (path : Path) :
    MakesWay path disk (disk.attemptDirectory trouble path).1 := by
  unfold attemptDirectory
  split
  · rename_i later hensured
    unfold ensureDirectory at hensured
    split at hensured
    · rename_i hmade
      cases hensured
      exact makeDirectory_makesWay (amid_eq_ok hmade)
    · split at hensured
      · cases hensured
        exact .refl path disk
      · cases hensured
  · exact .refl path disk

theorem ensureReversed_makesWay (disk : Disk) (trouble : Trouble) (root : String)
    (names : List String) :
    MakesWay ⟨root, names.reverse⟩ disk (disk.ensureReversed trouble root names).1 := by
  induction names generalizing disk with
  | nil => exact attemptDirectory_makesWay disk trouble _
  | cons name above ih =>
    rw [ensureReversed]
    have hattempt := attemptDirectory_makesWay disk trouble ⟨root, (name :: above).reverse⟩
    split
    · rename_i first _ hfirst
      rw [hfirst] at hattempt
      have habove : MakesWay ⟨root, (name :: above).reverse⟩ first
          (first.ensureReversed trouble root above).1 :=
        (ih first).below (by simp)
      split
      · rename_i second hsecond
        rw [hsecond] at habove
        exact (hattempt.trans habove).trans (attemptDirectory_makesWay second trouble _)
      · exact hattempt.trans habove
    · exact hattempt

/-- **Making directories only makes directories**, whether or not something goes wrong. -/
theorem ensureDirectories_makesWay (disk : Disk) (trouble : Trouble) (path : Path) :
    MakesWay path disk (disk.ensureDirectories path trouble).1 := by
  have hmade := ensureReversed_makesWay disk trouble path.root path.parts.reverse
  rw [List.reverse_reverse] at hmade
  exact hmade

/-! ## Staging -/

/-- The digits of a number can be read back from among leading zeros. -/
theorem ofDigitChars_padded (n : Nat) (digits : List Char) :
    Nat.ofDigitChars 10 (List.replicate n '0' ++ digits) 0 = Nat.ofDigitChars 10 digits 0 := by
  induction n with
  | zero => rfl
  | succ n ih => exact ih

theorem stagedName_injective (name : String) : Function.Injective (stagedName name) := by
  intro n m h
  have htokens := (String.append_right_inj ("." ++ name ++ ".")).1
    ((String.append_left_inj ".tmp").1 h)
  have hdigits := congrArg (fun token => Nat.ofDigitChars 10 token.toList 0) htokens
  simpa only [String.toList_append, String.toList_ofList, ofDigitChars_padded,
    Nat.toString_eq_repr, Nat.toList_repr, Nat.ofDigitChars_ten_toDigits] using hdigits

/-- **The name of a staged file is free**: the names tried are more than the entries. -/
theorem freshName_free (disk : Disk) (directory : Location) (name : String) :
    disk.entry? (directory ++ [disk.freshName directory name]) = none := by
  unfold freshName
  dsimp only
  generalize htries : (List.range (disk.entries.length + 1)).map (stagedName name) = tries
  cases hfound : tries.find? fun tried => (disk.entry? (directory ++ [tried])).isNone with
  | some tried => simpa using List.find?_some hfound
  | none =>
    have hnodup : (tries.map fun tried => directory ++ [tried]).Nodup := by
      rw [← htries]
      refine (List.nodup_range.map (stagedName_injective name)).map fun first second hsame => ?_
      exact (List.cons.inj (List.append_cancel_left hsame)).1
    have hsubset : (tries.map fun tried => directory ++ [tried]) ⊆ disk.entries.map (·.1) := by
      intro location hmem
      obtain ⟨tried, htried, rfl⟩ := List.mem_map.1 hmem
      have htaken := List.find?_eq_none.1 hfound tried htried
      rw [entry?_of_ne disk (by simp)] at htaken
      obtain ⟨entry, hentry⟩ : ∃ entry, (directory ++ [tried], entry) ∈ disk.entries := by
        simpa using htaken
      exact List.mem_map_of_mem hentry
    have hlength := hnodup.length_le_of_subset hsubset
    rw [← htries] at hlength
    simp only [List.length_map, List.length_range] at hlength
    omega

theorem freshName_length (disk : Disk) (directory : Location) (name : String) :
    2 < (disk.freshName directory name).length := by
  have hstaged : ∀ n, 2 < (stagedName name n).length := by
    intro n
    simp only [stagedName, String.length_append]
    have hend : ".tmp".length = 4 := by decide
    omega
  unfold freshName
  dsimp only
  cases hfound : (List.map (stagedName name) _).find? _ with
  | none => exact hstaged 0
  | some tried =>
    obtain ⟨n, -, rfl⟩ := List.mem_map.1 (List.mem_of_find?_eq_some hfound)
    exact hstaged n

/-- A name of more than two characters leads below a directory. -/
theorem step_of_length (hname : 2 < name.length) (h : disk.step location name = .ok other) :
    other = location ++ [name] := by
  have hdots : name ≠ "." ∧ name ≠ ".." := by
    constructor
    · rintro rfl
      exact absurd hname (by decide)
    · rintro rfl
      exact absurd hname (by decide)
  rw [step, step_eq_ok h] at h
  simp only [Bool.not_true, Bool.false_eq_true, if_false, beq_iff_eq, hdots.1, hdots.2] at h
  split at h
  · cases h
  · exact (Except.ok.inj h).symm

/-- A file is staged where there was nothing. -/
theorem stage_eq_ok {staged : Location} (h : disk.stage path = .ok (staged, later)) :
    disk.entry? staged = none ∧ later = disk.put staged (.file []) := by
  obtain ⟨⟨directory, entry⟩, -, h⟩ := bind_eq_ok.1 h
  dsimp only at h
  split at h
  · cases h
  · obtain ⟨location, hstep, h⟩ := bind_eq_ok.1 h
    cases h
    rw [step_of_length (freshName_length ..) hstep]
    exact ⟨freshName_free .., rfl⟩

end SchemaGuard.Disk
