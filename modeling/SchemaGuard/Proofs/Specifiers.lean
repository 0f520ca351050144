import Mathlib.Data.List.DropRight
import Mathlib.Data.List.Induction
import SchemaGuard.Proofs.Unescaped

/-!
# Which texts are targets

A target with an equals sign in it is cut at its commas, and each piece at its first equals sign.
`Accepted` says when such a text stands for a target, in terms of what its pieces say, and it is exact
(`parse_iff`). Every way of writing down a path and a name, in either order and with blanks around keys
and values, is read as that path and that name, since blanks around a text do not matter to `trim`
(`trim_pad`) and are neither commas nor equals signs.
-/

namespace SchemaGuard

/-! ## Blanks -/

namespace Text

variable {c : Char} {text : String}

theorem dropWhile_pad {blank : List Char} (h : blank.all isBlank = true) (chars : List Char) :
    (blank ++ chars).dropWhile isBlank = chars.dropWhile isBlank :=
  List.dropWhile_append_of_pos (List.all_eq_true.1 h)

/-- Blanks around a text do not matter. -/
theorem trim_pad {before after : List Char} (hbefore : before.all isBlank = true)
    (hafter : after.all isBlank = true) (chars : List Char) :
    trim (String.ofList (before ++ chars ++ after)) = trim (String.ofList chars) := by
  have hreverse : after.reverse.all isBlank = true := by rwa [List.all_reverse]
  simp only [trim, String.toList_ofList, List.append_assoc]
  rw [dropWhile_pad hbefore, List.dropWhile_append]
  split
  · rename_i hnone
    have hchars : chars.dropWhile isBlank = [] := List.isEmpty_iff.1 hnone
    have hall : after.dropWhile isBlank = [] := by simpa using dropWhile_pad hafter []
    rw [hchars, hall]
  · rw [List.reverse_append, dropWhile_pad hreverse]

/-- What is left at the front of a list stays when more is taken from its end. -/
theorem dropWhile_rdropWhile (p : Char → Bool) (chars : List Char) :
    ((chars.dropWhile p).rdropWhile p).dropWhile p = (chars.dropWhile p).rdropWhile p := by
  obtain ⟨rest, hrest⟩ := List.rdropWhile_prefix p (chars.dropWhile p)
  cases hkept : (chars.dropWhile p).rdropWhile p with
  | nil => rfl
  | cons c kept =>
    have hc : p c = false := by
      have hhead := List.head?_dropWhile_not p chars
      rwa [← hrest, hkept] at hhead
    rw [List.dropWhile_cons_of_neg (by simp [hc])]

theorem trim_trim (text : String) : trim (trim text) = trim text := by
  have h : (((text.toList.dropWhile isBlank).rdropWhile isBlank).dropWhile isBlank).rdropWhile isBlank =
      (text.toList.dropWhile isBlank).rdropWhile isBlank := by
    rw [dropWhile_rdropWhile, List.rdropWhile_idempotent]
  rw [trim, trim, String.toList_ofList]
  exact congrArg String.ofList h

theorem mem_of_mem_trim (h : c ∈ (trim text).toList) : c ∈ text.toList := by
  have hkept : c ∈ (text.toList.dropWhile isBlank).reverse.dropWhile isBlank := by
    simpa [trim] using h
  have hfront := (List.dropWhile_sublist _).mem hkept
  exact (List.dropWhile_sublist _).mem (List.mem_reverse.1 hfront)

theorem notMem_blank (hc : isBlank c = false) {blank : List Char} (h : blank.all isBlank = true) :
    c ∉ blank := by
  intro hmem
  rw [List.all_eq_true.1 h c hmem] at hc
  contradiction

theorem trim_of_noBlank (h : ∀ c ∈ text.toList, isBlank c = false) : trim text = text := by
  have hfront : text.toList.dropWhile isBlank = text.toList :=
    List.dropWhile_eq_self_iff.2 fun hlength =>
      Bool.not_eq_true _ ▸ h _ (List.getElem_mem hlength)
  have hback : text.toList.reverse.dropWhile isBlank = text.toList.reverse :=
    List.dropWhile_eq_self_iff.2 fun hlength =>
      Bool.not_eq_true _ ▸ h _ (List.mem_reverse.1 (List.getElem_mem hlength))
  rw [trim, hfront, hback, List.reverse_reverse, String.ofList_toList]

/-- No character of an identifier is a blank. -/
theorem isBlank_of_isIdentifierPart (h : isIdentifierStart c = true ∨ isIdentifierPart c = true) :
    isBlank c = false := by
  by_contra hblank
  have hcode : c.toNat ∈ blanks.flatMap fun range => List.range' range.1 (range.2 + 1 - range.1) := by
    obtain ⟨range, hrange, hin⟩ := List.any_eq_true.1 (Bool.not_eq_false _ ▸ hblank)
    refine List.mem_flatMap.2 ⟨range, hrange, List.mem_range'_1.2 ?_⟩
    simp only [Bool.and_eq_true, decide_eq_true_eq] at hin
    omega
  have hnone : ∀ code ∈ blanks.flatMap fun range => List.range' range.1 (range.2 + 1 - range.1),
      isIdentifierStart (Char.ofNat code) = false ∧ isIdentifierPart (Char.ofNat code) = false := by
    decide +kernel
  have hc := hnone _ hcode
  rw [Char.ofNat_toNat] at hc
  simp [hc] at h

theorem notMem_splitList {separator : Char} {chars part : List Char}
    (h : part ∈ splitList separator chars) : separator ∉ part := by
  induction chars generalizing part with
  | nil =>
    cases List.mem_singleton.1 h
    exact List.not_mem_nil
  | cons c chars ih =>
    obtain ⟨first, parts, hparts⟩ := List.exists_cons_of_ne_nil (splitList_ne_nil separator chars)
    by_cases hc : c = separator
    · rw [splitList, if_pos (by simpa using hc)] at h
      rcases List.mem_cons.1 h with rfl | h
      · exact List.not_mem_nil
      · exact ih h
    · rw [splitList_cons_of_ne hc hparts] at h
      rcases List.mem_cons.1 h with rfl | h
      · have hfirst := ih (hparts ▸ List.mem_cons_self)
        simp [hfirst, Ne.symm hc]
      · exact ih (hparts ▸ List.mem_cons_of_mem _ h)

theorem notMem_split {separator : Char} {part : String} (h : part ∈ split separator text) :
    separator ∉ part.toList := by
  obtain ⟨chars, hchars, rfl⟩ := List.mem_map.1 h
  rw [String.toList_ofList]
  exact notMem_splitList hchars

end Text

/-! ## Tables made of entries -/

/-- The last entry of a key gives its value. -/
theorem Table.get?_ofList {α : Type} (entries : List (String × α)) (key : String) :
    (Table.ofList entries).get? key = entries.reverse.lookup key := by
  induction entries using List.reverseRecOn with
  | nil => rfl
  | append_singleton entries entry ih =>
    rw [Table.ofList, List.foldl_append, List.reverse_append]
    simp only [List.foldl_cons, List.foldl_nil, List.reverse_cons, List.reverse_nil, List.nil_append,
      List.singleton_append]
    rw [Table.get?_put, lookup_cons_eq, ← ih]
    rfl

namespace Target

/-! ## What the pieces say -/

/-- A piece assigns a value to a key: its first equals sign stands between the two, with blanks around
them that do not count. -/
def Assigns (piece key value : String) : Prop :=
  ∃ before after : List Char, piece.toList = before ++ '=' :: after ∧ '=' ∉ before ∧
    Text.trim (String.ofList before) = key ∧ Text.trim (String.ofList after) = value

/-- The value that the last of the pieces with a key assigns to it. -/
def AssignedLast (pieces : List String) (key value : String) : Prop :=
  ∃ earlier piece later, pieces = earlier ++ piece :: later ∧ Assigns piece key value ∧
    ∀ other ∈ later, ∀ value, ¬ Assigns other key value

/-- The text stands for the target: its pieces are about a path and a name and give them values that
are not empty, and the target is made of the values given last. -/
structure Accepted (text : String) (target : Target) : Prop where
  pieces : ∀ piece ∈ Text.split ',' text, ∃ key value, Assigns piece key value ∧
    (key = "path" ∨ key = "name") ∧ value ≠ ""
  path : AssignedLast (Text.split ',' text) "path" target.path
  name : ∀ name, target.name = some name →
    AssignedLast (Text.split ',' text) "name" name ∧ isName name = true
  unnamed : target.name = none → ∀ piece ∈ Text.split ',' text, ∀ value, ¬ Assigns piece "name" value

/-- The key and the value of a piece with an equals sign in it. -/
def entry (piece : String) : String × String :=
  (Text.trim (String.ofList (piece.toList.takeWhile (· != '='))),
    Text.trim (String.ofList ((piece.toList.dropWhile (· != '=')).drop 1)))

variable {piece key value : String}

theorem assigns_iff :
    Assigns piece key value ↔ '=' ∈ piece.toList ∧ entry piece = (key, value) := by
  constructor
  · rintro ⟨before, after, hpiece, hbefore, rfl, rfl⟩
    have hskip : ∀ c ∈ before, (c != '=') = true := by
      intro c hc
      exact bne_iff_ne.2 fun heq => hbefore (heq ▸ hc)
    refine ⟨by simp [hpiece], ?_⟩
    rw [entry, hpiece, List.takeWhile_append_of_pos hskip, List.dropWhile_append_of_pos hskip]
    simp
  · rintro ⟨hmem, hentry⟩
    obtain ⟨after, hafter⟩ : ∃ after, piece.toList.dropWhile (· != '=') = '=' :: after := by
      cases hrest : piece.toList.dropWhile (· != '=') with
      | nil =>
        have hnone := List.dropWhile_eq_nil_iff.1 hrest _ hmem
        simp at hnone
      | cons c after =>
        have hhead := List.head?_dropWhile_not (· != '=') piece.toList
        rw [hrest] at hhead
        exact ⟨after, by simpa using hhead⟩
    have hsplit := List.takeWhile_append_dropWhile (p := (· != '=')) (l := piece.toList)
    rw [hafter] at hsplit
    rw [entry, hafter, Prod.mk.injEq] at hentry
    refine ⟨_, after, hsplit.symm, ?_, hentry.1, hentry.2⟩
    intro hbefore
    have hne := List.mem_takeWhile_imp hbefore
    simp at hne

/-- A piece assigns one value, and to one key. -/
theorem Assigns.unique {key' value' : String} (h : Assigns piece key value)
    (h' : Assigns piece key' value') : key = key' ∧ value = value' :=
  Prod.mk.inj ((assigns_iff.1 h).2.symm.trans (assigns_iff.1 h').2)

theorem pair_eq_ok_iff {assigned : String × String} :
    pair piece = .ok assigned ↔
      Assigns piece assigned.1 assigned.2 ∧ assigned.1 ≠ "" ∧ assigned.2 ≠ "" := by
  rw [assigns_iff, pair, Text.cut?]
  by_cases hmem : '=' ∈ piece.toList
  · simp only [List.contains_iff_mem.2 hmem, if_true]
    generalize hentry : entry piece = found
    obtain ⟨key, value⟩ := found
    obtain ⟨hkey, hvalue⟩ := Prod.mk.inj hentry
    rw [hkey, hvalue]
    by_cases hempty : key = "" ∨ value = ""
    · rw [if_pos (by simpa using hempty)]
      constructor
      · intro h
        cases h
      · rintro ⟨⟨-, hsame⟩, hfilled⟩
        cases hsame
        exact (not_or.2 hfilled hempty).elim
    · rw [if_neg (by simpa using hempty)]
      constructor
      · intro h
        cases h
        exact ⟨⟨hmem, rfl⟩, not_or.1 hempty⟩
      · rintro ⟨⟨-, hsame⟩, -⟩
        rw [hsame]
  · simp [hmem]

/-- Pieces are read one by one, and their entries are kept in order. -/
theorem mapM_pair_eq_ok_iff {pieces : List String} {entries : List (String × String)} :
    pieces.mapM pair = .ok entries ↔
      (∀ piece ∈ pieces, pair piece = .ok (entry piece)) ∧ entries = pieces.map entry := by
  induction pieces generalizing entries with
  | nil =>
    rw [List.mapM_nil]
    constructor
    · intro h
      cases h
      simp
    · rintro ⟨-, rfl⟩
      rfl
  | cons piece pieces ih =>
    rw [List.mapM_cons, bind_eq_ok]
    constructor
    · rintro ⟨assigned, hpair, h⟩
      obtain ⟨others, hothers, h⟩ := bind_eq_ok.1 h
      obtain ⟨hpieces, rfl⟩ := ih.1 hothers
      have hentry : entry piece = assigned := (assigns_iff.1 (pair_eq_ok_iff.1 hpair).1).2
      cases h
      subst hentry
      exact ⟨List.forall_mem_cons.2 ⟨hpair, hpieces⟩, rfl⟩
    · rintro ⟨h, rfl⟩
      obtain ⟨hpair, hpieces⟩ := List.forall_mem_cons.1 h
      exact ⟨_, hpair, bind_eq_ok.2 ⟨_, ih.2 ⟨hpieces, rfl⟩, rfl⟩⟩

section

variable {pieces : List String} (hpieces : ∀ piece ∈ pieces, '=' ∈ piece.toList)

include hpieces

variable {key : String}

theorem lookup_entries_eq_some_iff {value : String} :
    (pieces.map entry).reverse.lookup key = some value ↔ AssignedLast pieces key value := by
  rw [List.lookup_eq_some_iff, ← List.map_reverse]
  constructor
  · rintro ⟨_, _, hreverse, hlater⟩
    obtain ⟨later, rest, hsplit, rfl, hrest⟩ := List.map_eq_append_iff.1 hreverse
    obtain ⟨piece, earlier, rfl, hentry, rfl⟩ := List.map_eq_cons_iff.1 hrest
    have hwhole : pieces = earlier.reverse ++ piece :: later.reverse := by
      simpa using congrArg List.reverse hsplit
    refine ⟨_, piece, _, hwhole, assigns_iff.2 ⟨hpieces piece (by simp [hwhole]), hentry⟩, ?_⟩
    intro other hother value hassigns
    have hne := hlater (entry other) (List.mem_map_of_mem (List.mem_reverse.1 hother))
    simp [(assigns_iff.1 hassigns).2] at hne
  · rintro ⟨earlier, piece, later, rfl, hassigns, hlater⟩
    refine ⟨later.reverse.map entry, earlier.reverse.map entry, ?_, ?_⟩
    · simp [(assigns_iff.1 hassigns).2]
    · intro _ hentry
      obtain ⟨other, hother, rfl⟩ := List.mem_map.1 hentry
      have hmem : other ∈ later := List.mem_reverse.1 hother
      refine bne_iff_ne.2 fun hkey => hlater other hmem (entry other).2 ?_
      exact assigns_iff.2 ⟨hpieces other (by simp [hmem]), hkey ▸ rfl⟩

theorem lookup_entries_eq_none_iff :
    (pieces.map entry).reverse.lookup key = none ↔
      ∀ piece ∈ pieces, ∀ value, ¬ Assigns piece key value := by
  rw [List.lookup_eq_none_iff]
  constructor
  · intro h piece hpiece value hassigns
    have hne := h (entry piece) (by simpa using ⟨piece, hpiece, rfl⟩)
    simp [(assigns_iff.1 hassigns).2] at hne
  · intro h _ hentry
    obtain ⟨piece, hpiece, rfl⟩ := List.mem_map.1 (List.mem_reverse.1 hentry)
    refine bne_iff_ne.2 fun hkey => h piece hpiece (entry piece).2 ?_
    exact assigns_iff.2 ⟨hpieces piece hpiece, hkey ▸ rfl⟩

theorem mem_keys_entries_iff :
    key ∈ (Table.ofList (pieces.map entry)).keys ↔ ∃ piece ∈ pieces, ∃ value, Assigns piece key value := by
  rw [← not_iff_not, Table.mem_keys, ← Option.ne_none_iff_exists', not_not, Table.get?_ofList,
    lookup_entries_eq_none_iff hpieces]
  simp

end

/-! ## Reading a target -/

variable {text : String} {target : Target}

/-- What has to happen for a text with an equals sign in it to be read. -/
theorem parse_eq_ok_iff (h : '=' ∈ text.toList) :
    parse text = .ok target ↔
      ∃ entries, (Text.split ',' text).mapM pair = .ok entries ∧
        (∀ key ∈ (Table.ofList entries).keys, key = "path" ∨ key = "name") ∧
        (Table.ofList entries).get? "path" = some target.path ∧
        (Table.ofList entries).get? "name" = target.name ∧
        ∀ name, target.name = some name → isName name = true := by
  rw [parse]
  simp only [List.contains_iff_mem.2 h, Bool.not_true, Bool.false_eq_true, if_false, bind_eq_ok]
  refine exists_congr fun entries => and_congr_right fun _ => ?_
  generalize Table.ofList entries = params
  obtain ⟨targetPath, targetName⟩ := target
  have hknown : (params.keys.filter fun key => key != "path" && key != "name").isEmpty = true ↔
      ∀ key ∈ params.keys, key = "path" ∨ key = "name" := by
    simp [List.isEmpty_iff, List.filter_eq_nil_iff, or_iff_not_imp_left]
  by_cases hkeys : ∀ key ∈ params.keys, key = "path" ∨ key = "name"
  · rw [if_neg (by simp [hknown.2 hkeys])]
    cases params.get? "path" with
    | none => simp [throw, throwThe, MonadExceptOf.throw]
    | some path =>
      cases params.get? "name" with
      | none =>
        constructor
        · intro hread
          cases hread
          exact ⟨hkeys, rfl, rfl, by simp⟩
        · rintro ⟨-, hpath, hnone, -⟩
          cases hpath
          cases hnone
          rfl
      | some name =>
        by_cases hname : isName name = true
        · dsimp only
          rw [if_pos hname]
          constructor
          · intro hread
            cases hread
            exact ⟨hkeys, rfl, rfl, by simp [hname]⟩
          · rintro ⟨-, hpath, hsome, -⟩
            cases hpath
            cases hsome
            rfl
        · dsimp only
          rw [if_neg hname]
          constructor
          · intro hread
            cases hread
          · rintro ⟨-, -, hsome, hvalid⟩
            exact (hname (hvalid name hsome.symm)).elim
  · rw [if_pos (by simpa [hknown] using hkeys)]
    simp [hkeys, throw, throwThe, MonadExceptOf.throw, bind, Except.bind]

/-- **Reading accepts exactly the texts that stand for a target.** -/
theorem parse_iff (h : '=' ∈ text.toList) :
    parse text = .ok target ↔ Accepted text target := by
  rw [parse_eq_ok_iff h]
  constructor
  · rintro ⟨entries, hentries, hkeys, hpath, hname, hvalid⟩
    obtain ⟨hpairs, rfl⟩ := mapM_pair_eq_ok_iff.1 hentries
    have hequals : ∀ piece ∈ Text.split ',' text, '=' ∈ piece.toList := by
      intro piece hpiece
      exact (assigns_iff.1 (pair_eq_ok_iff.1 (hpairs piece hpiece)).1).1
    rw [Table.get?_ofList] at hpath hname
    refine ⟨?_, (lookup_entries_eq_some_iff hequals).1 hpath, ?_, ?_⟩
    · intro piece hpiece
      obtain ⟨hassigns, -, hvalue⟩ := pair_eq_ok_iff.1 (hpairs piece hpiece)
      exact ⟨_, _, hassigns, hkeys _ ((mem_keys_entries_iff hequals).2 ⟨_, hpiece, _, hassigns⟩), hvalue⟩
    · intro name hsome
      exact ⟨(lookup_entries_eq_some_iff hequals).1 (hname.trans hsome), hvalid name hsome⟩
    · intro hnone
      exact (lookup_entries_eq_none_iff hequals).1 (hname.trans hnone)
  · rintro ⟨hpieces, hpath, hname, hunnamed⟩
    have hequals : ∀ piece ∈ Text.split ',' text, '=' ∈ piece.toList := by
      intro piece hpiece
      obtain ⟨key, value, hassigns, -⟩ := hpieces piece hpiece
      exact (assigns_iff.1 hassigns).1
    refine ⟨_, mapM_pair_eq_ok_iff.2 ⟨?_, rfl⟩, ?_, ?_, ?_, fun name hsome => (hname name hsome).2⟩
    · intro piece hpiece
      obtain ⟨key, value, hassigns, hkey, hvalue⟩ := hpieces piece hpiece
      rw [(assigns_iff.1 hassigns).2]
      refine pair_eq_ok_iff.2 ⟨hassigns, ?_, hvalue⟩
      rcases hkey with rfl | rfl <;> simp
    · intro key hkey
      obtain ⟨piece, hpiece, value, hassigns⟩ := (mem_keys_entries_iff hequals).1 hkey
      obtain ⟨key', value', hassigns', hkey', -⟩ := hpieces piece hpiece
      rwa [(hassigns.unique hassigns').1]
    · rw [Table.get?_ofList]
      exact (lookup_entries_eq_some_iff hequals).2 hpath
    · rw [Table.get?_ofList]
      cases hsome : target.name with
      | none => exact (lookup_entries_eq_none_iff hequals).2 (hunnamed hsome)
      | some name => exact (lookup_entries_eq_some_iff hequals).2 (hname name hsome).1

/-! ## Writing a target -/

/-- A key and a value around an equals sign, with blanks around both. -/
def Written (key value : String) (piece : String) : Prop :=
  ∃ before between between' after : List Char,
    (before ++ between ++ between' ++ after).all Text.isBlank = true ∧
      piece.toList = before ++ key.toList ++ between ++ '=' :: (between' ++ value.toList ++ after)

/-- A value that can be written down: it is not empty, and it has no blanks around it and no comma in
it. -/
structure Writable (value : String) : Prop where
  ne_empty : value ≠ ""
  trimmed : Text.trim value = value
  undivided : ',' ∉ value.toList

/-- The texts that a path and possibly a name are written as. -/
inductive Spelling (path : String) : Option String → String → Prop where
  | path {text : String} (h : Written "path" path text) : Spelling path none text
  | pathName {name first second : String} (hfirst : Written "path" path first)
      (hsecond : Written "name" name second) : Spelling path (some name) (first ++ "," ++ second)
  | namePath {name first second : String} (hfirst : Written "name" name first)
      (hsecond : Written "path" path second) : Spelling path (some name) (first ++ "," ++ second)

theorem writable_of_isName {name : String} (h : isName name = true) : Writable name := by
  have hidentifier : Text.isIdentifier name = true := (Bool.and_eq_true_iff.1 h).1
  rw [Text.isIdentifier] at hidentifier
  cases hchars : name.toList with
  | nil => simp [hchars] at hidentifier
  | cons first rest =>
    rw [hchars] at hidentifier
    obtain ⟨hfirst, hrest⟩ := Bool.and_eq_true_iff.1 hidentifier
    have hparts : ∀ c ∈ name.toList, Text.isIdentifierStart c = true ∨ Text.isIdentifierPart c = true := by
      rw [hchars]
      exact List.forall_mem_cons.2 ⟨.inl hfirst, fun c hc => .inr (List.all_eq_true.1 hrest c hc)⟩
    refine ⟨?_, Text.trim_of_noBlank fun c hc => Text.isBlank_of_isIdentifierPart (hparts c hc), ?_⟩
    · rintro rfl
      simp at hchars
    · intro hcomma
      have hpart := hparts ',' hcomma
      revert hpart
      decide

section

variable {key value piece : String} (hkey : key = "path" ∨ key = "name") (hvalue : Writable value)
  (h : Written key value piece)

include hkey hvalue h

theorem Written.assigns : Assigns piece key value := by
  obtain ⟨before, between, between', after, hblank, hpiece⟩ := h
  simp only [List.all_append, Bool.and_eq_true] at hblank
  obtain ⟨⟨⟨hbefore, hbetween⟩, hbetween'⟩, hafter⟩ := hblank
  have hplain : '=' ∉ key.toList ∧ Text.trim key = key := by
    rcases hkey with rfl | rfl <;> decide +kernel
  refine ⟨before ++ key.toList ++ between, between' ++ value.toList ++ after, hpiece, ?_, ?_, ?_⟩
  · simp [hplain.1, Text.notMem_blank (c := '=') (by decide) hbefore,
      Text.notMem_blank (c := '=') (by decide) hbetween]
  · rw [Text.trim_pad hbefore hbetween, String.ofList_toList, hplain.2]
  · rw [Text.trim_pad hbetween' hafter, String.ofList_toList, hvalue.trimmed]

theorem Written.undivided : ',' ∉ piece.toList := by
  obtain ⟨before, between, between', after, hblank, hpiece⟩ := h
  have hblanks := Text.notMem_blank (c := ',') (by decide) hblank
  have hplain : ',' ∉ key.toList := by
    rcases hkey with rfl | rfl <;> decide +kernel
  simp only [List.mem_append, not_or] at hblanks
  simp [hpiece, hplain, hvalue.undivided, hblanks]

end

/-- A piece for one key does not assign to the other. -/
theorem Assigns.other (h : Assigns piece key value) (other : String) (hne : key ≠ other)
    (value' : String) : ¬ Assigns piece other value' :=
  fun h' => hne (h.unique h').1

/-- Two pieces, one with the path and one with the name, stand for both, whichever comes first. -/
theorem accepted_two {first second path name : String}
    (hsplit : Text.split ',' text = [first, second] ∨ Text.split ',' text = [second, first])
    (hfirst : Assigns first "path" path) (hsecond : Assigns second "name" name) (hpath : path ≠ "")
    (hname : isName name = true) : Accepted text ⟨path, some name⟩ := by
  have hvalue : name ≠ "" := (writable_of_isName hname).ne_empty
  have hfirst' := hfirst.other "name" (by decide)
  have hsecond' := hsecond.other "path" (by decide)
  have hmem : ∀ piece ∈ Text.split ',' text, piece = first ∨ piece = second := by
    rcases hsplit with hsplit | hsplit <;> simp [hsplit, or_comm]
  have hpieces : AssignedLast (Text.split ',' text) "path" path ∧
      AssignedLast (Text.split ',' text) "name" name := by
    rcases hsplit with hsplit | hsplit
    · rw [hsplit]
      exact ⟨⟨[], first, [second], rfl, hfirst, by simpa using hsecond'⟩,
        ⟨[first], second, [], rfl, hsecond, by simp⟩⟩
    · rw [hsplit]
      exact ⟨⟨[second], first, [], rfl, hfirst, by simp⟩,
        ⟨[], second, [first], rfl, hsecond, by simpa using hfirst'⟩⟩
  refine ⟨?_, hpieces.1, ?_, by simp⟩
  · intro piece hpiece
    rcases hmem piece hpiece with rfl | rfl
    · exact ⟨_, _, hfirst, .inl rfl, hpath⟩
    · exact ⟨_, _, hsecond, .inr rfl, hvalue⟩
  · intro _ hsome
    cases hsome
    exact ⟨hpieces.2, hname⟩

/-- What is written down stands for what was meant. -/
theorem Spelling.accepted {path : String} {name : Option String} (hpath : Writable path)
    (hname : ∀ n, name = some n → isName n = true) (h : Spelling path name text) :
    Accepted text ⟨path, name⟩ := by
  cases h with
  | path h =>
    have hassigns := h.assigns (.inl rfl) hpath
    have hsplit := Text.split_of_notMem (h.undivided (.inl rfl) hpath)
    refine ⟨?_, ?_, by simp, ?_⟩
    · rw [hsplit]
      simpa using ⟨_, _, hassigns, .inl rfl, hpath.ne_empty⟩
    · exact hsplit ▸ ⟨[], text, [], rfl, hassigns, by simp⟩
    · rw [hsplit]
      simpa using hassigns.other "name" (by decide)
  | @pathName n first second hfirst hsecond =>
    have hwritable := writable_of_isName (hname n rfl)
    refine accepted_two (.inl ?_) (hfirst.assigns (.inl rfl) hpath)
      (hsecond.assigns (.inr rfl) hwritable) hpath.ne_empty (hname n rfl)
    rw [Text.split_append rfl, Text.split_of_notMem (hfirst.undivided (.inl rfl) hpath),
      Text.split_of_notMem (hsecond.undivided (.inr rfl) hwritable), List.singleton_append]
  | @namePath n first second hfirst hsecond =>
    have hwritable := writable_of_isName (hname n rfl)
    refine accepted_two (.inr ?_) (hsecond.assigns (.inl rfl) hpath)
      (hfirst.assigns (.inr rfl) hwritable) hpath.ne_empty (hname n rfl)
    rw [Text.split_append rfl, Text.split_of_notMem (hfirst.undivided (.inr rfl) hwritable),
      Text.split_of_notMem (hsecond.undivided (.inl rfl) hpath), List.singleton_append]

/-- The path of a target can be written down again. -/
theorem Accepted.writable (h : Accepted text target) :
    Writable target.path := by
  obtain ⟨earlier, piece, later, hsplit, hassigns, -⟩ := h.path
  have hpiece : piece ∈ Text.split ',' text := by simp [hsplit]
  obtain ⟨key, value, hassigns', -, hvalue⟩ := h.pieces piece hpiece
  have hsame := (hassigns.unique hassigns').2
  obtain ⟨before, after, hchars, -, -, htrim⟩ := hassigns
  refine ⟨hsame ▸ hvalue, ?_, ?_⟩
  · rw [← htrim, Text.trim_trim]
  · intro hcomma
    have hafter := Text.mem_of_mem_trim (htrim ▸ hcomma)
    refine Text.notMem_split hpiece ?_
    rw [hchars]
    simp [String.toList_ofList ▸ hafter]

theorem Accepted.mem_equals (h : Accepted text target) :
    '=' ∈ text.toList := by
  obtain ⟨earlier, piece, later, hsplit, hassigns, -⟩ := h.path
  have hpiece : piece ∈ Text.split ',' text := by simp [hsplit]
  exact Text.mem_of_mem_split hpiece (assigns_iff.1 hassigns).1

/-- **Targets are read as they are written, and nothing else is read.** However a path and a name are
written down, they are read back. A text with an equals sign in it is read as a target exactly if it
stands for that target, whose path can then be written down. -/
theorem parse_spelling_iff (text : String) :
    (∀ path name, Writable path → (∀ n, name = some n → isName n = true) → Spelling path name text →
      parse text = .ok ⟨path, name⟩) ∧
    ('=' ∈ text.toList → ∀ target, (parse text = .ok target ↔ Accepted text target) ∧
      (parse text = .ok target → Writable target.path)) := by
  constructor
  · intro path name hpath hname hspelling
    have haccepted := hspelling.accepted hpath hname
    exact (parse_iff haccepted.mem_equals).2 haccepted
  · intro hequals target
    exact ⟨parse_iff hequals, fun hread => ((parse_iff hequals).1 hread).writable⟩

/-- The theorem at a name before a path with an equals sign in it, and at a path that is given twice. -/
theorem parse_spelling_iff_padded :
    parse "name\u2003=Node\t, path = #/a=b" = .ok ⟨"#/a=b", some "Node"⟩ ∧
      Accepted "path=a,path = b" ⟨"b", none⟩ := by
  constructor
  · refine (parse_spelling_iff _).1 "#/a=b" (some "Node") ⟨by decide, by decide +kernel, by decide⟩
      (by decide +kernel) ?_
    have hpieces : "name\u2003=Node\t, path = #/a=b" = "name\u2003=Node\t" ++ "," ++ " path = #/a=b" := by
      decide +kernel
    rw [hpieces]
    refine .namePath ⟨[], ['\u2003'], [], ['\t'], ?_⟩ ⟨[' '], [' '], [' '], [], ?_⟩ <;> decide +kernel
  · exact (((parse_spelling_iff _).2 (by decide) _).1).1 (by decide +kernel)

end Target

end SchemaGuard
