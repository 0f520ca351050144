import SchemaGuard.Proofs.Bindings
import SchemaGuard.Proofs.Fails

/-!
# Builtins keep their meaning

Modules use builtins by name, and the registry does not reserve their names. All of them start with
a small letter, and so does no name that is derived from a text in the usual way. **Theorem
(`builtins_kept`).** If a module binds the name of a builtin, that name extends the name of a type
that was given by a target, or derived from a text that starts with neither a letter nor a digit. In
a module without such types, if the targets give ASCII names, all builtins are what they are.

A hoisted declaration can complete a name to that of a builtin, and this is why names that builtins
only start with are to blame as well. Names of functions never are: they start with `validate` or
`parse`.
-/

namespace SchemaGuard

/-- The name of an entry's type was given by a target, or derived from a text that starts with
neither a letter nor a digit. -/
def Entry.Irregular (targets : List Target) (schemaPath : String) (entry : Entry) : Prop :=
  Registry.explicitName? targets entry.pointer = some entry.typeName ∨
    Registry.explicitName? targets entry.pointer = none ∧
      ∃ text, Name.source schemaPath entry.pointer = .ok text ∧ Name.startsPlainly text = false

/-- No builtin starts with a capital letter, or as the name of a function does. -/
theorem Check.head_builtin {name : String} (h : name ∈ builtinNames) {c : Char}
    (hc : name.toList.head? = some c) : c.isUpper = false ∧ c ≠ 'v' ∧ c ≠ 'p' := by
  have hall : ∀ name ∈ builtinNames, name.toList.head?.all
      (fun c => !c.isUpper && c != 'v' && c != 'p') = true := by decide
  have hname := hall name h
  rw [hc] at hname
  simpa [and_assoc] using hname

namespace Module

variable {document : Json} {schemaPath : String} {targets : List Target}
  {module : Module} {run : Run}

theorem explicitName?_requested (targets : List Target) (pointer : String) :
    Registry.explicitName? (requested targets) pointer =
      Registry.explicitName? targets pointer := by
  cases targets with
  | nil => rfl
  | cons target targets => rfl

namespace Registered

variable {registry : Registry} {entry : Entry}
  (h : Registered document schemaPath targets module run registry)
include h

/-- How the type of an entry got its name. -/
theorem typeName_cases (hentry : entry ∈ module.entries) :
    Registry.explicitName? targets entry.pointer = some entry.typeName ∨
      Registry.explicitName? targets entry.pointer = none ∧ ∃ text,
        Name.source schemaPath entry.pointer = .ok text ∧ entry.typeName = Name.ofText text := by
  rw [← explicitName?_requested]
  exact Registry.nameFor_cases ((h.resolved.typeName_iff _ _).1 (h.entry_typeName hentry)).2

theorem typeName_ne_empty (hentry : entry ∈ module.entries) : entry.typeName ≠ "" :=
  Registry.nameFor_ne_empty ((h.resolved.typeName_iff _ _).1 (h.entry_typeName hentry)).2

/-- A type whose name starts with no capital letter is irregular. -/
theorem irregular_of_head (hentry : entry ∈ module.entries)
    (hhead : ∀ c, entry.typeName.toList.head? = some c → c.isUpper = false) :
    entry.Irregular targets schemaPath := by
  rcases h.typeName_cases hentry with hgiven | ⟨hnone, text, hsource, hname⟩
  · exact .inl hgiven
  · refine .inr ⟨hnone, text, hsource, ?_⟩
    cases hplain : Name.startsPlainly text with
    | false => rfl
    | true =>
      obtain ⟨c, hc, hupper⟩ := Name.head_ofText hplain
      rw [hhead c (by rw [hname, hc])] at hupper
      cases hupper

/-- **What is bound in place of a builtin** extends the name of an irregular type. -/
theorem irregular_of_builtin
    {name : String} (hname : name ∈ module.boundNames) (hbuiltin : name ∈ Check.builtinNames) :
    ∃ entry ∈ module.entries, entry.Irregular targets schemaPath ∧
      Name.Extends name entry.typeName := by
  obtain ⟨entry, hentry, hcontinues | rfl | rfl⟩ := h.bound_cases hname
  · have hextends := hcontinues.extends_base
    refine ⟨entry, hentry, h.irregular_of_head hentry fun c hc => ?_, hextends⟩
    rw [← hextends.head_eq (h.typeName_ne_empty hentry)] at hc
    exact (Check.head_builtin hbuiltin hc).1
  · exact ((Check.head_builtin hbuiltin (Name.validator_head _)).2.1 rfl).elim
  · exact ((Check.head_builtin hbuiltin (Name.parser_head _)).2.2 rfl).elim

/-- Where targets give ASCII names, all names are ASCII. -/
theorem bound_isAscii
    (hascii : ∀ target ∈ targets, ∀ name, target.name = some name → Text.IsAscii name)
    {name : String} (hname : name ∈ module.boundNames) : Text.IsAscii name := by
  have htype : ∀ entry ∈ module.entries, Text.IsAscii entry.typeName := by
    intro entry hentry
    rcases h.typeName_cases hentry with hgiven | ⟨-, text, -, heq⟩
    · obtain ⟨-, target, htarget, -, hgiven⟩ := Registry.explicitName?_eq_some hgiven
      exact hascii target htarget _ hgiven
    · rw [heq]
      exact Name.ofText_isAscii text
  obtain ⟨entry, hentry, hcontinues | rfl | rfl⟩ := h.bound_cases hname
  · exact hcontinues.extends_base.isAscii (htype entry hentry)
  · exact Text.IsAscii.append (by decide) (htype entry hentry).capitalize
  · exact Text.IsAscii.append (by decide) (htype entry hentry).capitalize

end Registered

/-- **Builtins keep their meaning**, except where an irregular name leads to that of a builtin. -/
theorem builtins_kept (h : ofDocument document schemaPath targets = (.ok module, run)) :
    (∀ name ∈ module.boundNames, name ∈ Check.builtinNames →
      ∃ entry ∈ module.entries, entry.Irregular targets schemaPath ∧
        Name.Extends name entry.typeName) ∧
    ((∀ target ∈ targets, ∀ name, target.name = some name → Text.IsAscii name) →
      (∀ entry ∈ module.entries, entry.Irregular targets schemaPath →
        ∀ builtin ∈ Check.builtinNames, ¬Name.Extends builtin entry.typeName) →
      (∀ name ∈ module.boundNames, Text.normalForm name ∉ Check.builtinNames) ∧
        module.names = Check.Names.plain) := by
  obtain ⟨registry, -, hregistered, -⟩ := exists_registered h
  refine ⟨fun name => hregistered.irregular_of_builtin, fun hascii hregular => ?_⟩
  have hnormal : ∀ name ∈ module.boundNames, Text.normalForm name = name := fun name hname =>
    Text.normalForm_of_isAscii (hregistered.bound_isAscii hascii hname)
  have hnone : ∀ name ∈ module.boundNames, name ∉ Check.builtinNames := by
    intro name hname hbuiltin
    obtain ⟨entry, hentry, hirregular, hextends⟩ :=
      hregistered.irregular_of_builtin hname hbuiltin
    exact hregular entry hentry hirregular name hbuiltin hextends
  refine ⟨fun name hname => ?_, names_eq_plain_of_ne fun name hdeclared helper => ?_⟩
  · rw [hnormal name hname]
    exact hnone name hname
  · have hname : name ∈ module.boundNames := List.mem_append_left _ hdeclared
    rw [hnormal name hname]
    exact declared_ne_helper h hdeclared (hnone name hname) helper

/-- The theorem at orders, with a name that only starts as a builtin does. -/
theorem builtins_kept_orders :
    ∃ module run,
      ofDocument ordersSchema "orders.json" [⟨"#/$defs/order", some "lists"⟩] = (.ok module, run) ∧
      "lists" ∈ module.boundNames ∧
      (∀ name ∈ module.boundNames, Text.normalForm name ∉ Check.builtinNames) ∧
      module.names = Check.Names.plain := by
  have hruns : generates ordersSchema "orders.json" [⟨"#/$defs/order", some "lists"⟩]
      (fun module _ => module.boundNames.contains "lists" &&
        module.entries.map (·.typeName) == ["lists", "OrderLine"]) = true := by decide +kernel
  obtain ⟨module, run, hgenerated, htest⟩ := exists_of_generates hruns
  obtain ⟨hbound, htypes⟩ := Bool.and_eq_true_iff.1 htest
  have hregular : ∀ type ∈ ["lists", "OrderLine"], ∀ builtin ∈ Check.builtinNames,
      ¬type.toList <+: builtin.toList := by decide
  obtain ⟨hnames, hplain⟩ := (builtins_kept hgenerated).2 (by simp; decide)
    fun entry hentry _ builtin hbuiltin hextends => by
      have htype : entry.typeName ∈ ["lists", "OrderLine"] := by
        rw [← eq_of_beq htypes]
        exact List.mem_map_of_mem hentry
      exact hregular _ htype builtin hbuiltin hextends.isPrefix
  exact ⟨module, run, hgenerated, List.contains_iff_mem.1 hbound, hnames, hplain⟩

/-- Lists, beside objects that are named from a segment whose first character is dropped. -/
def disguisedSchema : Json := .object [("$defs", .object [
  ("$list", .object [("type", .string "object"), ("properties", .object [])]),
  ("a", .object [("type", .string "array")])])]

/-- Both of them. -/
def disguisedTargets : List Target := [⟨"#/$defs/a", none⟩, ⟨"#/$defs/$list", none⟩]

/-- **A derived name can be that of a builtin**: the type of objects is called `list`, and lists can
no longer be validated. -/
theorem segment_hides_list :
    ∃ module run,
      ofDocument disguisedSchema "schema.json" disguisedTargets = (.ok module, run) ∧
      "list" ∈ module.boundNames ∧ "list" ∈ Check.builtinNames ∧
      ∃ entry ∈ module.entries, entry.pointer = "#/$defs/a" ∧
        module.runValidator entry.validator.name false (.list []) =
          .error (.fault .dictTypeTest) := by
  have hruns : generatesAt disguisedSchema "schema.json" disguisedTargets "#/$defs/a"
      (fun module _ entry => decide (
        "list" ∈ module.boundNames ∧
        faultOf? (module.runValidator entry.validator.name false (.list [])) =
          some (.fault .dictTypeTest))) = true := by decide +kernel
  obtain ⟨module, run, hgenerated, entry, hentry, hpointer, hruns⟩ := exists_of_generatesAt hruns
  obtain ⟨hbound, hfault⟩ := of_decide_eq_true hruns
  exact ⟨module, run, hgenerated, hbound, by decide, entry, hentry, hpointer,
    eq_error_of_faultOf? hfault⟩

end Module

end SchemaGuard
