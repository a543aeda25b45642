import TableDdl.Proofs.Result
import TableDdl.Settings.Input.Sources

/-!
# What settings are given

A program gives settings by three lists: its arguments, the variables of its environment, and the
entries of its environment file. As long as no argument says how these are read
(`SettingsInput.Unsteered`), what is given is the source (`SettingsInput.sources_eq`): an argument is
for the setting whose name it has, a variable or an entry for the one whose name it has after the
prefix, and case does not matter.

`Sources.Takes` says which value a setting takes, by what is among what was given. `raw?_eq_some_iff`
says that this is what the search through the sources finds, if no source has two values for a
setting.
-/

namespace TableDdl

/-! ## Plain input -/

namespace SettingsInput

/-- The arguments that are for no setting, and say how settings are read. -/
def steering : List String :=
  ["_env_prefix", "_env_prefix_target", "_case_sensitive", "_env_ignore_empty",
    "_env_parse_none_str", "_env_nested_max_split", "_env_file", "_env_file_encoding",
    "_secrets_dir", "_cli_parse_args"]

def Unsteered (input : SettingsInput) : Prop := ∀ a ∈ input.arguments, a.1 ∉ steering

/-- The sources that there are if nothing says otherwise. -/
def given (input : SettingsInput) : Sources where
  arguments := input.arguments
  environment := input.environment
  entries := (input.file.map (EnvFile.entries input.environment)).getD []

variable {input : SettingsInput}

theorem Unsteered.lookup (h : input.Unsteered) {name : String} (hname : name ∈ steering) :
    input.arguments.lookup name = none := by
  rw [List.lookup_eq_none_iff]
  intro a ha
  have hne : name ≠ a.1 := by
    rintro rfl
    exact h a ha hname
  simpa using hne

theorem Unsteered.argument? (h : input.Unsteered) {name : String} (hname : name ∈ steering) :
    input.argument? name = none := by
  rw [SettingsInput.argument?, h.lookup hname, Option.filter_none]

theorem Unsteered.set? (h : input.Unsteered) {name : String} (hname : name ∈ steering) :
    input.set? name = none := by
  rw [SettingsInput.set?, h.argument? hname, Option.filter_none]

theorem Unsteered.entries (h : input.Unsteered) : input.entries = .ok input.given.entries := by
  have hread : input.readsFile = .ok true := by
    rw [readsFile, h.lookup (by decide)]
  have hdecode (text : String) : input.decodeFile text = .ok text := by
    rw [decodeFile, h.set? (by decide)]
  unfold SettingsInput.entries given
  rw [hread]
  cases input.file with
  | none => rfl
  | some text =>
    show (input.decodeFile text >>= fun text => pure (EnvFile.entries input.environment text)) = _
    rw [hdecode]
    rfl

theorem Unsteered.variableRule (h : input.Unsteered) :
    input.prefixesVariables = true ∧ input.hasFlag "_case_sensitive" = false ∧
      input.hasFlag "_env_ignore_empty" = false ∧ input.noneText? = none := by
  refine ⟨?_, ?_, ?_, ?_⟩
  · rw [prefixesVariables, h.argument? (by decide)]
  · rw [hasFlag, h.set? (by decide), Option.isSome_none]
  · rw [hasFlag, h.set? (by decide), Option.isSome_none]
  · rw [noneText?, h.argument? (by decide), Option.bind_none, Option.map_none]

/-- Nothing else is asked for that could fail. -/
theorem Unsteered.checks (h : input.Unsteered) :
    input.checkSplits = .ok () ∧ input.options = .ok [] ∧ input.checkSecrets = .ok () := by
  refine ⟨?_, ?_, ?_⟩
  · rw [checkSplits, h.set? (by decide)]
  · rw [options, h.argument? (by decide)]
    rfl
  · rw [checkSecrets, h.argument? (by decide)]
    show (if (input.file.isSome && false) = true then _ else _) = _
    rw [Bool.and_false]
    rfl

theorem forM_checkVariable {held : List (String × String)}
    (h : ∀ v ∈ held, checkVariable v = .ok ()) : held.forM checkVariable = .ok () := by
  induction held with
  | nil => rfl
  | cons v vs ih =>
    show (checkVariable v >>= fun _ => vs.forM checkVariable) = _
    rw [h v List.mem_cons_self]
    exact ih fun w hw => h w (List.mem_cons_of_mem v hw)

/-- **What is given is the source**, whatever it is. -/
theorem Unsteered.sources_eq (h : input.Unsteered)
    (hvariables : ∀ v ∈ input.environment, checkVariable v = .ok ()) :
    input.sources = .ok input.given := by
  obtain ⟨htarget, hcase, hempty, hnone⟩ := h.variableRule
  obtain ⟨hsplits, hoptions, hsecrets⟩ := h.checks
  have hbefore : input.argument? "_env_prefix" = none := h.argument? (by decide)
  unfold sources
  rw [forM_checkVariable hvariables, hsplits, h.entries, hoptions, hsecrets, hbefore, htarget, hcase,
    hempty, hnone]
  rfl

end SettingsInput

/-! ## What a setting takes -/

namespace SettingField

/-- An argument of this name is for the setting. -/
def Named (f : SettingField) (name : String) : Prop := Unicode.lower name = f.name

/-- A variable or an entry of this name is for the setting. -/
def Prefixed (f : SettingField) (name : String) : Prop := Unicode.lower name = "tablegen_" ++ f.name

theorem name_injective {f g : SettingField} (h : f.name = g.name) : f = g := by
  cases f <;> cases g <;> first | rfl | exact absurd h (by decide)

theorem Named.unique {f g : SettingField} {name : String} (hf : f.Named name) (hg : g.Named name) :
    f = g := name_injective (hf.symm.trans hg)

theorem Prefixed.unique {f g : SettingField} {name : String} (hf : f.Prefixed name)
    (hg : g.Prefixed name) : f = g := by
  have heq : "tablegen_" ++ f.name = "tablegen_" ++ g.name := hf.symm.trans hg
  exact name_injective (String.append_right_inj _ |>.1 heq)

theorem names_iff {f : SettingField} {name : String} :
    ({} : VariableRule).names f name = true ↔ f.Prefixed name := by
  have hbefore : Unicode.lower ("TABLEGEN_" ++ f.name) = "tablegen_" ++ f.name := by
    cases f <;> decide +kernel
  show (Unicode.lower name == Unicode.lower ("TABLEGEN_" ++ f.name)) = true ↔ _
  rw [hbefore, beq_iff_eq]
  rfl

end SettingField

namespace Sources

/-- Sources that are read without anything said about how. -/
structure IsPlain (s : Sources) : Prop where
  rule : s.rule = {}
  entryPrefix : s.entryPrefix = none

def HasArgument (s : Sources) (f : SettingField) : Prop := ∃ a ∈ s.arguments, f.Named a.1

def HasVariable (s : Sources) (f : SettingField) : Prop := ∃ v ∈ s.environment, f.Prefixed v.1

/-- **The value that a setting takes**: that of the first source that has one. -/
inductive Takes (s : Sources) (f : SettingField) : Value → Prop where
  | ofArguments {name : String} {v : Value} (h : (name, v) ∈ s.arguments) (hname : f.Named name) :
      Takes s f v
  | ofEnvironment {name text : String} (harg : ¬s.HasArgument f) (h : (name, text) ∈ s.environment)
      (hname : f.Prefixed name) : Takes s f (.str text)
  | ofEntries {name text : String} (harg : ¬s.HasArgument f) (hvar : ¬s.HasVariable f)
      (h : (name, some text) ∈ s.entries) (hname : f.Prefixed name) : Takes s f (.str text)

/-- No source has two values for a setting. -/
structure OnePerField (s : Sources) : Prop where
  arguments : ∀ {f : SettingField}, ∀ a ∈ s.arguments, ∀ b ∈ s.arguments,
    f.Named a.1 → f.Named b.1 → a = b
  environment : ∀ {f : SettingField}, ∀ v ∈ s.environment, ∀ w ∈ s.environment,
    f.Prefixed v.1 → f.Prefixed w.1 → v = w
  entries : ∀ {f : SettingField}, ∀ v ∈ s.entries, ∀ w ∈ s.entries,
    f.Prefixed v.1 → f.Prefixed w.1 → v = w

variable {s : Sources} {f : SettingField}

/-- The search through the arguments. -/
theorem find?_argument_eq_some_iff (h : s.OnePerField) {v : Value} :
    (s.arguments.find? fun a => Unicode.lower a.1 == f.name).map Prod.snd = some v ↔
      ∃ name, (name, v) ∈ s.arguments ∧ f.Named name := by
  have hnamed {a : String × Value}
      (ha : s.arguments.find? (fun a => Unicode.lower a.1 == f.name) = some a) : f.Named a.1 := by
    have hbeq := List.find?_some ha
    rwa [beq_iff_eq] at hbeq
  rw [Option.map_eq_some_iff]
  constructor
  · rintro ⟨a, ha, rfl⟩
    exact ⟨a.1, List.mem_of_find?_eq_some ha, hnamed ha⟩
  · rintro ⟨name, hmem, hname⟩
    have hsome : (s.arguments.find? fun a => Unicode.lower a.1 == f.name).isSome := by
      rw [List.find?_isSome]
      exact ⟨_, hmem, beq_iff_eq.2 hname⟩
    obtain ⟨a, ha⟩ := Option.isSome_iff_exists.1 hsome
    obtain rfl := h.arguments a (List.mem_of_find?_eq_some ha) _ hmem (hnamed ha) hname
    exact ⟨_, ha, rfl⟩

theorem find?_argument_eq_none_iff :
    (s.arguments.find? fun a => Unicode.lower a.1 == f.name).map Prod.snd = none ↔
      ¬s.HasArgument f := by
  rw [Option.map_eq_none_iff, List.find?_eq_none]
  simp [HasArgument, SettingField.Named]

/-- The search through variables or entries. -/
theorem find?_variable_eq_some_iff {held : List (String × Option String)}
    (h : ∀ v ∈ held, ∀ w ∈ held, f.Prefixed v.1 → f.Prefixed w.1 → v = w) {v : Value} :
    ({} : VariableRule).find? f held = some v ↔
      ∃ name text, (name, some text) ∈ held ∧ f.Prefixed name ∧ v = .str text := by
  have hcounts (w : String × Option String) :
      (({} : VariableRule).names f w.1 && !(false && w.2 == some "")) = true ↔ f.Prefixed w.1 := by
    rw [Bool.false_and, Bool.not_false, Bool.and_true]
    exact SettingField.names_iff
  have hfind : ({} : VariableRule).find? f held =
      (((held.filter fun w => ({} : VariableRule).names f w.1 &&
        !(false && w.2 == some "")).getLast?).bind Prod.snd).map Value.str := rfl
  rw [hfind]
  constructor
  · intro hv
    obtain ⟨text, htext, rfl⟩ := Option.map_eq_some_iff.1 hv
    obtain ⟨⟨name, held?⟩, hlast, rfl⟩ := Option.bind_eq_some_iff.1 htext
    obtain ⟨hmem, hnamed⟩ := List.mem_filter.1 (List.mem_of_getLast? hlast)
    exact ⟨name, text, hmem, (hcounts _).1 hnamed, rfl⟩
  · rintro ⟨name, text, hmem, hname, rfl⟩
    have hfiltered : (name, some text) ∈ held.filter fun w =>
        ({} : VariableRule).names f w.1 && !(false && w.2 == some "") :=
      List.mem_filter.2 ⟨hmem, (hcounts _).2 hname⟩
    obtain ⟨w, hw⟩ := Option.isSome_iff_exists.1
      (List.getLast?_isSome.2 (List.ne_nil_of_mem hfiltered))
    obtain ⟨hwmem, hwnamed⟩ := List.mem_filter.1 (List.mem_of_getLast? hw)
    obtain rfl := h w hwmem _ hmem ((hcounts w).1 hwnamed) hname
    rw [hw]
    rfl

theorem find?_environment_eq_some_iff (h : s.OnePerField) {v : Value} :
    ({} : VariableRule).find? f (s.environment.map fun v => (v.1, some v.2)) = some v ↔
      ∃ name text, (name, text) ∈ s.environment ∧ f.Prefixed name ∧ v = .str text := by
  have hone : ∀ v ∈ s.environment.map (fun v => (v.1, some v.2)),
      ∀ w ∈ s.environment.map (fun v => (v.1, some v.2)),
      f.Prefixed v.1 → f.Prefixed w.1 → v = w := by
    intro v hv w hw hvname hwname
    obtain ⟨v, hvmem, rfl⟩ := List.mem_map.1 hv
    obtain ⟨w, hwmem, rfl⟩ := List.mem_map.1 hw
    rw [h.environment v hvmem w hwmem hvname hwname]
  rw [find?_variable_eq_some_iff hone]
  constructor
  · rintro ⟨name, text, hmem, hname, rfl⟩
    obtain ⟨⟨name, text⟩, hgiven, heq⟩ := List.mem_map.1 hmem
    cases heq
    exact ⟨name, text, hgiven, hname, rfl⟩
  · rintro ⟨name, text, hmem, hname, rfl⟩
    exact ⟨name, text, List.mem_map.2 ⟨_, hmem, rfl⟩, hname, rfl⟩

theorem find?_environment_eq_none_iff (h : s.OnePerField) :
    ({} : VariableRule).find? f (s.environment.map fun v => (v.1, some v.2)) = none ↔
      ¬s.HasVariable f := by
  rw [Option.eq_none_iff_forall_ne_some]
  constructor
  · rintro hnone ⟨v, hv, hname⟩
    exact hnone _ ((find?_environment_eq_some_iff h).2 ⟨v.1, v.2, hv, hname, rfl⟩)
  · intro hnot v hv
    obtain ⟨name, text, hmem, hname, -⟩ := (find?_environment_eq_some_iff h).1 hv
    exact hnot ⟨_, hmem, hname⟩

/-- **The search finds what the setting takes.** -/
theorem raw?_eq_some_iff (hplain : s.IsPlain) (h : s.OnePerField) {v : Value} :
    s.raw? f = some v ↔ s.Takes f v := by
  unfold raw?
  rw [hplain.rule, hplain.entryPrefix, Option.bind_none]
  simp only [Option.orElse_eq_orElse, Option.orElse_eq_or, Option.none_or,
    Option.or_eq_some_iff, find?_argument_eq_some_iff h, find?_argument_eq_none_iff,
    find?_environment_eq_some_iff h, find?_environment_eq_none_iff h,
    find?_variable_eq_some_iff h.entries]
  constructor
  · rintro (⟨name, hmem, hname⟩ | ⟨harg, ⟨name, text, hmem, hname, rfl⟩ |
      ⟨hvar, name, text, hmem, hname, rfl⟩⟩)
    · exact .ofArguments hmem hname
    · exact .ofEnvironment harg hmem hname
    · exact .ofEntries harg hvar hmem hname
  · intro htakes
    cases htakes with
    | ofArguments hmem hname => exact .inl ⟨_, hmem, hname⟩
    | ofEnvironment harg hmem hname => exact .inr ⟨harg, .inl ⟨_, _, hmem, hname, rfl⟩⟩
    | ofEntries harg hvar hmem hname =>
      exact .inr ⟨harg, .inr ⟨hvar, _, _, hmem, hname, rfl⟩⟩

end Sources

end TableDdl
