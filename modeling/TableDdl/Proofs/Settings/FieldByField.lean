import Mathlib.Data.List.TakeWhile
import TableDdl.Proofs.Settings.Supplied

/-!
# Settings are resolved field by field

Settings are loaded one after the other, and what comes of one does not depend on the rest. So a
setting has the value that it takes from its first source or its default, and the problems of a load
are those of the settings, each reported once.

* `get_assign`, `get_loadField`: reading one setting leaves the others as they are;
* `load_cases`: what a whole load yields, from what each setting is given;
* `sameAt_of_raw?`, `raw?_of_differOnlyAt`: a setting that is given the same has the same value or
  problem, whatever others are given;
* `databaseUrl_read_iff`: the URLs that are accepted, which are stored as they are;
* `settings_field_by_field`: all of this for what a program is given.
-/

namespace TableDdl

/-! ## One setting -/

/-- What a setting holds that is given a value, or why it is not accepted. -/
def SettingField.read (f : SettingField) (v : Value) : Except SettingIssue Value :=
  (({} : Settings).assign f v).map (·.get f)

namespace Settings

/-- **A setting holds what it was given, and the others are as they were.** -/
theorem get_assign {s t : Settings} {f : SettingField} {v : Value} (h : s.assign f v = .ok t) :
    f.read v = .ok (t.get f) ∧ ∀ g, g ≠ f → t.get g = s.get g := by
  cases f
  all_goals
    obtain ⟨x, hx, h⟩ := bind_eq_ok h
    cases h
    refine ⟨?_, ?_⟩
    · unfold SettingField.read assign
      rw [hx]
      rfl
    · intro g hg
      cases g <;> first | rfl | exact absurd rfl hg

/-- A value that is not accepted is so whatever the other settings are. -/
theorem assign_eq_error_iff {s : Settings} {f : SettingField} {v : Value} {issue : SettingIssue} :
    s.assign f v = .error issue ↔ f.read v = .error issue := by
  unfold SettingField.read
  rw [map_eq_error_iff]
  cases f
  all_goals
    unfold assign
    simp only
    rw [bind_pure_eq_error_iff, bind_pure_eq_error_iff]

end Settings

/-! ## All settings -/

namespace Sources

variable (s : Sources)

/-- The value that a setting is given, if it is accepted. -/
def value? (f : SettingField) : Option Value := (s.raw? f).bind fun v => (f.read v).toOption

/-- What is wrong with the value that a setting is given. -/
def problem? (f : SettingField) : Option SettingError :=
  (s.raw? f).bind fun v =>
    match f.read v with
    | .ok _ => none
    | .error issue => some ⟨f, issue⟩

/-- All that is wrong, in the order of the settings. -/
def problems : List SettingError := SettingField.all.filterMap s.problem?

end Sources

namespace Settings

variable {s : Sources}

/-- **Reading one setting concerns no other.** -/
theorem get_loadField (acc : Settings × List SettingError) (f g : SettingField) :
    (loadField s acc f).1.get g = if g = f then (s.value? f).getD (acc.1.get f) else acc.1.get g := by
  unfold loadField Sources.value?
  by_cases hg : g = f
  · rw [if_pos hg, hg]
    cases s.raw? f with
    | none => rfl
    | some v =>
      simp only [Option.bind_some]
      cases hassign : acc.1.assign f v with
      | ok t =>
        rw [(get_assign hassign).1]
        rfl
      | error issue =>
        rw [assign_eq_error_iff.1 hassign]
        rfl
  · rw [if_neg hg]
    cases s.raw? f with
    | none => rfl
    | some v =>
      simp only
      cases hassign : acc.1.assign f v with
      | ok t => exact (get_assign hassign).2 g hg
      | error issue => rfl

theorem problems_loadField (acc : Settings × List SettingError) (f : SettingField) :
    (loadField s acc f).2 = acc.2 ++ (s.problem? f).toList := by
  unfold loadField Sources.problem?
  cases hraw : s.raw? f with
  | none => exact (List.append_nil acc.2).symm
  | some v =>
    simp only [Option.bind_some]
    cases hassign : acc.1.assign f v with
    | ok t =>
      rw [(get_assign hassign).1]
      exact (List.append_nil acc.2).symm
    | error issue =>
      rw [assign_eq_error_iff.1 hassign]
      rfl

theorem get_foldl_loadField (fields : List SettingField) (acc : Settings × List SettingError)
    (g : SettingField) : (fields.foldl (loadField s) acc).1.get g =
      if g ∈ fields then (s.value? g).getD (acc.1.get g) else acc.1.get g := by
  induction fields generalizing acc with
  | nil => rfl
  | cons f fields ih =>
    rw [List.foldl_cons, ih, get_loadField]
    by_cases hg : g = f
    -- what is read again later is given the same value again
    · subst hg
      cases s.value? g <;> simp
    · simp [hg]

theorem problems_foldl_loadField (fields : List SettingField) (acc : Settings × List SettingError) :
    (fields.foldl (loadField s) acc).2 = acc.2 ++ fields.filterMap s.problem? := by
  induction fields generalizing acc with
  | nil => exact (List.append_nil acc.2).symm
  | cons f fields ih =>
    rw [List.foldl_cons, ih, problems_loadField, List.append_assoc, List.filterMap_cons]
    cases s.problem? f <;> rfl

/-- **What a load yields**, from what each setting is given. -/
theorem load_cases :
    (s.problems = [] ∧ ∃ t, load s = .ok t ∧
      ∀ f, t.get f = (s.value? f).getD (({} : Settings).get f)) ∨
    (s.problems ≠ [] ∧ load s = .error s.problems) := by
  have hproblems := problems_foldl_loadField (s := s) SettingField.all ({}, [])
  have hvalues := get_foldl_loadField (s := s) SettingField.all ({}, [])
  rw [List.nil_append] at hproblems
  unfold load Sources.problems
  rw [← hproblems]
  generalize SettingField.all.foldl (loadField s) ({}, []) = read at hvalues
  obtain ⟨t, problems⟩ := read
  cases problems with
  | nil =>
    refine .inl ⟨rfl, t, rfl, fun f => ?_⟩
    rw [hvalues f, if_pos (SettingField.mem_all f)]
  | cons problem rest => exact .inr ⟨List.cons_ne_nil _ _, rfl⟩

theorem get_of_load {t : Settings} (h : load s = .ok t) (f : SettingField) :
    t.get f = (s.value? f).getD (({} : Settings).get f) := by
  rcases load_cases (s := s) with ⟨-, t', ht', hvalues⟩ | ⟨-, herror⟩
  · obtain rfl : t = t' := Except.ok.inj (h.symm.trans ht')
    exact hvalues f
  · rw [herror] at h
    cases h

theorem problems_of_load {problems : List SettingError} (h : load s = .error problems) :
    s.problems = problems := by
  rcases load_cases (s := s) with ⟨-, t, ht, -⟩ | ⟨-, herror⟩
  · rw [ht] at h
    cases h
  · exact Except.error.inj (herror.symm.trans h)

theorem exists_load_iff : (∃ t, load s = .ok t) ↔ ∀ f, s.problem? f = none := by
  have hnil : s.problems = [] ↔ ∀ f, s.problem? f = none := by
    unfold Sources.problems
    rw [List.filterMap_eq_nil_iff]
    exact ⟨fun h f => h f f.mem_all, fun h f _ => h f⟩
  rw [← hnil]
  rcases load_cases (s := s) with ⟨hproblems, t, ht, -⟩ | ⟨hproblems, herror⟩
  · exact iff_of_true ⟨t, ht⟩ hproblems
  · refine iff_of_false ?_ hproblems
    rintro ⟨t, ht⟩
    rw [herror] at ht
    cases ht

/-- A problem names the setting that has it. -/
theorem field_of_problem? {f : SettingField} {e : SettingError} (h : s.problem? f = some e) :
    e.field = f := by
  obtain ⟨v, -, hv⟩ := Option.bind_eq_some_iff.1 h
  split at hv
  · cases hv
  · cases hv
    rfl

theorem mem_problems_iff {f : SettingField} {issue : SettingIssue} :
    ⟨f, issue⟩ ∈ s.problems ↔ s.problem? f = some ⟨f, issue⟩ := by
  unfold Sources.problems
  rw [List.mem_filterMap]
  constructor
  · rintro ⟨g, -, hg⟩
    obtain rfl : f = g := field_of_problem? hg
    exact hg
  · intro h
    exact ⟨f, f.mem_all, h⟩

/-- **Each setting is reported once**, in their order. -/
theorem sublist_problems (fields : List SettingField) :
    ((fields.filterMap s.problem?).map (·.field)).Sublist fields := by
  induction fields with
  | nil => exact .slnil
  | cons f fields ih =>
    cases hproblem : s.problem? f with
    | none =>
      rw [List.filterMap_cons_none hproblem]
      exact ih.cons f
    | some e =>
      rw [List.filterMap_cons_some hproblem, List.map_cons, field_of_problem? hproblem]
      exact ih.cons_cons f

/-- A load reports a problem of the setting. -/
def Reports (result : Except (List SettingError) Settings) (f : SettingField)
    (issue : SettingIssue) : Prop :=
  ∃ problems, result = .error problems ∧ ⟨f, issue⟩ ∈ problems

theorem reports_load_iff {f : SettingField} {issue : SettingIssue} :
    Reports (load s) f issue ↔ s.problem? f = some ⟨f, issue⟩ := by
  rw [← mem_problems_iff]
  constructor
  · rintro ⟨problems, hload, hmem⟩
    rwa [problems_of_load hload]
  · intro hmem
    rcases load_cases (s := s) with ⟨hnil, -⟩ | ⟨-, herror⟩
    · rw [hnil] at hmem
      cases hmem
    · exact ⟨_, herror, hmem⟩

/-! ## Settings that are given the same -/

/-- Two loads have the same value of a setting, and the same problem with it. -/
structure SameAt (f : SettingField) (first second : Except (List SettingError) Settings) : Prop where
  value : ∀ {a b : Settings}, first = .ok a → second = .ok b → a.get f = b.get f
  problem : ∀ issue : SettingIssue, Reports first f issue ↔ Reports second f issue

theorem sameAt_of_raw? {t : Sources} {f : SettingField} (h : s.raw? f = t.raw? f) :
    SameAt f (load s) (load t) where
  value := by
    intro a b ha hb
    rw [get_of_load ha, get_of_load hb, Sources.value?, Sources.value?, h]
  problem := by
    intro issue
    rw [reports_load_iff, reports_load_iff, Sources.problem?, Sources.problem?, h]

theorem load_congr {t : Sources} (h : ∀ f, s.raw? f = t.raw? f) : load s = load t := by
  have hfield : loadField s = loadField t := by
    funext acc f
    unfold loadField
    rw [h f]
  unfold load
  rw [hfield]

end Settings

namespace Sources

variable {s t : Sources} {f : SettingField}

/-- The sources are the same but for arguments with some names, and variables and entries with some
names. -/
structure DifferOnlyAt (s t : Sources) (argument held : String → Prop) : Prop where
  arguments : ∀ {name : String} {v : Value}, ¬argument name →
    ((name, v) ∈ s.arguments ↔ (name, v) ∈ t.arguments)
  environment : ∀ {name text : String}, ¬held name →
    ((name, text) ∈ s.environment ↔ (name, text) ∈ t.environment)
  entries : ∀ {name : String} {text : Option String}, ¬held name →
    ((name, text) ∈ s.entries ↔ (name, text) ∈ t.entries)

theorem DifferOnlyAt.symm {argument held : String → Prop} (h : s.DifferOnlyAt t argument held) :
    t.DifferOnlyAt s argument held where
  arguments hname := (h.arguments hname).symm
  environment hname := (h.environment hname).symm
  entries hname := (h.entries hname).symm

/-- **A setting takes what it took**, as long as nothing that is for it has changed. -/
theorem Takes.of_differOnlyAt {argument held : String → Prop} {v : Value} (htakes : s.Takes f v)
    (h : s.DifferOnlyAt t argument held) (hargument : ∀ name, f.Named name → ¬argument name)
    (hheld : ∀ name, f.Prefixed name → ¬held name) : t.Takes f v := by
  have harguments : t.HasArgument f → s.HasArgument f := by
    rintro ⟨⟨name, w⟩, hmem, hname⟩
    exact ⟨_, (h.arguments (hargument name hname)).2 hmem, hname⟩
  have hvariables : t.HasVariable f → s.HasVariable f := by
    rintro ⟨⟨name, text⟩, hmem, hname⟩
    exact ⟨_, (h.environment (hheld name hname)).2 hmem, hname⟩
  cases htakes with
  | ofArguments hmem hname => exact .ofArguments ((h.arguments (hargument _ hname)).1 hmem) hname
  | ofEnvironment harg hmem hname =>
    exact .ofEnvironment (mt harguments harg) ((h.environment (hheld _ hname)).1 hmem) hname
  | ofEntries harg hvar hmem hname =>
    exact .ofEntries (mt harguments harg) (mt hvariables hvar)
      ((h.entries (hheld _ hname)).1 hmem) hname

theorem raw?_of_differOnlyAt {argument held : String → Prop} (hs : s.IsPlain) (ht : t.IsPlain)
    (hsone : s.OnePerField) (htone : t.OnePerField) (h : s.DifferOnlyAt t argument held)
    (hargument : ∀ name, f.Named name → ¬argument name)
    (hheld : ∀ name, f.Prefixed name → ¬held name) : s.raw? f = t.raw? f := by
  ext v
  rw [raw?_eq_some_iff hs hsone, raw?_eq_some_iff ht htone]
  constructor
  · intro htakes
    exact htakes.of_differOnlyAt h hargument hheld
  · intro htakes
    exact htakes.of_differOnlyAt h.symm hargument hheld

end Sources

/-! ## URLs -/

/-- A text in two parts, of which the first ends before the first colon or plus sign. -/
structure IsUrlSplit (url : String) (name rest : List Char) : Prop where
  split : url.toList = name ++ rest
  name : ∀ c ∈ name, c ≠ '+' ∧ c ≠ ':'
  rest : ∀ c ∈ rest.head?, c = ':' ∨ c = '+'

/-- Every text splits so. -/
theorem exists_isUrlSplit (url : String) : ∃ name rest, IsUrlSplit url name rest := by
  let isNameChar : Char → Bool := fun c => c != '+' && c != ':'
  refine ⟨url.toList.takeWhile isNameChar, url.toList.dropWhile isNameChar,
    List.takeWhile_append_dropWhile.symm, ?_, ?_⟩
  · intro c hc
    simpa [isNameChar] using List.mem_takeWhile_imp hc
  · intro c hc
    have hstop := List.head?_dropWhile_not isNameChar url.toList
    rw [hc] at hstop
    simp only [isNameChar, Bool.and_eq_false_iff, bne_eq_false_iff_eq] at hstop
    exact hstop.symm

/-- **The first part is the name of the engine**, whatever its case. -/
theorem IsUrlSplit.urlScheme_eq {url : String} {name rest : List Char}
    (h : IsUrlSplit url name rest) : urlScheme url = Unicode.lower (String.ofList name) := by
  have hkept : ∀ c ∈ name, decide ((c != '+') = true ∧ (c != ':') = true) = true := by
    intro c hc
    simpa using h.name c hc
  have hstop : rest.takeWhile (fun c => decide ((c != '+') = true ∧ (c != ':') = true)) = [] := by
    cases rest with
    | nil => rfl
    | cons c rest =>
      rw [List.takeWhile_cons_of_neg]
      rcases h.rest c rfl with rfl | rfl <;> decide
  unfold urlScheme
  simp only
  rw [h.split, List.takeWhile_takeWhile, List.takeWhile_append_of_pos hkept, hstop, List.append_nil]

/-- The name of the engine in a URL is a supported one. -/
def IsSupportedUrl (url : String) : Prop :=
  ∃ name rest, IsUrlSplit url name rest ∧
    Unicode.lower (String.ofList name) ∈ ["sqlite", "postgresql", "mysql", "mariadb"]

theorem urlScheme_mem_iff {url : String} :
    urlScheme url ∈ supportedSchemes ↔ IsSupportedUrl url := by
  constructor
  · intro h
    obtain ⟨name, rest, hsplit⟩ := exists_isUrlSplit url
    rw [hsplit.urlScheme_eq] at h
    exact ⟨name, rest, hsplit, h⟩
  · rintro ⟨name, rest, hsplit, h⟩
    rw [hsplit.urlScheme_eq]
    exact h

/-- **The URLs that are accepted.** They are stored as they are. -/
theorem databaseUrl_read_iff {v x : Value} : SettingField.databaseUrl.read v = .ok x ↔
    ∃ url, textSetting v = .ok url ∧ IsSupportedUrl url ∧ x = .str url := by
  have hread : SettingField.databaseUrl.read v = (urlSetting v).map .str := by
    show ((urlSetting v >>= fun url => pure _).map _ : Except SettingIssue Value) = _
    cases urlSetting v <;> rfl
  rw [hread]
  constructor
  · intro h
    obtain ⟨url, hurl, h⟩ := bind_eq_ok h
    cases h
    obtain ⟨htext, hscheme⟩ := urlSetting_eq_ok_iff.1 hurl
    exact ⟨url, htext, urlScheme_mem_iff.1 hscheme, rfl⟩
  · rintro ⟨url, htext, hsupported, rfl⟩
    rw [urlSetting_eq_ok_iff.2 ⟨htext, urlScheme_mem_iff.2 hsupported⟩]
    rfl

/-! ## What a program is given -/

open Settings

namespace Sources

/-- **Loading the sources is a matter of each setting on its own.** The entries of the file are those
that it is read as, in which `${NAME}` has been replaced, also by values of other names. So `others`
and `unknown` compare the entries after that. -/
structure FieldByField (s : Sources) : Prop where
  accepted : (∃ t, load s = .ok t) ↔ ∀ f v, s.Takes f v → ∃ x, f.read v = .ok x
  taken : ∀ {t : Settings} {f : SettingField} {v : Value}, load s = .ok t → s.Takes f v →
    f.read v = .ok (t.get f)
  default : ∀ {t : Settings} {f : SettingField}, load s = .ok t → (∀ v, ¬s.Takes f v) →
    t.get f = ({} : Settings).get f
  ordered : ∀ {problems : List SettingError}, load s = .error problems →
    (problems.map (·.field)).Sublist SettingField.all
  reported : ∀ {problems : List SettingError}, load s = .error problems →
    ∀ f issue, ⟨f, issue⟩ ∈ problems ↔ ∃ v, s.Takes f v ∧ f.read v = .error issue
  others : ∀ {t : Sources} {f g : SettingField}, t.IsPlain → t.OnePerField →
    s.DifferOnlyAt t f.Named f.Prefixed → g ≠ f → SameAt g (load s) (load t)
  unknown : ∀ {t : Sources}, t.IsPlain → t.OnePerField →
    s.DifferOnlyAt t (fun name => ∀ f : SettingField, ¬f.Named name)
      (fun name => ∀ f : SettingField, ¬f.Prefixed name) → load s = load t
  url : ∀ {v x : Value}, SettingField.databaseUrl.read v = .ok x ↔
    ∃ url, textSetting v = .ok url ∧ IsSupportedUrl url ∧ x = .str url

variable {s : Sources} {f : SettingField}

theorem problem?_eq_some_iff (hplain : s.IsPlain) (h : s.OnePerField) {issue : SettingIssue} :
    s.problem? f = some ⟨f, issue⟩ ↔ ∃ v, s.Takes f v ∧ f.read v = .error issue := by
  unfold problem?
  rw [Option.bind_eq_some_iff]
  constructor
  · rintro ⟨v, hraw, hv⟩
    split at hv
    · cases hv
    · rename_i hread
      cases hv
      exact ⟨v, (raw?_eq_some_iff hplain h).1 hraw, hread⟩
  · rintro ⟨v, htakes, hread⟩
    refine ⟨v, (raw?_eq_some_iff hplain h).2 htakes, ?_⟩
    rw [hread]

theorem exists_load_iff_read (hplain : s.IsPlain) (h : s.OnePerField) :
    (∃ t, load s = .ok t) ↔ ∀ f v, s.Takes f v → ∃ x, f.read v = .ok x := by
  rw [exists_load_iff]
  constructor
  · intro hnone f v htakes
    cases hread : f.read v with
    | ok x => exact ⟨x, rfl⟩
    | error issue =>
      have hproblem := (problem?_eq_some_iff hplain h).2 ⟨v, htakes, hread⟩
      rw [hnone f] at hproblem
      cases hproblem
  · intro hall f
    rw [Option.eq_none_iff_forall_ne_some]
    rintro ⟨g, issue⟩ hproblem
    obtain rfl : g = f := field_of_problem? hproblem
    obtain ⟨v, htakes, herror⟩ := (problem?_eq_some_iff hplain h).1 hproblem
    obtain ⟨x, hx⟩ := hall g v htakes
    rw [hx] at herror
    cases herror

theorem fieldByField (hplain : s.IsPlain) (h : s.OnePerField) : s.FieldByField where
  accepted := exists_load_iff_read hplain h
  taken := by
    intro t f v hload htakes
    have hraw : s.raw? f = some v := (raw?_eq_some_iff hplain h).2 htakes
    obtain ⟨x, hx⟩ := (exists_load_iff_read hplain h).1 ⟨t, hload⟩ f v htakes
    rw [get_of_load hload, value?, hraw, Option.bind_some, hx]
    rfl
  default := by
    intro t f hload hnone
    have hraw : s.raw? f = none := by
      rw [Option.eq_none_iff_forall_ne_some]
      intro v hv
      exact hnone v ((raw?_eq_some_iff hplain h).1 hv)
    rw [get_of_load hload, value?, hraw]
    rfl
  ordered := by
    intro problems hload
    rw [← problems_of_load hload]
    exact sublist_problems SettingField.all
  reported := by
    intro problems hload f issue
    rw [← problems_of_load hload, mem_problems_iff, problem?_eq_some_iff hplain h]
  others := by
    intro t f g ht htone hdiffer hg
    refine sameAt_of_raw? (raw?_of_differOnlyAt hplain ht h htone hdiffer ?_ ?_)
    · intro name hgname hfname
      exact hg (hgname.unique hfname)
    · intro name hgname hfname
      exact hg (hgname.unique hfname)
  unknown := by
    intro t ht htone hdiffer
    refine load_congr fun f => raw?_of_differOnlyAt hplain ht h htone hdiffer ?_ ?_
    · intro name hname hunknown
      exact hunknown f hname
    · intro name hname hunknown
      exact hunknown f hname
  url := databaseUrl_read_iff

end Sources

/-- **Settings are resolved field by field**, from whatever a program is given. -/
theorem settings_field_by_field {input : SettingsInput} (hunsteered : input.Unsteered)
    (hvariables : ∀ v ∈ input.environment, checkVariable v = .ok ())
    (hone : input.given.OnePerField) :
    input.sources = .ok input.given ∧ input.given.FieldByField :=
  ⟨hunsteered.sources_eq hvariables, Sources.fieldByField ⟨rfl, rfl⟩ hone⟩

/-- What an argument shadows is not looked at, so it may be of any kind. -/
theorem settings_field_by_field_shadowed :
    let input : SettingsInput := {
      arguments := [("db_echo", .bool true)]
      environment := [("TABLEGEN_DB_ECHO", "perhaps")]
      file := some "TABLEGEN_LOG_LEVEL=DEBUG" }
    input.sources = .ok input.given ∧ input.given.FieldByField ∧
    (load input.given).toOption = some { dbEcho := true, logLevel := .debug } := by
  intro input
  have hentries : input.given.entries = [("TABLEGEN_LOG_LEVEL", some "DEBUG")] := by
    decide +kernel
  have hunsteered : input.Unsteered := by
    intro a ha
    obtain rfl := List.mem_singleton.1 ha
    decide
  have hvariables : ∀ v ∈ input.environment, checkVariable v = .ok () := by
    intro v hv
    obtain rfl := List.mem_singleton.1 hv
    simp [checkVariable]
  have hone : input.given.OnePerField := by
    refine ⟨?_, ?_, ?_⟩
    · intro f a ha b hb _ _
      rw [List.mem_singleton.1 ha, List.mem_singleton.1 hb]
    · intro f v hv w hw _ _
      rw [List.mem_singleton.1 hv, List.mem_singleton.1 hw]
    · intro f v hv w hw _ _
      rw [hentries] at hv hw
      rw [List.mem_singleton.1 hv, List.mem_singleton.1 hw]
  obtain ⟨hsources, hfields⟩ := settings_field_by_field hunsteered hvariables hone
  refine ⟨hsources, hfields, ?_⟩
  decide +kernel

/-- **An argument can count although no setting has its name.** In capitals it is for the setting all
the same, and comes before the very name if it is given first. Or it is for the reading of settings:
with this one, the case of a variable matters. -/
theorem unnamed_argument_counts :
    let echo : SettingsInput := { arguments := [("db_echo", .bool true)] }
    let capitals : SettingsInput := { arguments := ("DB_ECHO", .bool false) :: echo.arguments }
    let named : SettingsInput := { environment := [("TABLEGEN_APP_NAME", "x")] }
    let steered : SettingsInput := { named with arguments := [("_case_sensitive", .bool true)] }
    (∀ f : SettingField, f.name ≠ "DB_ECHO" ∧ f.name ≠ "_case_sensitive") ∧
    (∃ s, echo.sources = .ok s ∧ (load s).toOption = some { dbEcho := true }) ∧
    (∃ s, capitals.sources = .ok s ∧ (load s).toOption = some { dbEcho := false }) ∧
    (∃ s, named.sources = .ok s ∧ (load s).toOption = some { appName := "x" }) ∧
    ∃ s, steered.sources = .ok s ∧ (load s).toOption = some { appName := "tablegen" } := by
  intro echo capitals named steered
  have hvariables : ∀ v ∈ named.environment, checkVariable v = .ok () := by
    intro v hv
    obtain rfl := List.mem_singleton.1 hv
    simp [checkVariable]
  have hsteered : steered.sources = .ok { steered.given with rule := { caseSensitive := true } } := by
    unfold SettingsInput.sources
    rw [SettingsInput.forM_checkVariable hvariables]
    rfl
  refine ⟨?_, ⟨_, rfl, ?_⟩, ⟨_, rfl, ?_⟩, ⟨_, SettingsInput.Unsteered.sources_eq nofun hvariables, ?_⟩,
    ⟨_, hsteered, ?_⟩⟩
  · intro f
    cases f <;> decide
  · decide +kernel
  · decide +kernel
  · decide +kernel
  · decide +kernel

end TableDdl
