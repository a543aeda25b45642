import Mathlib.Data.List.TakeWhile
import TableDdl.Database
import TableDdl.Proofs.Result
import TableDdl.Settings.Source

/-!
# The engine that a URL names

A database URL is read three times: settings look at its scheme before they accept it, an engine is
made from all of it, and an executor looks up the name of its engine. Each reading is written on its
own. Here they agree.

* `load_supported`: settings that load have a URL whose scheme is supported.
* `Dialect.isSome_ofEngine?`: the supported schemes are the names that stand for a dialect.
* `Url.scheme?_eq_some_iff`: a scheme is found in a text that begins with it and `://`.
* `Engine.namedByUrl_ofUrl`: an engine goes by the name in its URL, as the URL spells it.
* `Dialect.ofName_engineName`: that name stands for the dialect of the scheme, whatever its case.
-/

namespace TableDdl

/-- The engine that a URL names, in the spelling of the URL. -/
def engineName (url : String) : String :=
  String.ofList ((url.toList.takeWhile (· != ':')).takeWhile (· != '+'))

theorem urlScheme_eq (url : String) : urlScheme url = Unicode.lower (engineName url) := rfl

/-! ## Settings that load -/

namespace Settings

/-- The URL of the settings passes the check of URLs. -/
def Supported (s : Settings) : Prop := urlScheme s.databaseUrl ∈ supportedSchemes

theorem supported_default : Supported {} := by
  show urlScheme _ ∈ supportedSchemes
  decide +kernel

/-- Only a URL that passes replaces the URL. -/
theorem Supported.assign {s t : Settings} {f : SettingField} {v : Value} (hs : s.Supported)
    (h : s.assign f v = .ok t) : t.Supported := by
  cases f
  case databaseUrl =>
    obtain ⟨url, hurl, h⟩ := bind_eq_ok h
    cases h
    exact (urlSetting_eq_ok_iff.1 hurl).2
  all_goals
    obtain ⟨_, -, h⟩ := bind_eq_ok h
    cases h
    exact hs

theorem Supported.loadField {sources : Sources} {acc : Settings × List SettingError}
    (h : acc.1.Supported) (f : SettingField) : (loadField sources acc f).1.Supported := by
  unfold Settings.loadField
  split
  · exact h
  · split
    next hassign => exact h.assign hassign
    · exact h

theorem Supported.foldl {sources : Sources} (fields : List SettingField)
    {acc : Settings × List SettingError} (h : acc.1.Supported) :
    (fields.foldl (Settings.loadField sources) acc).1.Supported := by
  induction fields generalizing acc with
  | nil => exact h
  | cons f fields ih => exact ih (h.loadField f)

/-- **Settings that load name a supported engine.** -/
theorem load_supported {sources : Sources} {settings : Settings}
    (h : Settings.load sources = .ok settings) : settings.Supported := by
  have hfold : (SettingField.all.foldl (loadField sources) ({}, [])).1.Supported :=
    Supported.foldl SettingField.all supported_default
  unfold load at h
  split at h
  next s heq =>
    cases h
    rwa [heq] at hfold
  · cases h

end Settings

/-! ## Schemes and dialects -/

namespace Dialect

/-- **What the check of URLs admits and what has a dialect is the same.** -/
theorem isSome_ofEngine? (name : String) : (ofEngine? name).isSome ↔ name ∈ supportedSchemes := by
  constructor
  · intro h
    obtain ⟨d, hd⟩ := Option.isSome_iff_exists.1 h
    unfold ofEngine? at hd
    split at hd
    case isTrue hmariadb =>
      rw [hmariadb]
      decide
    case isFalse =>
      have hname : d.name = name := by simpa using List.find?_some hd
      rw [← hname]
      cases d <;> decide
  · intro h
    simp only [supportedSchemes, List.mem_cons, List.not_mem_nil, or_false] at h
    rcases h with rfl | rfl | rfl | rfl <;> decide

/-- **The name in a URL stands for the dialect of its scheme.** -/
theorem ofName_engineName {url : String} {d : Dialect} (h : ofEngine? (urlScheme url) = some d) :
    ofName (.str (engineName url)) = .ok d := by
  rw [urlScheme_eq] at h
  show ofName (Text.plain (engineName url)).toValue = .ok d
  rw [ofName, Value.display?_toValue]
  simp only [Text.display, h]

end Dialect

/-! ## The name of an engine -/

namespace Url

/-- What a scheme is made of. -/
def isSchemeChar (c : Char) : Bool := Unicode.isWord c || c == '+'

/-- **A scheme is found in a text that begins with it and goes on with `://`.** -/
theorem scheme?_eq_some_iff {cs scheme rest : List Char} :
    scheme? cs = some (scheme, rest) ↔
      cs = scheme ++ ':' :: '/' :: '/' :: rest ∧ scheme ≠ [] ∧ ∀ c ∈ scheme, isSchemeChar c := by
  unfold scheme?
  simp only
  constructor
  · intro h
    split at h
    next s scheme rest hscheme hrest =>
      cases h
      refine ⟨?_, List.cons_ne_nil _ _, fun c hc => ?_⟩
      · rw [← hscheme, ← hrest, List.takeWhile_append_dropWhile]
      · rw [← hscheme] at hc
        exact List.mem_takeWhile_imp hc
    · cases h
  · rintro ⟨rfl, hne, hscheme⟩
    obtain ⟨s, scheme, rfl⟩ := List.exists_cons_of_ne_nil hne
    have hchars : ∀ c ∈ s :: scheme, (Unicode.isWord c || c == '+') = true := hscheme
    rw [List.takeWhile_append_of_pos hchars, List.dropWhile_append_of_pos hchars,
      List.takeWhile_cons_of_neg (by decide), List.dropWhile_cons_of_neg (by decide),
      List.append_nil]
    rfl

theorem colon_notMem {scheme : List Char} (h : ∀ c ∈ scheme, isSchemeChar c) : ':' ∉ scheme :=
  fun hc => absurd (h ':' hc) (by decide)

theorem ne_of_notMem {mark : Char} {cs : List Char} (h : mark ∉ cs) :
    ∀ c ∈ cs, (c != mark) = true := by
  intro c hc
  rw [bne_iff_ne]
  rintro rfl
  exact h hc

/-- A text ends at the first mark that is put after it. -/
theorem takeWhile_append_mark {mark : Char} {cs : List Char} (h : mark ∉ cs) (rest : List Char) :
    (cs ++ mark :: rest).takeWhile (· != mark) = cs := by
  rw [List.takeWhile_append_of_pos (ne_of_notMem h), List.takeWhile_cons_of_neg (by simp),
    List.append_nil]

theorem dropWhile_append_mark {mark : Char} {cs : List Char} (h : mark ∉ cs) (rest : List Char) :
    (cs ++ mark :: rest).dropWhile (· != mark) = mark :: rest := by
  rw [List.dropWhile_append_of_pos (ne_of_notMem h), List.dropWhile_cons_of_neg (by simp)]

/-- What a scheme is made of ends before the first colon. -/
theorem takeWhile_of_scheme? {cs scheme rest : List Char} (h : scheme? cs = some (scheme, rest)) :
    cs.takeWhile (· != ':') = scheme := by
  obtain ⟨rfl, -, hscheme⟩ := scheme?_eq_some_iff.1 h
  exact takeWhile_append_mark (colon_notMem hscheme) _

theorem parse_scheme {text : String} {u : Url} (h : parse text = .ok u) :
    u.scheme.toList = text.toList.takeWhile (· != ':') := by
  unfold parse at h
  split at h
  · cases h
  next scheme rest hscheme =>
    rw [takeWhile_of_scheme? hscheme]
    simp only at h
    -- whatever follows the scheme, it is kept as it was read
    split at h
    · split at h
      · cases h
        exact String.toList_ofList
      · cases h
    · cases h
      exact String.toList_ofList

/-- The first part of a text reaches to the first mark. -/
theorem head?_splitAll (mark : Char) (cs : List Char) :
    (splitAll mark cs).head? = some (cs.takeWhile (· != mark)) := by
  induction cs with
  | nil => rfl
  | cons c cs ih =>
    obtain ⟨parts, hparts⟩ := List.head?_eq_some_iff.1 ih
    rw [splitAll, hparts]
    simp only
    split
    case isTrue hc => simp [hc]
    case isFalse hc => simp [hc]

end Url

namespace Engine

/-- The engine that a URL stands for once it has been taken apart. -/
def ofParsed (echo : Bool) (u : Url) : Except EngineError Engine := do
  if asksForPlugin u then throw .unknownPlugin
  let u := withoutPlugins u
  let (database, driver) ← schemeParts u.scheme
  let kind ← driverKind database driver
  if kind = .notInstalled then throw .driverNotInstalled
  u.checkConnection database
  if kind = .blocking then throw .synchronousDriver
  return ⟨database, echo, u⟩

theorem ofUrl_eq_bind (text : String) (echo : Bool) :
    ofUrl text echo = (Url.parse text).bind (ofParsed echo) :=
  rfl

theorem schemeParts_database {scheme database driver : String}
    (h : schemeParts scheme = .ok (database, driver)) :
    database = String.ofList (scheme.toList.takeWhile (· != '+')) := by
  have hhead := Url.head?_splitAll '+' scheme.toList
  unfold schemeParts at h
  split at h
  next hparts =>
    cases h
    rw [hparts] at hhead
    exact congrArg String.ofList (Option.some.inj hhead)
  next hparts =>
    cases h
    rw [hparts] at hhead
    exact congrArg String.ofList (Option.some.inj hhead)
  · cases h

/-- Engines that are made this way go by the names in their URLs. -/
def NamedByUrl (connect : String → Bool → Except EngineError Engine) : Prop :=
  ∀ ⦃url : String⦄ ⦃echo : Bool⦄ ⦃e : Engine⦄, connect url echo = .ok e →
    e.dialectName = engineName url

theorem namedByUrl_ofUrl : NamedByUrl ofUrl := by
  intro url echo e h
  unfold ofUrl at h
  obtain ⟨u, hu, h⟩ := bind_eq_ok h
  simp only at h
  split at h
  · cases h
  obtain ⟨⟨database, driver⟩, hparts, h⟩ := bind_eq_ok h
  obtain ⟨kind, -, h⟩ := bind_eq_ok h
  split at h
  · cases h
  obtain ⟨-, -, h⟩ := bind_eq_ok h
  split at h
  · cases h
  cases h
  rw [engineName, ← Url.parse_scheme hu]
  exact schemeParts_database hparts

end Engine

end TableDdl
