import TableDdl.Proofs.Database.Lifecycle

/-!
# URLs that can be used

The check of URLs looks for the name of a supported engine, in any case, and at nothing else. An
engine needs a driver besides, one that is installed and does not block, and all of the scheme has
to be spelled as it is known. So some URLs are accepted that no engine can be made from.

* `driverKind_eq_ready_iff`: every supported engine has one driver that can be used.
* `Engine.namesReadyDriver_iff`: a URL with a supported name names that driver iff it is `Spelled`
  out: the name in lower case, the driver, and `://`.
* `Engine.byDriver_ofUrl`: engines are made from such URLs only.
* `Database.usable_iff_of_load`: with settings that load, an engine or an executor is to be had iff
  the URL is spelled out.
-/

namespace TableDdl

/-! ## The scheme of a URL -/

namespace Url

theorem splitAll_eq_splitOn (mark : Char) (cs : List Char) :
    splitAll mark cs = cs.splitOn mark := by
  induction cs with
  | nil => rfl
  | cons c cs ih =>
    obtain ⟨part, parts, hparts⟩ := List.exists_cons_of_ne_nil (List.splitOn_ne_nil mark cs)
    rw [List.splitOn_cons_eq_if_modifyHead, splitAll, ih, hparts]
    simp only [beq_iff_eq, List.modifyHead_cons]

theorem scheme?_of_parse {text : String} {u : Url} (h : parse text = .ok u) :
    ∃ rest, scheme? text.toList = some (u.scheme.toList, rest) := by
  cases hscheme : scheme? text.toList with
  | none =>
    simp only [parse, hscheme] at h
    cases h
  | some found =>
    obtain ⟨scheme, rest⟩ := found
    refine ⟨rest, ?_⟩
    rw [parse_scheme h, takeWhile_of_scheme? hscheme]

end Url

namespace Engine

/-- A scheme is a database with its own driver, or a database and a driver. -/
theorem eq_of_schemeParts {scheme database driver : String}
    (h : schemeParts scheme = .ok (database, driver)) :
    scheme = database ∧ driver = defaultDriver ∨ scheme = database ++ "+" ++ driver := by
  have hjoin : ['+'].intercalate (scheme.toList.splitOn '+') = scheme.toList :=
    List.intercalate_splitOn '+'
  rw [← Url.splitAll_eq_splitOn] at hjoin
  unfold schemeParts at h
  split at h
  next hparts =>
    cases h
    rw [hparts, List.intercalate_singleton] at hjoin
    exact .inl ⟨by rw [hjoin, String.ofList_toList], rfl⟩
  next hparts =>
    cases h
    rw [hparts, List.intercalate_cons_cons, List.intercalate_singleton] at hjoin
    refine .inr ?_
    rw [← String.toList_inj, ← hjoin]
    simp
  · cases h

end Engine

/-! ## Drivers that can be used -/

namespace Dialect

/-- The driver that is installed for a dialect and does not block. -/
def asyncDriver : Dialect → String
  | .mysql => "aiomysql"
  | .postgresql => "asyncpg"
  | .sqlite => "aiosqlite"

theorem asyncDriver_ne_defaultDriver (d : Dialect) : d.asyncDriver ≠ defaultDriver := by
  cases d <;> decide

theorem ofEngine?_cases {name : String} {d : Dialect} (h : ofEngine? name = some d) :
    name = "sqlite" ∧ d = .sqlite ∨ name = "postgresql" ∧ d = .postgresql ∨
      name = "mysql" ∧ d = .mysql ∨ name = "mariadb" ∧ d = .mysql := by
  have hsupported := (isSome_ofEngine? name).1 (Option.isSome_of_mem h)
  simp only [supportedSchemes, List.mem_cons, List.not_mem_nil, or_false] at hsupported
  rcases hsupported with rfl | rfl | rfl | rfl <;> cases h <;> simp

end Dialect

theorem mem_driversFor_ready {database driver : String}
    (h : (driver, DriverKind.ready) ∈ driversFor database) :
    ∃ d, Dialect.ofEngine? database = some d ∧ driver = d.asyncDriver := by
  unfold driversFor at h
  split at h
  · exact ⟨.sqlite, by decide, by simpa [Dialect.asyncDriver] using h⟩
  · exact ⟨.postgresql, by decide, by simpa [Dialect.asyncDriver] using h⟩
  · exact ⟨.mysql, by decide, by simpa [mysqlDrivers, Dialect.asyncDriver] using h⟩
  · exact ⟨.mysql, by decide, by simpa [mysqlDrivers, Dialect.asyncDriver] using h⟩
  · cases h

/-- **Every engine that has a dialect has one driver that can be used.** -/
theorem driverKind_eq_ready_iff {database driver : String} :
    driverKind database driver = .ok .ready ↔
      ∃ d, Dialect.ofEngine? database = some d ∧ driver = d.asyncDriver := by
  constructor
  · intro h
    unfold driverKind at h
    split at h
    next kind hkind =>
      cases h
      obtain ⟨before, after, hmem, -⟩ := List.lookup_eq_some_iff.1 hkind
      refine mem_driversFor_ready ?_
      rw [hmem]
      simp
    · split at h <;> cases h
  · rintro ⟨d, hd, rfl⟩
    rcases Dialect.ofEngine?_cases hd with
      ⟨rfl, rfl⟩ | ⟨rfl, rfl⟩ | ⟨rfl, rfl⟩ | ⟨rfl, rfl⟩ <;> decide

/-! ## URLs that name a driver -/

namespace Dialect

/-- Written as the name of its engine in lower case, the driver of the dialect and `://`. -/
def Spelled (d : Dialect) (url : String) : Prop :=
  ∃ rest, url = urlScheme url ++ "+" ++ d.asyncDriver ++ "://" ++ rest

theorem spelled_iff_prefix {d : Dialect} {url : String} :
    d.Spelled url ↔ (urlScheme url ++ "+" ++ d.asyncDriver ++ "://").toList <+: url.toList := by
  constructor
  · rintro ⟨rest, hurl⟩
    exact ⟨rest.toList, by rw [← String.toList_append, ← hurl]⟩
  · rintro ⟨rest, hurl⟩
    refine ⟨String.ofList rest, ?_⟩
    rw [← String.toList_inj, String.toList_append, String.toList_ofList, hurl]

instance (d : Dialect) (url : String) : Decidable (d.Spelled url) :=
  decidable_of_iff _ spelled_iff_prefix.symm

end Dialect

namespace Engine

/-- The URL has `://` and its scheme names a database and a driver for it that can be used. -/
def NamesReadyDriver (url : String) : Prop :=
  ∃ scheme rest database driver, Url.scheme? url.toList = some (scheme, rest) ∧
    schemeParts (String.ofList scheme) = .ok (database, driver) ∧
    driverKind database driver = .ok .ready

/-- A database and its driver make a scheme that is read back. -/
theorem readable_asyncDriver {database : String} {d : Dialect}
    (h : Dialect.ofEngine? database = some d) :
    schemeParts (database ++ "+" ++ d.asyncDriver) = .ok (database, d.asyncDriver) ∧
      (database ++ "+" ++ d.asyncDriver).toList.all Url.isSchemeChar := by
  rcases Dialect.ofEngine?_cases h with
    ⟨rfl, rfl⟩ | ⟨rfl, rfl⟩ | ⟨rfl, rfl⟩ | ⟨rfl, rfl⟩ <;> decide +kernel

theorem lower_of_ofEngine? {name : String} {d : Dialect} (h : Dialect.ofEngine? name = some d) :
    Unicode.lower name = name := by
  rcases Dialect.ofEngine?_cases h with
    ⟨rfl, rfl⟩ | ⟨rfl, rfl⟩ | ⟨rfl, rfl⟩ | ⟨rfl, rfl⟩ <;> decide +kernel

/-- The check of URLs finds the database that a scheme names. -/
theorem urlScheme_of_schemeParts {url database driver : String} {scheme rest : List Char}
    (hscheme : Url.scheme? url.toList = some (scheme, rest))
    (hparts : schemeParts (String.ofList scheme) = .ok (database, driver)) :
    urlScheme url = Unicode.lower database := by
  rw [urlScheme_eq, engineName, Url.takeWhile_of_scheme? hscheme, schemeParts_database hparts,
    String.toList_ofList]

/-- **A URL with a supported name names a driver that can be used iff it is spelled out.** -/
theorem namesReadyDriver_iff {url : String} {d : Dialect}
    (hd : Dialect.ofEngine? (urlScheme url) = some d) :
    NamesReadyDriver url ↔ d.Spelled url := by
  constructor
  · rintro ⟨scheme, rest, database, driver, hscheme, hparts, hkind⟩
    obtain ⟨d', hd', rfl⟩ := driverKind_eq_ready_iff.1 hkind
    have hname : urlScheme url = database := by
      rw [urlScheme_of_schemeParts hscheme hparts, lower_of_ofEngine? hd']
    obtain rfl : d = d' := by
      rw [hname] at hd
      exact Option.some.inj (hd.symm.trans hd')
    rcases eq_of_schemeParts hparts with ⟨-, hdefault⟩ | hjoin
    · exact absurd hdefault d.asyncDriver_ne_defaultDriver
    · refine ⟨String.ofList rest, ?_⟩
      have htext := (Url.scheme?_eq_some_iff.1 hscheme).1
      rw [hname, ← hjoin, ← String.toList_inj, htext]
      simp
  · rintro ⟨rest, hurl⟩
    obtain ⟨hparts, hchars⟩ := readable_asyncDriver hd
    have hscheme : Url.scheme? url.toList
        = some ((urlScheme url ++ "+" ++ d.asyncDriver).toList, rest.toList) := by
      refine Url.scheme?_eq_some_iff.2 ⟨?_, by simp, List.all_eq_true.1 hchars⟩
      calc url.toList
          = (urlScheme url ++ "+" ++ d.asyncDriver ++ "://" ++ rest).toList :=
            congrArg String.toList hurl
        _ = _ := by simp
    refine ⟨_, _, urlScheme url, d.asyncDriver, hscheme, ?_,
      driverKind_eq_ready_iff.2 ⟨d, hd, rfl⟩⟩
    rw [String.ofList_toList]
    exact hparts

/-- An engine is made from a URL iff the URL names a driver that can be used and fits it otherwise,
and goes by the name in its URL. -/
structure ByDriver (connect : String → Bool → Except EngineError Engine) (fits : String → Prop) :
    Prop where
  exists_iff (url : String) (echo : Bool) :
    (∃ e, connect url echo = .ok e) ↔ NamesReadyDriver url ∧ fits url
  named : NamedByUrl connect

/-- What is asked of a URL besides its driver: that all of it can be read, that no plugins are asked
for, and that server and arguments suit the database. -/
def Fits (url : String) : Prop :=
  ∃ u, Url.parse url = .ok u ∧ asksForPlugin u = false ∧
    ∀ database driver, schemeParts u.scheme = .ok (database, driver) →
      (withoutPlugins u).checkConnection database = .ok ()

theorem ofParsed_isOk_iff {echo : Bool} {u : Url} :
    (∃ e, ofParsed echo u = .ok e) ↔
      asksForPlugin u = false ∧ ∃ database driver, schemeParts u.scheme = .ok (database, driver) ∧
        driverKind database driver = .ok .ready ∧
        (withoutPlugins u).checkConnection database = .ok () := by
  have hscheme : (withoutPlugins u).scheme = u.scheme := rfl
  unfold ofParsed
  cases hplugin : asksForPlugin u with
  | true => simp [bind, Except.bind, throw, throwThe, MonadExceptOf.throw]
  | false =>
    cases hparts : schemeParts u.scheme with
    | error err => simp [hscheme, hparts, bind, Except.bind]
    | ok parts =>
      obtain ⟨database, driver⟩ := parts
      cases hkind : driverKind database driver with
      | error err => simp [hscheme, hparts, hkind, bind, Except.bind]
      | ok kind =>
        cases hcheck : (withoutPlugins u).checkConnection database <;> cases kind <;>
          simp [hscheme, hparts, hkind, hcheck, bind, Except.bind, pure, Except.pure, throw,
            throwThe, MonadExceptOf.throw]

/-- **Engines are made from URLs that name a driver that can be used.** -/
theorem byDriver_ofUrl : ByDriver ofUrl Fits where
  named := namedByUrl_ofUrl
  exists_iff url echo := by
    rw [ofUrl_eq_bind]
    constructor
    · rintro ⟨e, h⟩
      obtain ⟨u, hu, h⟩ := bind_eq_ok h
      obtain ⟨hplugin, database, driver, hparts, hkind, hcheck⟩ := ofParsed_isOk_iff.1 ⟨e, h⟩
      obtain ⟨rest, hscheme⟩ := Url.scheme?_of_parse hu
      refine ⟨⟨_, rest, database, driver, hscheme, ?_, hkind⟩, u, hu, hplugin, fun other _ h => ?_⟩
      · rwa [String.ofList_toList]
      · cases hparts.symm.trans h
        exact hcheck
    · rintro ⟨⟨scheme, rest, database, driver, hscheme, hparts, hkind⟩, u, hu, hplugin, hcheck⟩
      obtain ⟨_, hscheme'⟩ := Url.scheme?_of_parse hu
      have hu_scheme : u.scheme = String.ofList scheme := by
        cases hscheme.symm.trans hscheme'
        rw [String.ofList_toList]
      rw [← hu_scheme] at hparts
      rw [hu]
      exact ofParsed_isOk_iff.2
        ⟨hplugin, database, driver, hparts, hkind, hcheck database driver hparts⟩

end Engine

/-! ## Engines and executors to be had -/

namespace Database

section
variable {start : Database} {d : Dialect} (hstart : Fresh start d)
include hstart

/-- An engine is got iff one can be made from the URL, whether one is held or not. -/
theorem getEngine_isOk_iff (past : List Step) :
    (∃ got, (start.after past).getEngine = .ok got) ↔
      ∃ e, start.connect start.settings.databaseUrl start.settings.dbEcho = .ok e := by
  have hsound := sound_after hstart past
  unfold getEngine
  cases hheld : (start.after past).held with
  | some e => exact ⟨fun _ => ⟨_, hsound.made_from hheld⟩, fun _ => ⟨_, rfl⟩⟩
  | none =>
    rw [hsound.settings_eq, hsound.connect_eq]
    cases start.connect start.settings.databaseUrl start.settings.dbEcho with
    | error err => exact ⟨fun ⟨_, h⟩ => (nomatch h), fun ⟨_, h⟩ => (nomatch h)⟩
    | ok engine => exact ⟨fun _ => ⟨_, rfl⟩, fun _ => ⟨_, rfl⟩⟩

theorem engine_created_iff (past : List Step) :
    (∃ e, (start.reply past .engine).result = .ok (.engine e)) ↔
      ∃ e, start.connect start.settings.databaseUrl start.settings.dbEcho = .ok e := by
  rw [← getEngine_isOk_iff hstart past]
  unfold reply step
  cases (start.after past).getEngine with
  | error err => exact ⟨fun ⟨_, h⟩ => (nomatch h), fun ⟨_, h⟩ => (nomatch h)⟩
  | ok got => exact ⟨fun _ => ⟨_, rfl⟩, fun _ => ⟨_, rfl⟩⟩

/-- The name of an engine that was got always stands for the dialect of the URL. -/
theorem executor_created_iff (past : List Step) :
    (∃ e, (start.reply past .executor).result = .ok (.executor e d)) ↔
      ∃ e, start.connect start.settings.databaseUrl start.settings.dbEcho = .ok e := by
  rw [← getEngine_isOk_iff hstart past]
  unfold reply step
  cases hget : (start.after past).getEngine with
  | error err => exact ⟨fun ⟨_, h⟩ => (nomatch h), fun ⟨_, h⟩ => (nomatch h)⟩
  | ok got =>
    simp only [ofName_of_getEngine hstart (sound_after hstart past) hget]
    exact ⟨fun _ => ⟨_, rfl⟩, fun _ => ⟨_, rfl⟩⟩

/-- Where no engine can be made, both report why. -/
theorem reply_of_no_engine
    (h : ¬∃ e, start.connect start.settings.databaseUrl start.settings.dbEcho = .ok e)
    (past : List Step) :
    ∃ err, (start.reply past .engine).result = .error (.engine err) ∧
      (start.reply past .executor).result = .error (.engine err) := by
  rw [← getEngine_isOk_iff hstart past] at h
  unfold reply step
  cases hget : (start.after past).getEngine with
  | error err => exact ⟨err, rfl, rfl⟩
  | ok got => exact absurd ⟨got, hget⟩ h

end

theorem fresh_of_load {sources : Sources} {settings : Settings}
    (hload : Settings.load sources = .ok settings)
    {connect : String → Bool → Except EngineError Engine} (hnamed : Engine.NamedByUrl connect) :
    ∃ d, Fresh { settings, connect } d := by
  obtain ⟨d, hd⟩ :=
    Option.isSome_iff_exists.1 ((Dialect.isSome_ofEngine? _).2 (Settings.load_supported hload))
  exact ⟨d, rfl, hd, hnamed⟩

/-- Under this condition engines and executors are provided at any time, and else never. -/
structure Provides (start : Database) (d : Dialect) (condition : Prop) : Prop where
  engine_iff (past : List Step) :
    (∃ e, (start.reply past .engine).result = .ok (.engine e)) ↔ condition
  executor_iff (past : List Step) :
    (∃ e, (start.reply past .executor).result = .ok (.executor e d)) ↔ condition
  /-- Both report why no engine can be made. -/
  error (past : List Step) (h : ¬condition) :
    ∃ err, (start.reply past .engine).result = .error (.engine err) ∧
      (start.reply past .executor).result = .error (.engine err)

/-- **What can be used of the URLs that are accepted**: for settings that load, engines and
executors are provided iff the URL is spelled out and fits its driver otherwise. -/
theorem usable_iff_of_load {sources : Sources} {settings : Settings}
    (hload : Settings.load sources = .ok settings)
    {connect : String → Bool → Except EngineError Engine} {fits : String → Prop}
    (hconnect : Engine.ByDriver connect fits) :
    ∃ d, Dialect.ofEngine? (urlScheme settings.databaseUrl) = some d ∧
      Provides { settings, connect } d
        (d.Spelled settings.databaseUrl ∧ fits settings.databaseUrl) := by
  obtain ⟨d, hstart⟩ := fresh_of_load hload hconnect.named
  have hmade : (∃ e, connect settings.databaseUrl settings.dbEcho = .ok e) ↔
      d.Spelled settings.databaseUrl ∧ fits settings.databaseUrl := by
    rw [hconnect.exists_iff, Engine.namesReadyDriver_iff hstart.scheme]
  exact ⟨d, hstart.scheme, {
    engine_iff := fun past => (engine_created_iff hstart past).trans hmade
    executor_iff := fun past => (executor_created_iff hstart past).trans hmade
    error := fun past h => reply_of_no_engine hstart (hmade.not.2 h) past }⟩

/-- A program that is given its URL directly. -/
def sourcesFor (url : String) : Sources := { arguments := [("database_url", .str url)] }

def serverUrl : String := "postgresql+asyncpg://db/shop"

theorem usable_iff_of_load_server :
    Settings.load (sourcesFor serverUrl) = .ok { databaseUrl := serverUrl } ∧
      Engine.ByDriver Engine.ofUrl Engine.Fits ∧
      (∃ d, Dialect.ofEngine? (urlScheme serverUrl) = some d ∧
        Provides { settings := { databaseUrl := serverUrl } } d
          (d.Spelled serverUrl ∧ Engine.Fits serverUrl)) ∧
      Dialect.postgresql.Spelled serverUrl ∧
      (reply { settings := { databaseUrl := serverUrl } } [] .executor).engine?
        = some ⟨0, "postgresql", false,
          { scheme := "postgresql+asyncpg", host := some "db", database := some "shop" }⟩ := by
  have hload : Settings.load (sourcesFor serverUrl) = .ok { databaseUrl := serverUrl } := by
    decide +kernel
  exact ⟨hload, Engine.byDriver_ofUrl, usable_iff_of_load hload Engine.byDriver_ofUrl,
    by decide +kernel, by decide +kernel⟩

/-- **A URL is accepted, and there is no engine for it**, however engines are made from URLs that name
a driver. -/
structure AcceptedInVain (url : String) (cause : EngineError) : Prop where
  accepted : Settings.load (sourcesFor url) = .ok { databaseUrl := url }
  cause : Engine.ofUrl url false = .error cause
  error (connect : String → Bool → Except EngineError Engine)
    (hconnect : Engine.ByDriver connect fun _ => True) (past : List Step) :
    ∃ err,
      (reply { settings := { databaseUrl := url }, connect } past .engine).result
        = .error (.engine err) ∧
      (reply { settings := { databaseUrl := url }, connect } past .executor).result
        = .error (.engine err)

theorem acceptedInVain_of_not_spelled {url : String} {cause : EngineError}
    (haccepted : Settings.load (sourcesFor url) = .ok { databaseUrl := url })
    (hcause : Engine.ofUrl url false = .error cause) (h : ∀ d ∈ Dialect.all, ¬d.Spelled url) :
    AcceptedInVain url cause where
  accepted := haccepted
  cause := hcause
  error connect hconnect past := by
    obtain ⟨d, hstart⟩ := fresh_of_load haccepted hconnect.named
    refine reply_of_no_engine hstart (fun hmade => h d d.mem_all ?_) past
    exact (Engine.namesReadyDriver_iff hstart.scheme).1 ((hconnect.exists_iff _ _).1 hmade).1

/-- **Some URLs are accepted and cannot be used**: one without a driver, one in upper case and one
without `://`. -/
theorem accepted_without_engine :
    AcceptedInVain "sqlite:///./tablegen.db" .synchronousDriver ∧
      AcceptedInVain "SQLITE+aiosqlite:///./tablegen.db" .unknownDriver ∧
      AcceptedInVain "sqlite+aiosqlite" .unreadableUrl := by
  refine ⟨acceptedInVain_of_not_spelled ?_ ?_ ?_, acceptedInVain_of_not_spelled ?_ ?_ ?_,
    acceptedInVain_of_not_spelled ?_ ?_ ?_⟩
  all_goals decide +kernel

end Database
end TableDdl
