import Mathlib.Data.List.Induction
import TableDdl.Proofs.Database.Scheme

/-!
# The lifecycle of an engine

What a database does over any sequence of steps, for settings that load and any way to make engines
that names them by their URLs. A step does one of five things (`Change`): it uses the engine that is
held, makes one, cannot make one, lets the engine go, or has none to let go.

* `step_change`: every step is such a change. An executor over an engine that was made is never
  refused, since settings accept no scheme without a dialect (`TableDdl.Proofs.Database.Scheme`).
* `held_after_iff`: an engine is held iff a use has succeeded since the last disconnect.
* `number_lt_of_disconnect`: what is used after a disconnect was not there before it. The numbers
  of engines that are made or held stay above a bound (`AtLeast`), which a disconnect raises.
* `lifecycle_of_load`: all of it in one statement, with what is logged and what a failure leaves
  behind (`Lifecycle`).
-/

namespace TableDdl
namespace Database

/-! ## What a step does -/

/-- The engine that an answer is about. -/
def Answer.engine? : Answer → Option NumberedEngine
  | .engine e => some e
  | .executor e _ => some e
  | .disconnected => none

/-- The engine that a step has used successfully. -/
def Reply.engine? (r : Reply) : Option NumberedEngine := r.result.toOption.bind Answer.engine?

def createdLog (e : Engine) : LogEvent :=
  ⟨.info, "Database engine created", [("database_url", .str (e.url.render true))]⟩

def disposedLog : LogEvent := ⟨.info, "Database engine disposed", []⟩

/-- The database with an engine that was just made. -/
def holding (db : Database) (engine : Engine) : Database :=
  { db with held := some ⟨db.made, engine⟩, made := db.made + 1 }

/-- The database without an engine. -/
def released (db : Database) : Database := { db with held := none }

/-- What a step may do. -/
inductive Change (db : Database) : Step → Database → Reply → Prop where
  | reused {st : Step} {e : NumberedEngine} {answer : Answer} (hst : st ≠ .disconnect)
      (hheld : db.held = some e) (hanswer : answer.engine? = some e) :
      Change db st db ⟨.ok answer, []⟩
  | created {st : Step} {engine : Engine} {answer : Answer} (hst : st ≠ .disconnect)
      (hheld : db.held = none)
      (hengine : db.connect db.settings.databaseUrl db.settings.dbEcho = .ok engine)
      (hanswer : answer.engine? = some ⟨db.made, engine⟩) :
      Change db st (db.holding engine) ⟨.ok answer, [createdLog engine]⟩
  | refused {st : Step} {err : DatabaseError} (hst : st ≠ .disconnect) (hheld : db.held = none) :
      Change db st db ⟨.error err, []⟩
  | disposed {e : NumberedEngine} (hheld : db.held = some e) :
      Change db .disconnect db.released ⟨.ok .disconnected, [disposedLog]⟩
  | idle (hheld : db.held = none) : Change db .disconnect db ⟨.ok .disconnected, []⟩

/-- The database makes engines as it did at the start, the engine that is held was made so, and
engines that are to come have other numbers. -/
structure Sound (start db : Database) : Prop where
  settings_eq : db.settings = start.settings
  connect_eq : db.connect = start.connect
  made_from {e : NumberedEngine} (h : db.held = some e) :
    start.connect start.settings.databaseUrl start.settings.dbEcho = .ok e.engine
  number_lt {e : NumberedEngine} (h : db.held = some e) : e.number < db.made

/-- A database that holds no engine yet, over a URL whose scheme stands for a dialect. -/
structure Fresh (start : Database) (d : Dialect) : Prop where
  held_eq : start.held = none
  scheme : Dialect.ofEngine? (urlScheme start.settings.databaseUrl) = some d
  named : Engine.NamedByUrl start.connect

theorem Fresh.sound {start : Database} {d : Dialect} (h : Fresh start d) : Sound start start where
  settings_eq := rfl
  connect_eq := rfl
  made_from he := nomatch h.held_eq.symm.trans he
  number_lt he := nomatch h.held_eq.symm.trans he

/-- Getting the engine reuses the one that is held, makes one or fails. -/
theorem getEngine_cases (db : Database) :
    (∃ e, db.held = some e ∧ db.getEngine = .ok (db, e, [])) ∨
    (db.held = none ∧ ∃ engine,
      db.connect db.settings.databaseUrl db.settings.dbEcho = .ok engine ∧
      db.getEngine = .ok (db.holding engine, ⟨db.made, engine⟩, [createdLog engine])) ∨
    (db.held = none ∧ ∃ err, db.getEngine = .error err) := by
  unfold getEngine
  cases hheld : db.held with
  | some e => exact .inl ⟨e, rfl, rfl⟩
  | none =>
    cases hengine : db.connect db.settings.databaseUrl db.settings.dbEcho with
    | ok engine => exact .inr (.inl ⟨rfl, engine, rfl, rfl⟩)
    | error err => exact .inr (.inr ⟨rfl, err, rfl⟩)

section
variable {start : Database} {d : Dialect} (hstart : Fresh start d)
  {db : Database} (hdb : Sound start db)
include hstart hdb

/-- The engine that a step gets goes by the name in the URL. -/
theorem dialectName_of_getEngine {next : Database} {e : NumberedEngine} {logs : List LogEvent}
    (h : db.getEngine = .ok (next, e, logs)) :
    e.engine.dialectName = engineName start.settings.databaseUrl := by
  rcases db.getEngine_cases with ⟨f, hheld, hget⟩ | ⟨-, engine, hengine, hget⟩ | ⟨-, err, hget⟩
  · cases hget.symm.trans h
    exact hstart.named (hdb.made_from hheld)
  · cases hget.symm.trans h
    rw [hdb.settings_eq, hdb.connect_eq] at hengine
    exact hstart.named hengine
  · cases hget.symm.trans h

/-- The engine that a step gets has the dialect of the scheme. -/
theorem ofName_of_getEngine {next : Database} {e : NumberedEngine} {logs : List LogEvent}
    (h : db.getEngine = .ok (next, e, logs)) :
    Dialect.ofName (.str e.engine.dialectName) = .ok d := by
  rw [dialectName_of_getEngine hstart hdb h]
  exact Dialect.ofName_engineName hstart.scheme

/-- An executor is to be had where an engine is. -/
theorem step_executor_of_engine {e : NumberedEngine}
    (h : (db.step .engine).2.result = .ok (.engine e)) :
    e.engine.dialectName = engineName start.settings.databaseUrl ∧
      (db.step .executor).2.result = .ok (.executor e d) := by
  unfold step at h ⊢
  cases hget : db.getEngine with
  | error err =>
    rw [hget] at h
    cases h
  | ok got =>
    rw [hget] at h
    cases h
    refine ⟨dialectName_of_getEngine hstart hdb hget, ?_⟩
    simp only [ofName_of_getEngine hstart hdb hget]

/-- **Every step is one of the five changes.** -/
theorem step_change (st : Step) : Change db st (db.step st).1 (db.step st).2 := by
  cases st with
  | disconnect =>
    unfold step
    cases hheld : db.held with
    | none => exact .idle hheld
    | some e => exact .disposed hheld
  | engine =>
    unfold step
    rcases db.getEngine_cases with ⟨e, hheld, hget⟩ | ⟨hheld, engine, hengine, hget⟩ | ⟨hheld, err, hget⟩
    all_goals simp only [hget]
    · exact .reused nofun hheld rfl
    · exact .created nofun hheld hengine rfl
    · exact .refused nofun hheld
  | executor =>
    unfold step
    rcases db.getEngine_cases with ⟨e, hheld, hget⟩ | ⟨hheld, engine, hengine, hget⟩ | ⟨hheld, err, hget⟩
    · simp only [hget, ofName_of_getEngine hstart hdb hget]
      exact .reused nofun hheld rfl
    · have hname := ofName_of_getEngine hstart hdb hget
      simp only [hget, hname]
      exact .created nofun hheld hengine rfl
    · simp only [hget]
      exact .refused nofun hheld

end

/-! ## What a change keeps -/

/-- No engine below this number is held, or will be made. -/
structure AtLeast (db : Database) (n : Nat) : Prop where
  le_made : n ≤ db.made
  le_number : ∀ e, db.held = some e → n ≤ e.number

namespace Change
variable {db next : Database} {st : Step} {r : Reply}

theorem sound {start : Database} (h : Change db st next r) (hdb : Sound start db) :
    Sound start next := by
  cases h with
  | reused => exact hdb
  | refused => exact hdb
  | idle => exact hdb
  | disposed => exact ⟨hdb.settings_eq, hdb.connect_eq, nofun, nofun⟩
  | created _ _ hengine _ =>
    refine ⟨hdb.settings_eq, hdb.connect_eq, fun h => ?_, fun h => ?_⟩
    · cases h
      rwa [hdb.settings_eq, hdb.connect_eq] at hengine
    · cases h
      exact Nat.lt_succ_self _

/-- An engine is held afterwards iff the step has used it, or it was held and not let go. -/
theorem held_iff (h : Change db st next r) {e : NumberedEngine} :
    next.held = some e ↔ r.engine? = some e ∨ db.held = some e ∧ st ≠ .disconnect := by
  cases h with
  | reused hst hheld hanswer => simp [Reply.engine?, Except.toOption, hheld, hanswer, hst]
  | created hst hheld _ hanswer =>
    simp [Reply.engine?, Except.toOption, holding, hheld, hanswer]
  | refused hst hheld => simp [Reply.engine?, Except.toOption, hst]
  | disposed => simp [Reply.engine?, Except.toOption, Answer.engine?, released]
  | idle hheld => simp [Reply.engine?, Except.toOption, Answer.engine?, hheld]

/-- What is logged: that an engine is made where there was none, and that one is let go. -/
theorem logs_eq (h : Change db st next r) :
    r.logs = if st = .disconnect then (if db.held.isSome then [disposedLog] else [])
      else match db.held, r.engine? with
        | none, some e => [createdLog e.engine]
        | _, _ => [] := by
  cases h with
  | reused hst hheld => simp [hst, hheld]
  | created hst hheld _ hanswer => simp [Reply.engine?, Except.toOption, hst, hheld, hanswer]
  | refused hst hheld => simp [Reply.engine?, Except.toOption, hst, hheld]
  | disposed hheld => simp [hheld]
  | idle hheld => simp [hheld]

/-- A step that fails does nothing, and there was no engine. -/
theorem of_error (h : Change db st next r) {err : DatabaseError} (herr : r.result = .error err) :
    next = db ∧ db.held = none ∧ r.logs = [] := by
  cases h with
  | refused _ hheld => exact ⟨rfl, hheld, rfl⟩
  | reused | created | disposed | idle => cases herr

/-- The engine that is held is the one that is used. -/
theorem engine_eq (h : Change db st next r) {e f : NumberedEngine} (he : db.held = some e)
    (hf : r.engine? = some f) : f = e := by
  cases h with
  | reused _ hheld hanswer => exact Option.some.inj (hf.symm.trans (hanswer.trans (hheld ▸ he)))
  | created _ hheld | refused _ hheld | idle hheld => cases hheld.symm.trans he
  | disposed => cases hf

theorem atLeast (h : Change db st next r) {n : Nat} (hdb : db.AtLeast n) : next.AtLeast n := by
  cases h with
  | reused | refused | idle => exact hdb
  | disposed => exact ⟨hdb.le_made, nofun⟩
  | created =>
    refine ⟨Nat.le_succ_of_le hdb.le_made, fun e he => ?_⟩
    cases he
    exact hdb.le_made

/-- Nothing is held after a disconnect, so all that were made are behind it. -/
theorem atLeast_made (h : Change db .disconnect next r) : next.AtLeast db.made := by
  cases h with
  | reused hst | created hst | refused hst => exact absurd rfl hst
  | disposed => exact ⟨le_rfl, nofun⟩
  | idle hheld => exact ⟨le_rfl, fun e he => nomatch hheld.symm.trans he⟩

end Change

/-! ## What a run keeps -/

/-- The database after some steps. -/
def after (start : Database) (past : List Step) : Database := (start.run past).1

/-- The reply to a step that follows others. -/
def reply (start : Database) (past : List Step) (st : Step) : Reply :=
  ((start.after past).step st).2

theorem run_append (db : Database) (xs ys : List Step) :
    db.run (xs ++ ys)
      = (((db.run xs).1.run ys).1, (db.run xs).2 ++ ((db.run xs).1.run ys).2) := by
  induction xs generalizing db with
  | nil => rfl
  | cons st xs ih => simp only [List.cons_append, run, ih]

theorem after_append_singleton (start : Database) (past : List Step) (st : Step) :
    start.after (past ++ [st]) = ((start.after past).step st).1 := by
  rw [after, run_append]
  rfl

theorem length_run (db : Database) (steps : List Step) : (db.run steps).2.length = steps.length := by
  induction steps generalizing db with
  | nil => rfl
  | cons st steps ih => exact congrArg Nat.succ (ih _)

/-- A run answers each step by the reply to it, and says whether an engine is held then. -/
theorem run_getElem? (start : Database) (past rest : List Step) (st : Step) :
    (start.run (past ++ st :: rest)).2[past.length]?
      = some (start.reply past st, (start.after (past ++ [st])).held.isSome) := by
  rw [run_append, List.getElem?_append_right (length_run _ _).le, length_run, Nat.sub_self,
    after_append_singleton]
  rfl

section
variable {start : Database} {d : Dialect} (hstart : Fresh start d)
include hstart

theorem sound_after (past : List Step) : Sound start (start.after past) := by
  induction past using List.reverseRecOn with
  | nil => exact hstart.sound
  | append_singleton past st ih =>
    rw [after_append_singleton]
    exact (step_change hstart ih st).sound ih

/-- **The steps of a run are changes.** -/
theorem change_after (past : List Step) (st : Step) :
    Change (start.after past) st (start.after (past ++ [st])) (start.reply past st) := by
  rw [after_append_singleton]
  exact step_change hstart (sound_after hstart past) st

/-- An engine is kept until a disconnect. -/
theorem held_after_append {e : NumberedEngine} {before since : List Step}
    (h : (start.after before).held = some e) (hsince : Step.disconnect ∉ since) :
    (start.after (before ++ since)).held = some e := by
  induction since using List.reverseRecOn with
  | nil => rwa [List.append_nil]
  | append_singleton since st ih =>
    rw [List.mem_append, not_or, List.mem_singleton] at hsince
    rw [← List.append_assoc]
    exact (change_after hstart _ st).held_iff.2 (.inr ⟨ih hsince.1, Ne.symm hsince.2⟩)

theorem atLeast_after_append {n : Nat} {before : List Step} (since : List Step)
    (h : (start.after before).AtLeast n) : (start.after (before ++ since)).AtLeast n := by
  induction since using List.reverseRecOn with
  | nil => rwa [List.append_nil]
  | append_singleton since st ih =>
    rw [← List.append_assoc]
    exact (change_after hstart _ st).atLeast ih

theorem held_of_reply {past : List Step} {st : Step} {e : NumberedEngine}
    (h : (start.reply past st).engine? = some e) :
    (start.after (past ++ [st])).held = some e :=
  (change_after hstart past st).held_iff.2 (.inl h)

/-- **An engine is held iff a use has succeeded since the last disconnect.** By induction on the
steps, of which the last one decides unless it keeps what was held. -/
theorem held_after_iff (past : List Step) (e : NumberedEngine) :
    (start.after past).held = some e ↔
      ∃ before st since, past = before ++ st :: since ∧ Step.disconnect ∉ since ∧
        (start.reply before st).engine? = some e := by
  constructor
  · intro h
    induction past using List.reverseRecOn with
    | nil => cases hstart.held_eq.symm.trans h
    | append_singleton past last ih =>
      rcases (change_after hstart past last).held_iff.1 h with hlast | ⟨hheld, hne⟩
      · exact ⟨past, last, [], rfl, List.not_mem_nil, hlast⟩
      · obtain ⟨before, st, since, rfl, hsince, hst⟩ := ih hheld
        refine ⟨before, st, since ++ [last], ?_, ?_, hst⟩
        · rw [List.append_assoc, List.cons_append]
        · rw [List.mem_append, not_or, List.mem_singleton]
          exact ⟨hsince, Ne.symm hne⟩
  · rintro ⟨before, st, since, rfl, hsince, hst⟩
    rw [← List.singleton_append, ← List.append_assoc]
    exact held_after_append hstart (held_of_reply hstart hst) hsince

section
variable {before between : List Step} {st later : Step} {e f : NumberedEngine}
  (hst : (start.reply before st).engine? = some e)
  (hlater : (start.reply (before ++ st :: between) later).engine? = some f)
include hst hlater

/-- **Uses with no disconnect between them use one engine.** -/
theorem engine_eq_of_connected (hbetween : Step.disconnect ∉ between) : f = e :=
  (change_after hstart _ later).engine_eq
    ((held_after_iff hstart _ e).2 ⟨before, st, between, rfl, hbetween, hst⟩) hlater

/-- **Uses with a disconnect between them use different engines.** The first disconnect lets go the
engine that was used before, and from then on all numbers are higher. -/
theorem number_lt_of_disconnect (hbetween : Step.disconnect ∈ between) : e.number < f.number := by
  obtain ⟨connected, rest, rfl, hconnected⟩ := List.eq_append_cons_of_mem hbetween
  have hheld : (start.after (before ++ st :: connected)).held = some e :=
    (held_after_iff hstart _ e).2 ⟨before, st, connected, rfl, hconnected, hst⟩
  have hdisconnected :=
    (change_after hstart (before ++ st :: connected) .disconnect).atLeast_made
  have hfollowing := atLeast_after_append hstart (rest ++ [later]) hdisconnected
  have hlast : (start.after
      (before ++ st :: connected ++ [.disconnect] ++ (rest ++ [later]))).held = some f := by
    have := held_of_reply hstart hlater
    simpa using this
  exact lt_of_lt_of_le ((sound_after hstart _).number_lt hheld) (hfollowing.le_number f hlast)

end
end

/-! ## All of it -/

/-- How a database deals with engines from its start. -/
structure Lifecycle (start : Database) : Prop where
  /-- A run answers each of its steps by the reply to it, with whether an engine is held then. -/
  answered (past rest : List Step) (st : Step) :
    (start.run (past ++ st :: rest)).2[past.length]?
      = some (start.reply past st, (start.after (past ++ [st])).held.isSome)
  /-- An engine is held iff it has been used since the last disconnect. -/
  held_iff (past : List Step) (e : NumberedEngine) :
    (start.after past).held = some e ↔
      ∃ before st since, past = before ++ st :: since ∧ Step.disconnect ∉ since ∧
        (start.reply before st).engine? = some e
  /-- Uses that no disconnect separates use the same engine. -/
  same_engine (before between : List Step) (st later : Step) (e f : NumberedEngine) :
    (start.reply before st).engine? = some e →
    (start.reply (before ++ st :: between) later).engine? = some f →
    Step.disconnect ∉ between → f = e
  /-- What is used after a disconnect is newer than all that was used before it. -/
  fresh_engine (before between : List Step) (st later : Step) (e f : NumberedEngine) :
    (start.reply before st).engine? = some e →
    (start.reply (before ++ st :: between) later).engine? = some f →
    Step.disconnect ∈ between → e.number < f.number
  /-- The making of an engine is logged, and so is letting one go. -/
  logs_eq (past : List Step) (st : Step) :
    (start.reply past st).logs =
      if st = .disconnect then
        if (start.after past).held.isSome then [disposedLog] else []
      else
        match (start.after past).held, (start.reply past st).engine? with
        | none, some e => [createdLog e.engine]
        | _, _ => []
  /-- A step that fails finds no engine, changes nothing and logs nothing. -/
  of_error (past : List Step) (st : Step) (err : DatabaseError) :
    (start.reply past st).result = .error err →
    start.after (past ++ [st]) = start.after past ∧ (start.after past).held = none ∧
      (start.reply past st).logs = []
  /-- The scheme of the URL has a dialect, the engine's name in the URL stands for the same one, and
  an executor in this dialect is to be had wherever an engine is. -/
  executor_ok : ∃ d, Dialect.ofEngine? (urlScheme start.settings.databaseUrl) = some d ∧
    Dialect.ofName (.str (engineName start.settings.databaseUrl)) = .ok d ∧
    ∀ past e, (start.reply past .engine).result = .ok (.engine e) →
      e.engine.dialectName = engineName start.settings.databaseUrl ∧
      (start.reply past .executor).result = .ok (.executor e d)

/-- **The lifecycle of an engine**, for all settings that load and however engines are made, as long
as they go by the names in their URLs. -/
theorem lifecycle_of_load {sources : Sources} {settings : Settings}
    (h : Settings.load sources = .ok settings)
    {connect : String → Bool → Except EngineError Engine} (hnamed : Engine.NamedByUrl connect) :
    Lifecycle { settings, connect } := by
  obtain ⟨d, hd⟩ :=
    Option.isSome_iff_exists.1 ((Dialect.isSome_ofEngine? _).2 (Settings.load_supported h))
  have hstart : Fresh { settings, connect } d := ⟨rfl, hd, hnamed⟩
  exact {
    answered := run_getElem? _
    held_iff := held_after_iff hstart
    same_engine := fun _ _ _ _ _ _ => engine_eq_of_connected hstart
    fresh_engine := fun _ _ _ _ _ _ => number_lt_of_disconnect hstart
    logs_eq := fun past st => (change_after hstart past st).logs_eq
    of_error := fun past st _ => (change_after hstart past st).of_error
    executor_ok := ⟨d, hd, Dialect.ofName_engineName hd, fun past _ =>
      step_executor_of_engine hstart (sound_after hstart past)⟩ }

/-- A program with a MariaDB server. -/
def mariaDbSources : Sources :=
  { arguments := [("database_url", .str "mariadb+aiomysql://root@db/shop")] }

def mariaDbSettings : Settings := { databaseUrl := "mariadb+aiomysql://root@db/shop" }

theorem lifecycle_of_load_mariaDb :
    Settings.load mariaDbSources = .ok mariaDbSettings ∧ Engine.NamedByUrl Engine.ofUrl ∧
      Lifecycle { settings := mariaDbSettings } ∧
      (reply { settings := mariaDbSettings } [.engine, .disconnect] .executor).engine? =
        some ⟨1, "mariadb", false,
          { scheme := "mariadb+aiomysql", user := some "root", host := some "db"
            database := some "shop" }⟩ := by
  have hload : Settings.load mariaDbSources = .ok mariaDbSettings := by
    decide +kernel
  exact ⟨hload, Engine.namedByUrl_ofUrl, lifecycle_of_load hload Engine.namedByUrl_ofUrl,
    by decide +kernel⟩

end Database
end TableDdl
