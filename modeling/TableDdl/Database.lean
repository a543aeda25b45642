import TableDdl.Database.Engine
import TableDdl.Dialect.Name
import TableDdl.Log.Record
import TableDdl.Settings

/-!
# The database of a program

Model of `DatabaseManager`.

A database is reached through at most one engine at a time. The engine is made from the settings
when it is first needed and kept until it is let go; both are logged. Engines are numbered in the
order in which they were made. A step that cannot make an engine changes nothing and logs nothing.
Which URLs an engine can be made from depends on the drivers that are installed, so `Database.connect`
says how one is made. `Engine.ofUrl` finds one suitable driver for each kind of database.
-/

namespace TableDdl

structure NumberedEngine where
  number : Nat
  engine : Engine
  deriving DecidableEq, Repr

structure Database where
  settings : Settings
  /-- The engine that a URL stands for. Echoing is a choice of its own. -/
  connect : String → Bool → Except EngineError Engine := Engine.ofUrl
  held : Option NumberedEngine := none
  /-- How many engines have been made. -/
  made : Nat := 0

/-- Why a step fails. -/
inductive DatabaseError where
  | engine (e : EngineError)
  | dialect (e : Error)

namespace Database

inductive Step where
  | engine
  | executor
  | disconnect
  deriving DecidableEq, Repr

inductive Answer where
  | engine (e : NumberedEngine)
  /-- An executor over the engine, by its dialect. -/
  | executor (e : NumberedEngine) (dialect : Dialect)
  | disconnected

structure Reply where
  result : Except DatabaseError Answer
  logs : List LogEvent := []

/-- The engine, which is made if there is none, and the log of making it, in which the password of its
URL is hidden: the property `engine`. -/
def getEngine (db : Database) :
    Except EngineError (Database × NumberedEngine × List LogEvent) :=
  match db.held with
  | some e => .ok (db, e, [])
  | none => do
    let engine ← db.connect db.settings.databaseUrl db.settings.dbEcho
    let e : NumberedEngine := ⟨db.made, engine⟩
    let log : LogEvent :=
      ⟨.info, "Database engine created", [("database_url", .str (engine.url.render true))]⟩
    return ({ db with held := some e, made := db.made + 1 }, e, [log])

def step (db : Database) : Step → Database × Reply
  | .engine =>
    match db.getEngine with
    | .error e => (db, { result := .error (.engine e) })
    | .ok (next, e, logs) => (next, { result := .ok (.engine e), logs })
  | .executor =>
    match db.getEngine with
    | .error e => (db, { result := .error (.engine e) })
    | .ok (next, e, logs) =>
      match Dialect.ofName (.str e.engine.dialectName) with
      | .error err => (next, { result := .error (.dialect err), logs })
      | .ok d => (next, { result := .ok (.executor e d), logs })
  | .disconnect =>
    match db.held with
    | none => (db, { result := .ok .disconnected })
    | some _ =>
      ({ db with held := none },
        { result := .ok .disconnected, logs := [⟨.info, "Database engine disposed", []⟩] })

/-- Each reply comes with whether an engine is held after its step. -/
def run (db : Database) : List Step → Database × List (Reply × Bool)
  | [] => (db, [])
  | st :: rest =>
    let (n, reply) := db.step st
    let (o, replies) := n.run rest
    (o, (reply, n.held.isSome) :: replies)

end Database

end TableDdl
