import TableDdl.Dialect.Name
import TableDdl.Log.Context

/-!
# Executors

Model of `SQLExecutor` and `EngineExecutor`, and of the statements that a generator hands to one of
them.

An executor hands statements to a database one at a time. A database may refuse a statement;
`Channel` holds which ones it refuses, counted over everything that it was given. A transactional
channel runs every statement in a transaction of its own, which is committed, or rolled back if the
statement was refused, and logs each committed statement.

Two things are taken for granted. A statement is all that a database refuses, so that transactions can
always be begun and committed. And the fields that a caller has bound can be written, so that no log
call fails.

Anything may be offered as an executor. A `Candidate` is one if it knows a dialect and has a channel
(`Candidate.executor?`); whether its dialect really is one shows when it is used.
-/

namespace TableDdl

/-- What a database sees. -/
inductive TraceEvent where
  | start
  | statement (sql : String)
  | commit
  | rollback
  deriving DecidableEq, Repr

def TraceEvent.text : TraceEvent → String
  | .start => "<begin>"
  | .statement sql => sql
  | .commit => "<commit>"
  | .rollback => "<rollback>"

/-- The way to a database, which only statements can fail on. -/
structure Channel where
  transactional : Bool
  /-- The positions of the statements that the database refuses, counted from zero. -/
  refuses : Nat → Bool := fun _ => false
  /-- What it says when it refuses one. -/
  refusal : String := "boom"
  /-- How many statements it has been given. -/
  received : Nat := 0

structure Executor where
  dialect : Value
  channel : Channel

/-- Something that is offered as an executor. -/
structure Candidate where
  dialect : Option Value := none
  channel : Option Channel := none

def Candidate.executor? (c : Candidate) : Option Executor :=
  match c.dialect, c.channel with
  | some dialect, some channel => some ⟨dialect, channel⟩
  | _, _ => none

def Executor.candidate (e : Executor) : Candidate := ⟨some e.dialect, some e.channel⟩

@[simp] theorem Executor.executor?_candidate (e : Executor) : e.candidate.executor? = some e := rfl

/-- An executor over an engine, `EngineExecutor`. It has the engine's dialect unless it is given
another one, which is not looked at. -/
def Executor.overEngine (engine explicit : Value) (channel : Channel) : Except Error Executor :=
  match explicit with
  | .none => do return ⟨.dialect (← Dialect.ofName engine), channel⟩
  | d => .ok ⟨d, channel⟩

/-- What came of sending statements: the executor afterwards, what the database saw, what was
logged, and whether all went well. -/
structure Delivery where
  executor : Executor
  trace : List TraceEvent
  logs : List LogEvent
  result : Except Error Unit

namespace Executor

/-- The executor after its database has been given one more statement. -/
def counted (e : Executor) : Executor :=
  { e with channel := { e.channel with received := e.channel.received + 1 } }

/-- Whether the next statement will be refused. -/
def refusesNext (e : Executor) : Bool := e.channel.refuses e.channel.received

/-- One statement, `EngineExecutor.execute` over a transactional channel. It is logged in the context
of the caller, which is one whose records can be written. -/
def execute (e : Executor) (ctx : Context) (sql : String) : Delivery :=
  let refused : Except Error Unit := .error (.statement e.channel.refusal)
  match e.channel.transactional, e.refusesNext with
  | false, false => ⟨e.counted, [.statement sql], [], .ok ()⟩
  | false, true => ⟨e.counted, [.statement sql], [], refused⟩
  | true, true => ⟨e.counted, [.start, .statement sql, .rollback], [], refused⟩
  | true, false =>
    let trace := [.start, .statement sql, .commit]
    match e.dialect.valueAttribute? with
    | none => ⟨e.counted, trace, [], .error .missingPart⟩
    | some name =>
      let log := ctx.record .debug "Statement executed" [("dialect", name), ("sql", .str sql)]
      ⟨e.counted, trace, [log], .ok ()⟩

/-- Statements in order, up to the first failure. Each is logged as applied or as failed. -/
def deliver (e : Executor) (ctx : Context) : List String → Delivery
  | [] => ⟨e, [], [], .ok ()⟩
  | sql :: rest =>
    let head := e.execute ctx sql
    match head.result with
    | .error err =>
      let log := ctx.record .error "Statement failed" [("sql", .str sql)]
      ⟨head.executor, head.trace, head.logs ++ [log], .error err⟩
    | .ok () =>
      let log := ctx.record .debug "Statement applied" [("sql", .str sql)]
      let tail := head.executor.deliver ctx rest
      ⟨tail.executor, head.trace ++ tail.trace, head.logs ++ log :: tail.logs, tail.result⟩

end Executor

end TableDdl
