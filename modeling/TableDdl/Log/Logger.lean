import TableDdl.Log.Setup

/-!
# Loggers

Model of `get_logger`.

A program asks for loggers by name and keeps them, and each of its log calls goes to one of them
(`LogProgram`). Loggers are made by a factory, which is given the name and decides what becomes of it.
A record names its logger if the logger has a name of its own, and the library otherwise
(`Logger.record`).

`LoggerFactory.printing` makes loggers without names. Its records are those of a `LogSession`, which
knows no loggers (`recordOf_eq_record`, `LogSession.step_log_eq_emit`).
-/

namespace TableDdl

structure Logger where
  ownName : Option Value := none

/-- What makes a logger of the name that it is asked for by. -/
abbrev LoggerFactory := Value → Logger

/-- Loggers that only print. -/
def LoggerFactory.printing : LoggerFactory := fun _ => {}

/-- The name that `get_logger` gives a factory for a logger. Without a name it is that of the library.
-/
def loggerName (name : Value) : Value := if name.truthy then name else .str "tablegen"

/-- The record of a log call of a logger. -/
def Logger.record (logger : Logger) (ctx : Context) (level : Level) (event : Value)
    (fields : Fields) : Fields :=
  let called := if event.isNone then fields else fields.put "event" event
  let timed := (((called.extend ctx).put "level" (.str level.name)).nameLogger logger.ownName).put
    "timestamp" (.str "<time>")
  timed.renderStack.decodeBytes.renameEvent

theorem recordOf_eq_record (ctx : Context) (level : Level) (event : Value) (fields : Fields) :
    recordOf ctx level event fields = Logger.record {} ctx level event fields := rfl

/-- The records that a log call of a logger leads to. -/
def LogSession.emit (s : LogSession) (logger : Logger) (level : Level) (event : Value)
    (fields : Fields) : Except Fault (List Fields) :=
  let recorded := s.setup.records level
  let record := logger.record s.context level event fields
  if (ownNames recorded).any fields.has then .error .ownName
  else if !recorded then .ok []
  else if s.setup.renderer.accepts record then .ok [record]
  else .error .unwritable

/-- **A session logs as a logger without a name.** -/
theorem LogSession.step_log_eq_emit (s : LogSession) (level : Level) (event : Value)
    (fields : Fields) :
    s.step (.log level event fields) = (s.emit {} level event fields).map fun rs => (s, .records rs) := by
  simp only [step, emit, recordOf_eq_record, apply_ite (Except.map _)]
  rfl

/-! ## Programs -/

/-- A session with the loggers that have been asked for, in order. -/
structure LogProgram where
  session : LogSession
  loggers : List Logger := []

namespace LogProgram

inductive Step where
  | enter (scope : Fields)
  | exit
  | getLogger (name : Value)
  /-- A call of the logger that was asked for at a place, counted from zero. -/
  | log (place : Nat) (level : Level) (event : Value) (fields : Fields)

inductive Fault where
  | session (fault : LogSession.Fault)
  /-- The logger has not been asked for. -/
  | noLogger

/-- A step of the session alone, which does not know its loggers. -/
def Step.plain : Step → LogSession.Step
  | .enter scope => .enter scope
  | .exit => .exit
  | .getLogger name => .getLogger name
  | .log _ level event fields => .log level event fields

/-- A step that no logger has a part in. -/
def inSession (p : LogProgram) (st : LogSession.Step) : Except Fault (LogProgram × LogSession.Answer) :=
  match p.session.step st with
  | .ok (session, answer) => .ok ({ p with session }, answer)
  | .error fault => .error (.session fault)

def step (make : LoggerFactory) (p : LogProgram) : Step → Except Fault (LogProgram × LogSession.Answer)
  | .enter scope => p.inSession (.enter scope)
  | .exit => p.inSession .exit
  | .getLogger name => .ok ({ p with loggers := p.loggers ++ [make (loggerName name)] }, .done)
  | .log place level event fields =>
    match p.loggers[place]? with
    | none => .error .noLogger
    | some logger =>
      match p.session.emit logger level event fields with
      | .ok rs => .ok (p, .records rs)
      | .error fault => .error (.session fault)

end LogProgram

end TableDdl
