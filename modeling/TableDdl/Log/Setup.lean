import TableDdl.Log.Context
import TableDdl.Log.Renderer
import TableDdl.Settings

/-!
# Structured logging

Model of `configure_logging`, with the steps `add_logger_name` and `rename_message_field`.

Settings fix the least level that is recorded and how records are rendered. A record is made of a
log call in steps, each a function on ordered fields: the context is added, then the level, the name
of the logger and the time; a request for the call stack is replaced by the stack, bytes become
text, and the event becomes the message.

A `LogSession` is a setup with the scopes that have been entered. Loggers have no name of their own,
so every record carries the name of the library. A run stops at a call with a field that has the
name of one of the call's own arguments, at a record that cannot be rendered, and where a scope is
left although none has been entered.
-/

namespace TableDdl

structure LogSetup where
  threshold : Level
  renderer : Renderer
  deriving DecidableEq, Repr

namespace LogSetup

/-- Development logs go to the console whatever their format. -/
def ofSettings (s : Settings) : LogSetup where
  threshold := s.logLevel
  renderer := if s.environment = .development ∨ s.logFormat = .console then .console else .json

/-- Loggers are kept after their first use where records are rendered for machines. -/
def cachesLoggers (s : LogSetup) : Bool := s.renderer == .json

def records (s : LogSetup) (level : Level) : Bool := s.threshold.severity ≤ level.severity

end LogSetup

/-! ## Steps on ordered fields -/

namespace Fields

/-- Fields of which each name is kept once, in the place of its first occurrence and with its last
value. -/
def ofPairs (pairs : List (String × Value)) : Fields :=
  pairs.foldl (fun fs f => fs.put f.1 f.2) []

/-- Set the name of the logger, `add_logger_name`. A logger without a name of its own is named for the
library. -/
def nameLogger (own : Option Value) (fs : Fields) : Fields :=
  fs.put "logger" (own.getD (.str "tablegen"))

/-- Call the event a message, `rename_message_field`. -/
def renameEvent (fs : Fields) : Fields :=
  match fs.get? "event" with
  | none => fs
  | some v => (fs.erase "event").put "message" v

/-- Put the call stack in the place of a request for it. -/
def renderStack (fs : Fields) : Fields :=
  match fs.get? "stack_info" with
  | none => fs
  | some v =>
    if v.truthy then (fs.erase "stack_info").put "stack" (.str "<stack>") else fs.erase "stack_info"

def decodeBytes (fs : Fields) : Fields :=
  fs.map fun f => match f with
    | (name, .bytes bs) => (name, .str (Unicode.decodeLossy bs))
    | f => f

end Fields

/-- The record of a log call. -/
def recordOf (ctx : Context) (level : Level) (event : Value) (fields : Fields) : Fields :=
  let called := if event.isNone then fields else fields.put "event" event
  let timed := (((called.extend ctx).put "level" (.str level.name)).nameLogger none).put
    "timestamp" (.str "<time>")
  timed.renderStack.decodeBytes.renameEvent

/-! ## Sessions -/

structure LogSession where
  setup : LogSetup
  context : Context := []
  /-- The scopes that have been entered, the innermost first. -/
  scopes : List Fields := []

namespace LogSession

inductive Step where
  | enter (scope : Fields)
  | exit
  | getLogger (name : Value)
  | log (level : Level) (event : Value) (fields : Fields)

inductive Answer where
  | entered
  | done
  | records (rs : List Fields)

/-- Why a run stops. -/
inductive Fault where
  /-- A field has a name that the call keeps for itself. -/
  | ownName
  /-- The renderer cannot write a record. -/
  | unwritable
  /-- There is no scope to leave. -/
  | noScope
  deriving DecidableEq, Repr

/-- The names that a log call keeps for itself; a call that is recorded keeps one more. -/
def ownNames (recorded : Bool) : List String :=
  if recorded then ["self", "event", "method_name"] else ["self", "event"]

/-- Another logger writes the same records. -/
def step (s : LogSession) : Step → Except Fault (LogSession × Answer)
  | .enter scope =>
    if scope.has "self" then .error .ownName
    else .ok ({ s with context := s.context.enter scope, scopes := scope :: s.scopes }, .entered)
  | .exit =>
    match s.scopes with
    | [] => .error .noScope
    | scope :: scopes => .ok ({ s with context := s.context.exit scope, scopes }, .done)
  | .getLogger _ => .ok (s, .done)
  | .log level event fields =>
    let recorded := s.setup.records level
    let record := recordOf s.context level event fields
    if (ownNames recorded).any fields.has then .error .ownName
    else if !recorded then .ok (s, .records [])
    else if s.setup.renderer.accepts record then .ok (s, .records [record])
    else .error .unwritable

def run (s : LogSession) : List Step → Except Fault (LogSession × List Answer)
  | [] => .ok (s, [])
  | st :: rest => do
    let (t, answer) ← s.step st
    let (u, answers) ← t.run rest
    return (u, answer :: answers)

end LogSession

end TableDdl
