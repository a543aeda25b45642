import TableDdl.Generator

/-!
# Generator sessions

A session is a generator with the columns that have been made so far, each under a key. `Session.step`
carries out one step; a step that fails leaves the session as it is, except that statements may have
reached the database, and that a call on a column may have failed half-way. `Session.run` carries out
a list of steps and collects the replies.
-/

namespace TableDdl

/-- An executor that is still to be made. -/
inductive ExecutorSetup where
  | candidate (c : Candidate)
  | engine (name explicit : Value) (channel : Channel)

def ExecutorSetup.make : ExecutorSetup → Except Error Candidate
  | .candidate c => .ok c
  | .engine name explicit channel => do
    return (← Executor.overEngine name explicit channel).candidate

/-- A column by its key, or something that is no column. -/
inductive ItemRef where
  | key (k : String)
  | other (v : Value)

structure Session where
  generator : Generator
  context : Context := []
  columns : List (String × Column) := []

namespace Session

inductive Step where
  | name
  | getTable
  | setTable (table : Value)
  | getExecutor
  | setExecutor (setup : ExecutorSetup)
  | column (key : String) (name : Value)
  /-- A column that is made without the generator. -/
  | foreignColumn (key : String) (dialect : Option Dialect) (name : Value)
  | primaryKey (key : String) (name : Value)
  | createdAt (key : String)
  | updatedAt (key : String)
  | timestamps (created updated : String)
  | edit (key : String) (edit : Edit)
  | state (key : String)
  | statements (items : List ItemRef)
  | createTable (items : List ItemRef)
  | dropTable
  /-- Create the table that the generator itself describes. -/
  | createOwn

inductive Answer where
  | done
  | text (s : String)
  | value (v : Value)
  /-- An executor, by its dialect. -/
  | executor (dialect : Value)
  /-- A column that has just been made. -/
  | newColumn (c : Column)
  | newColumns (cs : List Column)
  | column (c : Column)
  | statements (ss : List String)

structure Reply where
  result : Except Error Answer
  trace : List TraceEvent := []
  logs : List LogEvent := []

/-! ## Columns by key -/

def find (s : Session) (key : String) : Except Error Column :=
  match s.columns.lookup key with
  | some c => .ok c
  | none => .error (.unknownColumn key)

/-- Put a column under a key, in place of the one that was there. -/
def store (s : Session) (key : String) (c : Column) : Session :=
  { s with columns := (key, c) :: s.columns.filter (·.1 != key) }

def item (s : Session) : ItemRef → Except Error Item
  | .key k => do return .column (← s.find k)
  | .other v => .ok (.other v)

/-- A step that only makes or changes columns. -/
def edited (s : Session) (next : Except Error (Session × Answer)) : Session × Reply :=
  match next with
  | .ok (t, a) => (t, { result := .ok a })
  | .error e => (s, { result := .error e })

/-- A step that only answers. -/
def asked (s : Session) (answer : Except Error Answer) : Session × Reply :=
  (s, { result := answer })

def making (s : Session) (key : String) (made : Except Error Column) : Session × Reply :=
  s.edited do
    let c ← made
    return (s.store key c, .newColumn c)

/-- An edit of a column. If it is refused, the column stays as it is, unless it fails half-way. -/
def editing (s : Session) (key : String) (c : Column) (e : Edit) : Session × Reply :=
  match c.edit e with
  | .ok next => (s.store key next, { result := .ok (.column next) })
  | .error err => (((c.editHalfway? e).map (s.store key)).getD s, { result := .error err })

def running (s : Session) (o : Outcome) : Session × Reply :=
  ({ s with generator := o.generator, context := o.context },
    { result := o.result.map fun _ => .done, trace := o.trace, logs := o.logs })

def step (s : Session) : Step → Session × Reply
  | .name => s.asked (.ok (.text s.generator.name))
  | .getTable => s.asked (s.generator.tableName.map fun t => .value t.toValue)
  | .setTable table =>
    s.edited (.ok ({ s with generator := { s.generator with table } }, .done))
  | .getExecutor => s.asked (s.generator.executor.map fun e => .executor e.dialect)
  | .setExecutor setup => s.edited do
    let candidate ← setup.make
    return ({ s with generator := { s.generator with candidate } }, .done)
  | .column key name => s.making key (s.generator.column name)
  | .foreignColumn key dialect name => s.making key (Column.newFor dialect name)
  | .primaryKey key name => s.making key (s.generator.primaryKey name)
  | .createdAt key => s.making key s.generator.createdAt
  | .updatedAt key => s.making key s.generator.updatedAt
  | .timestamps created updated => s.edited do
    let c ← s.generator.createdAt
    let u ← s.generator.updatedAt
    return ((s.store created c).store updated u, .newColumns [c, u])
  | .edit key edit =>
    match s.find key with
    | .error e => s.asked (.error e)
    | .ok c => s.editing key c edit
  | .state key => s.asked ((s.find key).map .column)
  | .statements items => s.asked do
    let items ← items.mapM s.item
    return .statements (← s.generator.statements items)
  | .createTable items =>
    match items.mapM s.item with
    | .error e => s.asked (.error e)
    | .ok items => s.running (s.generator.createTable s.context items)
  | .dropTable => s.running (s.generator.dropTable s.context)
  | .createOwn => s.running (s.generator.createOwn s.context)

/-- The replies to a list of steps, and the session after them. -/
def run (s : Session) : List Step → Session × List Reply
  | [] => (s, [])
  | st :: rest =>
    let (t, reply) := s.step st
    let (u, replies) := t.run rest
    (u, reply :: replies)

end Session

end TableDdl
