import TableDdl.Table.Error

/-!
# Edits of a column

What can be done to a column: a builder call by name, writing its name or its type without a check,
and taking a snapshot of it. `Column.trail` follows a column through a list of edits and goes on after
refusals, and `Column.snapshots` collects the snapshots taken on the way.
-/

namespace TableDdl

inductive Edit where
  | call (method : String) (arguments : List Value)
  | setName (name : Value)
  | setType (type : Value)
  /-- Changes nothing. -/
  | snapshot

namespace Column

def edit (c : Column) : Edit → Except Error Column
  | .call method arguments =>
    match Call.ofMethod method arguments with
    | .error e => .error (.usage e)
    | .ok call => (c.apply call).mapError .ofColumn
  | .setName name => .ok { c with name }
  | .setType type => .ok { c with type }
  | .snapshot => .ok c

/-- What an edit leaves that fails half-way. -/
def editHalfway? (c : Column) : Edit → Option Column
  | .call method arguments => (Call.ofMethod method arguments).toOption.bind c.halfway?
  | _ => none

/-- The column after an edit, and why the edit was refused if it was. -/
def editOrKeep (c : Column) (e : Edit) : Column × Option Error :=
  match c.edit e with
  | .ok next => (next, none)
  | .error err => ((c.editHalfway? e).getD c, some err)

/-- What `editOrKeep` yields for each of the edits in turn. -/
def trail (c : Column) : List Edit → List (Column × Option Error)
  | [] => []
  | e :: es => c.editOrKeep e :: (c.editOrKeep e).1.trail es

/-- The snapshots that are taken during the edits. -/
def snapshots (c : Column) : List Edit → List Snapshot
  | [] => []
  | .snapshot :: es => c.snapshot :: c.snapshots es
  | e :: es => (c.editOrKeep e).1.snapshots es

/-- All edits in order, or the first refusal. -/
def editAll (c : Column) (edits : List Edit) : Except Error Column := edits.foldlM edit c

/-- A column for a dialect by name; only dialects have builders. -/
def newFor (d : Option Dialect) (name : Value) : Except Error Column :=
  match d with
  | none => .error .builderWithoutDialect
  | some d => (Column.new d name).mapError .ofColumn

end Column

end TableDdl
