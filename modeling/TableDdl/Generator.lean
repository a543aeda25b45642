import TableDdl.Column.Edit
import TableDdl.Executor
import TableDdl.Table.Statement

/-!
# Generators

Model of `TableGenerator`.

A generator creates and drops one table through an executor. Its table name and its executor are
looked at only when they are needed, so it can be set up in any order.

`Generator.statements` makes the statements of a table without running them, and checks in
this order: that there are columns, the executor, that all columns are of the executor's dialect,
the table name, the columns themselves. `Generator.createTable` runs them inside a logging scope that
names the table and the dialect.
-/

namespace TableDdl

/-- A column of a generator's own table, by the steps that make it. -/
inductive Recipe where
  | primaryKey
  | timestamps
  | column (name : Value) (edits : List Edit)

structure Generator where
  /-- The name that errors mention. -/
  name : String := "TableGenerator"
  table : Value := .none
  candidate : Candidate := {}
  /-- How the generator creates its own table, if it does. -/
  recipes : Option (List Recipe) := none

/-- Something that is put among the columns of a table. -/
inductive Item where
  | column (c : Column)
  | other (v : Value)

/-- What came of a step that uses the executor. -/
structure Outcome where
  generator : Generator
  context : Context
  trace : List TraceEvent := []
  logs : List LogEvent := []
  result : Except Error Unit

namespace Generator

def fail (g : Generator) (fault : TableFault) : Error := .within g.name fault

/-- The property `table_name`. -/
def tableName (g : Generator) : Except Error Text :=
  match g.table.identifier? with
  | some name => .ok name
  | none => .error (g.fail .invalidTableName)

/-- The property `executor`. -/
def executor (g : Generator) : Except Error Executor :=
  match g.candidate.executor? with
  | some e => .ok e
  | none => .error (g.fail .invalidExecutor)

def withExecutor (g : Generator) (e : Executor) : Generator := { g with candidate := e.candidate }

/-! ## Columns -/

/-- A new column in the executor's dialect, `TableGenerator.column`. -/
def column (g : Generator) (name : Value) : Except Error Column := do
  let e ← g.executor
  let d ← (Dialect.ofValue e.dialect).mapError (.reportedAs (g.fail .invalidDialect))
  (Column.new d name).mapError .ofColumn

/-- An auto-incrementing primary key, `primary_key`. A name that is absent, zero or empty makes it
`id`. -/
def primaryKey (g : Generator) (name : Value) : Except Error Column := do
  let c ← g.column (if name.truthy then name else .str "id")
  (c.apply .pk).mapError .ofColumn

def datetimeColumn (g : Generator) (name : String) : Except Error Column := do
  let c ← g.column (.str name)
  (c.apply (.simple .datetime)).mapError .ofColumn

def createdAt (g : Generator) : Except Error Column := g.datetimeColumn "created_at"

def updatedAt (g : Generator) : Except Error Column := g.datetimeColumn "updated_at"

def timestamps (g : Generator) : Except Error (List Column) := do
  return [← g.createdAt, ← g.updatedAt]

/-- The columns that a recipe makes. -/
def follow (g : Generator) : Recipe → Except Error (List Column)
  | .primaryKey => do return [← g.primaryKey .none]
  | .timestamps => g.timestamps
  | .column name edits => do return [← (← g.column name).editAll edits]

/-! ## Statements -/

/-- A column of the given dialect; nothing else is one. -/
def columnIn? (dialect : Value) : Item → Option Column
  | .column c =>
    match dialect with
    | .dialect d => if c.dialect = d then some c else none
    | _ => none
  | .other _ => none

def definition (g : Generator) (dialect : Value) (columns : List Column) : TableDefinition :=
  ⟨g.name, g.table, dialect, columns.map Column.snapshot⟩

/-- The statements of `build_statements`. -/
def statements (g : Generator) (items : List Item) : Except Error (List String) :=
  if items.isEmpty then .error (g.fail .noColumns)
  else do
    let e ← g.executor
    let _ ← (Dialect.ofValue e.dialect).mapError (.reportedAs (g.fail .foreignColumns))
    match items.mapM (columnIn? e.dialect) with
    | none => .error (g.fail .foreignColumns)
    | some columns =>
      let _ ← g.tableName
      (g.definition e.dialect columns).statements

/-- A step that fails before anything happens. -/
def refuse (g : Generator) (ctx : Context) (e : Error) : Outcome :=
  { generator := g, context := ctx, result := .error e }

/-- The fields that the logs of a table's creation share. -/
def scope (table : Text) (e : Executor) : Fields :=
  [("table_name", table.toValue), ("dialect", e.dialect.valueAttribute?.getD .none)]

/-- Create the table from columns, `TableGenerator.schema`. The context of the caller is one whose
records can be written, as in `Executor.execute`. -/
def createTable (g : Generator) (ctx : Context) (items : List Item) : Outcome :=
  match g.statements items, g.executor, g.tableName with
  | .error err, _, _ => g.refuse ctx err
  | _, .error err, _ => g.refuse ctx err
  | _, _, .error err => g.refuse ctx err
  | .ok statements, .ok e, .ok table =>
    let inner := ctx.enter (scope table e)
    let count : Value := .int statements.length
    let d := e.deliver inner statements
    { generator := g.withExecutor d.executor
      context := inner.exit (scope table e)
      trace := d.trace
      logs := inner.record .info "Creating table" [("statement_count", count)] :: d.logs
        ++ (match d.result with
          | .ok () => [inner.record .info "Table created successfully" []]
          | .error _ => [])
      result := d.result }

/-- Drop the table, `TableGenerator.drop`, in such a context. -/
def dropTable (g : Generator) (ctx : Context) : Outcome :=
  match g.tableName, g.executor with
  | .error err, _ => g.refuse ctx err
  | _, .error err => g.refuse ctx err
  | .ok table, .ok e =>
    let d := e.execute ctx (dropStatement table.display)
    { generator := g.withExecutor d.executor
      context := ctx
      trace := d.trace
      logs := d.logs
        ++ (match d.result with
          | .ok () => [ctx.record .info "Table dropped" [("table_name", table.toValue)]]
          | .error _ => [])
      result := d.result }

/-- Create the generator's own table, `TableGenerator.create`. -/
def createOwn (g : Generator) (ctx : Context) : Outcome :=
  match g.recipes with
  | none => g.refuse ctx (g.fail .missingCreation)
  | some recipes =>
    match recipes.mapM g.follow with
    | .error err => g.refuse ctx err
    | .ok columns => g.createTable ctx (columns.flatten.map .column)

end Generator

end TableDdl
