import TableDdl.Column.Call

/-!
# Errors

Model of `GeneratorError`, `ConfigurationError` and `SchemaValidationError`.

Everything that can go wrong between a column and a database, by cause.

A `TableError` is a fault in a table, in the generator that creates it or in its dialect. It carries
the name of the generator and, where they are known, the table and the column at fault. An `Error`
is any failure that a caller can meet, the failures of statements on the database included.
-/

namespace TableDdl

inductive TableFault where
  /-- No engine goes by that name. -/
  | unsupportedDialect (name : String)
  /-- A value that is no dialect was given as one; it is described. -/
  | notADialect (description : String)
  | invalidDialect
  | invalidTableName
  | invalidExecutor
  | noColumns
  /-- Something among the columns was not built for the dialect of the table. -/
  | foreignColumns
  | missingCreation
  | unnamedColumn
  | untypedColumn (column : Text)
  | autoIncrementWithoutKey (column : Text)
  | openForeignKey (column : Text)
  deriving Inhabited

structure TableError where
  fault : TableFault
  generator : Option String := none
  table : Value := .none

inductive TableErrorKind where
  | generator
  | configuration
  | schema
  deriving DecidableEq, Repr

namespace TableFault

def kind : TableFault → TableErrorKind
  | .missingCreation => .generator
  | .unsupportedDialect _ | .notADialect _ | .invalidDialect | .invalidTableName
  | .invalidExecutor => .configuration
  | .noColumns | .foreignColumns | .unnamedColumn | .untypedColumn _ | .autoIncrementWithoutKey _
  | .openForeignKey _ => .schema

/-- The column at fault, where it has a name. -/
def column : TableFault → Value
  | .untypedColumn c | .autoIncrementWithoutKey c | .openForeignKey c => c.toValue
  | _ => .none

/-- What is wrong, before the generator that it is wrong in. -/
def summary : TableFault → String
  | .unsupportedDialect name => "Unsupported dialect: " ++ name
  | .notADialect description => "Invalid dialect: " ++ description
  | .invalidDialect => "Invalid dialect"
  | .invalidTableName => "Invalid table name"
  | .invalidExecutor => "Invalid executor"
  | .noColumns => "Undefined schema columns"
  | .foreignColumns => "Invalid columns"
  | .missingCreation => "Table creation logic is missing"
  | .unnamedColumn => "Undefined column name"
  | .untypedColumn c => "Undefined column type for '" ++ c.display ++ "'"
  | .autoIncrementWithoutKey c =>
    "Your auto-increment column '" ++ c.display ++ "' must be a primary key"
  | .openForeignKey c => "Undefined foreign key reference for '" ++ c.display ++ "'"

end TableFault

namespace TableError

def kind (e : TableError) : TableErrorKind := e.fault.kind

def column (e : TableError) : Value := e.fault.column

def message (e : TableError) : String :=
  match e.generator with
  | none => e.fault.summary
  | some generator => e.fault.summary ++ " in: " ++ generator

end TableError

inductive Error where
  | column (e : ColumnError)
  | table (e : TableError)
  | usage (e : UsageError)
  | constraintSet (e : ConstraintSetError)
  /-- Only the builders of a dialect can be made. -/
  | builderWithoutDialect
  /-- A value lacks the part that was asked of it: a constraint that is no foreign key, a name that
  is no referential action, a dialect without a name. -/
  | missingPart
  /-- No column is known by the key. -/
  | unknownColumn (key : String)
  /-- The database refused a statement. -/
  | statement (message : String)
  /-- An integer has too many digits to be written. -/
  | unwritable

namespace Error

/-- An error of a column builder. -/
def ofColumn : ColumnError → Error
  | .unwritable => .unwritable
  | e => .column e

/-- An error that is reported as another one, if it is a fault. -/
def reportedAs (report : Error) : Error → Error
  | .table _ => report
  | e => e

/-- A fault without a generator. -/
def ofFault (fault : TableFault) : Error := .table { fault }

/-- A fault in a generator. -/
def within (generator : String) (fault : TableFault) : Error :=
  .table { fault, generator := some generator }

end Error

end TableDdl
