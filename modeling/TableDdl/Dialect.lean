/-!
# Dialects

Model of `Dialect`, `DialectRules` and `rules_for`.

The relational engines that a table can be generated for, and how each of them expresses unsigned
and auto-increment columns.

A dialect has two texts. `Dialect.name` is the name that the engine goes by; `Dialect.label` is how
the dialect itself is written where a value is put into a text.
-/

namespace TableDdl

inductive Dialect where
  | mysql
  | postgresql
  | sqlite
  deriving DecidableEq, Repr

namespace Dialect

def all : List Dialect := [.mysql, .postgresql, .sqlite]

theorem mem_all (d : Dialect) : d ∈ all := by cases d <;> simp [all]

def name : Dialect → String
  | .mysql => "mysql"
  | .postgresql => "postgresql"
  | .sqlite => "sqlite"

def memberName : Dialect → String
  | .mysql => "MYSQL"
  | .postgresql => "POSTGRESQL"
  | .sqlite => "SQLITE"

def label (d : Dialect) : String := "Dialect." ++ d.memberName

/-- The class of the column builders for a dialect, which `column_class_for` selects, as shown in a
column's description. -/
def builderName : Dialect → String
  | .mysql => "MySQLColumn"
  | .postgresql => "PostgreSQLColumn"
  | .sqlite => "SQLiteColumn"

end Dialect

/-! ## Rules for integer columns -/

/-- How a dialect expresses unsigned and auto-increment columns, `DialectRules`. -/
structure Rules where
  /-- `UNSIGNED` may follow the type; otherwise a check stands in for it. -/
  nativeUnsigned : Bool
  autoIncrementKeyword : Option String
  /-- The type that replaces the declared type of an auto-increment column. -/
  serialType : Option String
  deriving DecidableEq, Repr

/-- The branches of `rules_for`. SQLite needs neither keyword nor type: an `INTEGER PRIMARY KEY` is
the row identifier, which increments by itself. -/
def Dialect.rules : Dialect → Rules
  | .mysql => ⟨true, some "AUTO_INCREMENT", none⟩
  | .postgresql => ⟨false, none, some "BIGSERIAL"⟩
  | .sqlite => ⟨false, none, none⟩

end TableDdl
