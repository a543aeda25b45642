import TableDdl.Column.Error
import TableDdl.Column.Type
import TableDdl.ConstraintSet
import TableDdl.Identifier
import TableDdl.Literal

/-!
# Columns under construction

Model of `Column` before its methods are called, of `Reference` and `ForeignKey`, and of
`ColumnSnapshot`.

A column belongs to a dialect, has a name and, once a type has been chosen, a type, and collects
constraints. It begins with a valid name and nothing else (`Column.new`). Its name and type are
values, since a column can be given any of them without a check before it is put into a table.

A `Snapshot` is what a table sees of a column: its name, its type and its constraints as a set. The
constraints of a snapshot need not come from a column.
-/

namespace TableDdl

/-- The table and column that a foreign key points at. -/
structure Reference where
  table : Text
  column : Text
  deriving DecidableEq, Repr

/-- A foreign key, which is completed step by step. -/
structure ForeignKey where
  reference : Option Reference := none
  onDelete : Option ReferentialAction := none
  onUpdate : Option ReferentialAction := none
  deriving DecidableEq, Repr

/-- The constraints that a column has collected; a default is already an SQL literal. -/
structure ColumnConstraints where
  unsigned : Bool := false
  notNull : Bool := false
  autoIncrement : Bool := false
  default : Option String := none
  unique : Bool := false
  primaryKey : Bool := false
  foreignKey : Option ForeignKey := none
  /-- The conditions in the order in which they were added. -/
  checks : List Text := []
  index : Bool := false
  deriving DecidableEq, Repr

structure Column where
  dialect : Dialect
  name : Value
  type : Value := .none
  constraints : ColumnConstraints := {}

/-- A column at the moment it is put into a table, `ColumnSnapshot`. -/
structure Snapshot where
  name : Value
  type : Value
  constraints : ConstraintSet := {}

/-! ## Constraints as a set -/

def Reference.toValue (r : Reference) : Value := .reference r.table.toValue r.column.toValue

def ForeignKey.toValue (k : ForeignKey) : Value :=
  .foreignKey ((k.reference.map Reference.toValue).getD .none) ((k.onDelete.map .action).getD .none)
    ((k.onUpdate.map .action).getD .none)

/-- A flag that was never raised is unset. -/
def flagValue (b : Bool) : Value := if b then .bool true else .none

def ColumnConstraints.toSet (c : ColumnConstraints) : ConstraintSet where
  unsigned := flagValue c.unsigned
  notNull := flagValue c.notNull
  autoIncrement := flagValue c.autoIncrement
  default := (c.default.map .str).getD .none
  unique := flagValue c.unique
  primaryKey := flagValue c.primaryKey
  foreignKey := (c.foreignKey.map ForeignKey.toValue).getD .none
  checks := if c.checks.isEmpty then none else some (c.checks.map Text.toValue)
  index := flagValue c.index

/-- An identifier is a text, so it can be written. -/
theorem Value.display?_of_isIdentifier {v : Value} (h : v.isIdentifier = true) :
    v.display? = some v.display := by
  obtain ⟨t, ht⟩ := Option.isSome_iff_exists.1 h
  obtain ⟨rfl, -⟩ := identifier?_eq_some_iff.1 ht
  rw [display?_toValue, display_toValue]

@[simp] theorem truthy_flagValue (b : Bool) : (flagValue b).truthy = b := by cases b <;> rfl

namespace Column

/-- A column with a valid name, and neither type nor constraints. -/
def new (d : Dialect) (name : Value) : Except ColumnError Column :=
  if name.isIdentifier then .ok { dialect := d, name } else .error (ColumnError.invalidName name).raised

def snapshot (c : Column) : Snapshot := ⟨c.name, c.type, c.constraints.toSet⟩

/-- The description of a column, whose name and type may be too long to be written. -/
def describe? (c : Column) : Option String := do
  return c.dialect.builderName ++ "(name=" ++ (← c.name.describe?) ++ ", type="
    ++ (← c.type.describe?) ++ ")"

theorem new_eq_ok_iff {d : Dialect} {name : Value} {c : Column} :
    Column.new d name = .ok c ↔ name.isIdentifier = true ∧ c = { dialect := d, name } := by
  unfold new
  by_cases h : name.isIdentifier = true
  · rw [if_pos h]
    simp only [h, true_and, Except.ok.injEq]
    exact eq_comm
  · simp [h]

end Column

end TableDdl
