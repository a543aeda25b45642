import TableDdl.Table.Error

/-!
# Declared columns

Model of the checks that `resolve` makes of each column.

A column can go into a table when it has a name and a type, is a primary key if it increments, and
has a reference if it has a foreign key. `Snapshot.declare` checks these in that order and yields a
`Declaration`, in which every part is known to be there; the first defect is reported otherwise.

Flags are read as truth values and defaults as text, so that a snapshot whose constraints come from
elsewhere can be declared too. Such constraints can be malformed, or too long to be written.
-/

namespace TableDdl

/-- A foreign key that is ready to be written. -/
structure Referral where
  table : String
  column : String
  onDelete : Option ReferentialAction
  onUpdate : Option ReferentialAction
  deriving DecidableEq, Repr

structure Declaration where
  name : Text
  type : String
  unsigned : Bool
  notNull : Bool
  autoIncrement : Bool
  default : Option String
  unique : Bool
  primaryKey : Bool
  referral : Option Referral
  /-- The conditions that were asked for, in order. -/
  checks : List String
  index : Bool
  deriving DecidableEq, Repr

/-- Why a column cannot be declared. -/
inductive Defect where
  | fault (f : TableFault)
  /-- A constraint is not of the kind that its place asks for. -/
  | malformed
  /-- An integer has too many digits to be written. -/
  | unwritable

/-- A value as it is put into a statement. -/
def Value.written (v : Value) : Except Defect String :=
  match v.display? with
  | some text => .ok text
  | Option.none => .error .unwritable

/-- An action that may be unset. -/
def referralAction : Value → Except Defect (Option ReferentialAction)
  | .none => .ok none
  | .action a => .ok (some a)
  | _ => .error .malformed

/-- The foreign key of the column `name`, which may be unset. -/
def referralOf (name : Text) : Value → Except Defect (Option Referral)
  | .none => .ok none
  | .foreignKey .none _ _ => .error (.fault (.openForeignKey name))
  | .foreignKey (.reference table column) onDelete onUpdate => do
    let table ← table.written
    let column ← column.written
    let onDelete ← referralAction onDelete
    let onUpdate ← referralAction onUpdate
    return some ⟨table, column, onDelete, onUpdate⟩
  | _ => .error .malformed

/-- A default, which may be unset. -/
def defaultLiteral (default : Value) : Except Defect (Option String) :=
  if default.isNone then .ok none else do return some (← default.written)

def Snapshot.declare (s : Snapshot) : Except Defect Declaration :=
  match s.name.fullText?, s.type.fullText? with
  | none, _ => .error (.fault .unnamedColumn)
  | some name, none => .error (.fault (.untypedColumn name))
  | some name, some type =>
    let k := s.constraints
    if k.autoIncrement.truthy && !k.primaryKey.truthy then
      .error (.fault (.autoIncrementWithoutKey name))
    else do
      let default ← defaultLiteral k.default
      let referral ← referralOf name k.foreignKey
      let checks ← (k.checks.getD []).mapM Value.written
      return {
        name
        type := type.content
        unsigned := k.unsigned.truthy
        notNull := k.notNull.truthy
        autoIncrement := k.autoIncrement.truthy
        default
        unique := k.unique.truthy
        primaryKey := k.primaryKey.truthy
        referral
        checks
        index := k.index.truthy }

end TableDdl
