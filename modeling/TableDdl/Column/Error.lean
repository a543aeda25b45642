import TableDdl.Value.Display

/-!
# Refused arguments

Model of `ColumnError` and its messages.

Why a column builder refuses an argument, and how it says so. A refused value is described in the
message, so a message is written only if the value can be (`ColumnError.message?`). A refusal whose
message cannot be written is another error, which has no message of its own (`ColumnError.raised`).
-/

namespace TableDdl

inductive ColumnError where
  | invalidName (name : Value)
  | invalidDecimal (total places : Value)
  | invalidLength (length : Value) (maximum : Nat)
  | invalidEnum (values : List Value)
  | invalidDefault (value : Value)
  | invalidCheck (condition : Value)
  | invalidReferenceTable (table : Value)
  | invalidReferenceColumn (column : Value)
  | invalidAction (action : Value)
  /-- A reference or an action needs a foreign key that has been started. -/
  | undefinedForeignKey
  /-- An integer has too many digits to be written. -/
  | unwritable

namespace ColumnError

def message? : ColumnError → Option String
  | .invalidName name => do return "Invalid column name: " ++ (← name.describe?)
  | .invalidDecimal total places => do
    return "Invalid decimal arguments: total=" ++ (← total.describe?) ++ ", places="
      ++ (← places.describe?) ++ " (total must be >= 0, places must be >= 0 and <= total)"
  | .invalidLength length maximum => do
    return "Invalid length: " ++ (← length.describe?) ++ " (must be between 0 and " ++ maximum.repr
      ++ ")"
  | .invalidEnum values => do
    return "Invalid enum values: " ++ (← (Value.list values).describe?)
  | .invalidDefault value => do return "Invalid default value: " ++ (← value.describe?)
  | .invalidCheck condition => do return "Invalid check condition: " ++ (← condition.describe?)
  | .invalidReferenceTable table => do return "Invalid table name: " ++ (← table.describe?)
  | .invalidReferenceColumn column => do return "Invalid column name: " ++ (← column.describe?)
  | .invalidAction action => do return "Invalid referential action: " ++ (← action.describe?)
  | .undefinedForeignKey => some "Undefined foreign key"
  | .unwritable => none

/-- The error that comes of a refusal. -/
def raised (e : ColumnError) : ColumnError := if e.message?.isSome then e else .unwritable

/-- The values that the message shows can be written. -/
def IsWritable : ColumnError → Prop
  | .invalidName v | .invalidLength v _ | .invalidDefault v | .invalidCheck v
  | .invalidReferenceTable v | .invalidReferenceColumn v | .invalidAction v => v.isWritable = true
  | .invalidDecimal total places => total.isWritable = true ∧ places.isWritable = true
  | .invalidEnum values => (Value.list values).isWritable = true
  | .undefinedForeignKey => True
  | .unwritable => False

theorem isSome_message?_iff (e : ColumnError) : e.message?.isSome = true ↔ e.IsWritable := by
  have hbind {v : Value} {f : String → String} :
      (v.describe?.bind fun text => some (f text)).isSome = v.isWritable := by
    rw [← v.isSome_describe?]
    cases v.describe? <;> rfl
  cases e with
  | invalidDecimal total places =>
    show (total.describe?.bind fun t => places.describe?.bind fun p => some _).isSome = true ↔ _
    rw [IsWritable, ← total.isSome_describe?, ← places.isSome_describe?]
    cases total.describe? <;> cases places.describe? <;> simp
  | undefinedForeignKey => exact iff_of_true rfl trivial
  | unwritable => exact iff_of_false Bool.false_ne_true id
  | _ => exact Bool.eq_iff_iff.1 hbind

theorem raised_of_isWritable {e : ColumnError} (h : e.IsWritable) : e.raised = e :=
  if_pos (e.isSome_message?_iff.2 h)

end ColumnError

end TableDdl
