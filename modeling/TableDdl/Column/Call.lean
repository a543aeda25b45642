import TableDdl.Column

/-!
# Builder calls

Model of the methods of `Column`.

The calls that change a column: setting its type, adding a constraint, and shortcuts for common
combinations. `Column.apply` carries out a call or refuses it with the reason. A refused call leaves
no trace, but for one that fails half-way (`Column.halfway?`).

A call by name with positional arguments is turned into a `Call` by `Call.ofMethod`, which refuses a
wrong number of arguments.
-/

namespace TableDdl

/-- A call with its arguments, which may be values of any kind. -/
inductive Call where
  | simple (t : SimpleType)
  | decimal (total places : Value)
  | char (length : Value)
  | varchar (length : Value)
  | enum (values : List Value)
  | unsigned
  | notNull
  | autoIncrement
  | default (value : Value)
  | unique
  | primaryKey
  | foreignKey
  | references (table column : Value)
  | onUpdate (action : Value)
  | onDelete (action : Value)
  | check (condition : Value)
  | index
  /-- An auto-incrementing unsigned big integer as primary key. -/
  | pk
  /-- An unsigned big integer that starts a foreign key. -/
  | fk
  /-- Text wide enough for an address of 128 bits. -/
  | ip
  /-- Text for an identifier of 36 characters. -/
  | uuid

def maxCharLength : Nat := 255

def maxVarcharLength : Nat := 65535

def defaultVarcharLength : Nat := 200

/-! ## Arguments -/

/-- A length from zero up to a maximum, `_validate_length`. -/
def lengthOf (maximum : Nat) (v : Value) : Except ColumnError Value :=
  match v.int? with
  | some n =>
    if 0 ≤ n ∧ n ≤ maximum then .ok v else .error (ColumnError.invalidLength v maximum).raised
  | none => .error (ColumnError.invalidLength v maximum).raised

/-- Digits in all and digits after the point, `_validate_decimal`. There may be too many for a dialect
that writes them. -/
def decimalOf (d : Dialect) (total places : Value) : Except ColumnError (Value × Value) :=
  match total.int?, places.int? with
  | some t, some p =>
    if 0 ≤ t ∧ 0 ≤ p ∧ p ≤ t then
      if d.writesDigits && !(total.display?.isSome && places.display?.isSome) then .error .unwritable
      else .ok (total, places)
    else .error (ColumnError.invalidDecimal total places).raised
  | _, _ => .error (ColumnError.invalidDecimal total places).raised

/-- At least one text, and nothing but texts, `_validate_enum`. -/
def enumOf (values : List Value) : Except ColumnError (List Text) :=
  match values.mapM Value.text? with
  | some [] => .error (ColumnError.invalidEnum values).raised
  | some texts => .ok texts
  | none => .error (ColumnError.invalidEnum values).raised

/-- The literal of a default that is an integer with too many digits is not written. -/
def defaultOf (v : Value) : Except ColumnError String :=
  match Literal.defaultText? v with
  | some text => if v.display?.isSome then .ok text else .error .unwritable
  | none => .error (ColumnError.invalidDefault v).raised

theorem defaultOf_eq_ok_iff {v : Value} {text : String} :
    defaultOf v = .ok text ↔ Literal.defaultText? v = some text ∧ v.display?.isSome = true := by
  unfold defaultOf
  cases Literal.defaultText? v with
  | none => exact iff_of_false nofun nofun
  | some literal => cases v.display?.isSome <;> simp

def checkOf (v : Value) : Except ColumnError Text :=
  match v.fullText? with
  | some condition => .ok condition
  | none => .error (ColumnError.invalidCheck v).raised

def referenceOf (table column : Value) : Except ColumnError Reference :=
  match table.fullText?, column.fullText? with
  | none, _ => .error (ColumnError.invalidReferenceTable table).raised
  | some _, none => .error (ColumnError.invalidReferenceColumn column).raised
  | some t, some c => .ok ⟨t, c⟩

/-- A referential action, `_validate_action`. -/
def actionOf : Value → Except ColumnError ReferentialAction
  | .action a => .ok a
  | v => .error (ColumnError.invalidAction v).raised

/-! ## Carrying out a call -/

namespace Column

def withType (c : Column) (type : String) : Column := { c with type := .str type }

def constrain (c : Column) (f : ColumnConstraints → ColumnConstraints) : Column :=
  { c with constraints := f c.constraints }

def withCheck (c : Column) (condition : Text) : Column :=
  c.constrain fun k => { k with checks := k.checks ++ [condition] }

/-- Change the foreign key that has been started, `_update_foreign_key`. -/
def updateForeignKey (c : Column) (f : ForeignKey → ForeignKey) : Except ColumnError Column :=
  match c.constraints.foreignKey with
  | none => .error .undefinedForeignKey
  | some key => .ok (c.constrain fun k => { k with foreignKey := some (f key) })

/-- The condition that a column without a native type for it holds one of the values. It mentions the
name of the column, which may have been overwritten with anything. -/
def membershipCheck (c : Column) (values : List Text) : Except ColumnError Text :=
  match c.name.display? with
  | some name => .ok (.plain (name ++ " IN (" ++ Literal.quoteAll (values.map Text.content) ++ ")"))
  | none => .error .unwritable

def withEnumType (c : Column) (values : List Text) : Column :=
  c.withType (c.dialect.enumType (Literal.quoteAll (values.map Text.content)))

/-- An enumeration, which `_emulate_enum` gives a check where no type holds its values. -/
def withEnum (c : Column) (values : List Text) : Except ColumnError Column :=
  if c.dialect.nativeEnum then .ok (c.withEnumType values)
  else do return (c.withEnumType values).withCheck (← c.membershipCheck values)

def withBigInt (c : Column) : Column := c.withType (c.dialect.simpleType .bigInt)

/-- Arguments are looked at before the foreign key that they are for. -/
def apply (c : Column) : Call → Except ColumnError Column
  | .simple t => .ok (c.withType (c.dialect.simpleType t))
  | .decimal total places => do
    let (t, p) ← decimalOf c.dialect total places
    return c.withType (c.dialect.decimalType t p)
  | .char length => do return c.withType (c.dialect.charType (← lengthOf maxCharLength length))
  | .varchar length => do
    return c.withType (c.dialect.varcharType (← lengthOf maxVarcharLength length))
  | .enum values => do c.withEnum (← enumOf values)
  | .unsigned => .ok (c.constrain fun k => { k with unsigned := true })
  | .notNull => .ok (c.constrain fun k => { k with notNull := true })
  | .autoIncrement => .ok (c.constrain fun k => { k with autoIncrement := true })
  | .default value => do
    let text ← defaultOf value
    return c.constrain fun k => { k with default := some text }
  | .unique => .ok (c.constrain fun k => { k with unique := true })
  | .primaryKey => .ok (c.constrain fun k => { k with primaryKey := true })
  | .foreignKey => .ok (c.constrain fun k => { k with foreignKey := some {} })
  | .references table column => do
    let reference ← referenceOf table column
    c.updateForeignKey fun key => { key with reference := some reference }
  | .onUpdate action => do
    let a ← actionOf action
    c.updateForeignKey fun key => { key with onUpdate := some a }
  | .onDelete action => do
    let a ← actionOf action
    c.updateForeignKey fun key => { key with onDelete := some a }
  | .check condition => do return c.withCheck (← checkOf condition)
  | .index => .ok (c.constrain fun k => { k with index := true })
  | .pk => .ok (c.withBigInt.constrain fun k =>
      { k with unsigned := true, autoIncrement := true, primaryKey := true })
  | .fk => .ok (c.withBigInt.constrain fun k => { k with unsigned := true, foreignKey := some {} })
  | .ip => .ok (c.withType (c.dialect.varcharType (.int 39)))
  | .uuid => .ok (c.withType (c.dialect.varcharType (.int 36)))

/-- What a call leaves that fails half-way: an enumeration chooses its type before its check is
written. Every other call that fails leaves the column as it was. -/
def halfway? (c : Column) : Call → Option Column
  | .enum values =>
    match enumOf values, c.apply (.enum values) with
    | .ok texts, .error _ => some (c.withEnumType texts)
    | _, _ => none
  | _ => none

theorem apply_enum (c : Column) {values : List Value} {texts : List Text}
    (h : enumOf values = .ok texts) : c.apply (.enum values) = c.withEnum texts := by
  simp only [apply, h]
  rfl

/-- The name is not written where the type holds the values. -/
theorem withEnum_eq_error_iff {c : Column} {values : List Text} {e : ColumnError} :
    c.withEnum values = .error e ↔
      c.dialect.nativeEnum = false ∧ c.name.display? = none ∧ e = .unwritable := by
  unfold withEnum membershipCheck
  cases c.dialect.nativeEnum with
  | true => simp
  | false =>
    cases c.name.display? with
    | some name =>
      refine iff_of_false ?_ (by simp)
      intro h
      cases h
    | none =>
      show Except.error ColumnError.unwritable = .error e ↔ _
      simp [eq_comm]

section
variable {c : Column} {name : String} (hname : c.name.display? = some name)
include hname

/-- A column whose name can be written takes on any enumeration. -/
theorem withEnum_of_display? (values : List Text) :
    c.withEnum values = .ok (
      if c.dialect.nativeEnum then c.withEnumType values
      else (c.withEnumType values).withCheck
        (.plain (name ++ " IN (" ++ Literal.quoteAll (values.map Text.content) ++ ")"))) := by
  unfold withEnum membershipCheck
  rw [hname]
  cases c.dialect.nativeEnum <;> rfl

/-- So no call on it fails half-way. -/
theorem halfway?_of_display? (call : Call) : c.halfway? call = none := by
  cases call with
  | enum values =>
    simp only [halfway?, apply]
    cases enumOf values with
    | error e => rfl
    | ok texts =>
      have hok : (Except.ok texts >>= c.withEnum) = _ := withEnum_of_display? hname texts
      rw [hok]
  | _ => rfl

end

end Column

/-! ## Calls by name -/

/-- Why a call by name does not make sense. -/
inductive UsageError where
  | wrongArguments (method : String) (given : Nat)
  | unknownMethod (method : String)

/-- How a method makes a call of its arguments, where their number fits. `ref` is another name for
`references`, and a `varchar` without a length has the default length. -/
def Call.maker? (method : String) : Option (List Value → Option Call) :=
  let plain (call : Call) : List Value → Option Call
    | [] => some call
    | _ => none
  let unary (call : Value → Call) : List Value → Option Call
    | [v] => some (call v)
    | _ => none
  let binary (call : Value → Value → Call) : List Value → Option Call
    | [v, w] => some (call v w)
    | _ => none
  match method with
  | "decimal" => some (binary .decimal)
  | "char" => some (unary .char)
  | "varchar" => some fun
    | [] => some (.varchar (.int defaultVarcharLength))
    | arguments => unary .varchar arguments
  | "enum" => some fun values => some (.enum values)
  | "unsigned" => some (plain .unsigned)
  | "not_null" => some (plain .notNull)
  | "auto_increment" => some (plain .autoIncrement)
  | "default" => some (unary .default)
  | "unique" => some (plain .unique)
  | "primary_key" => some (plain .primaryKey)
  | "foreign_key" => some (plain .foreignKey)
  | "references" => some (binary .references)
  | "ref" => some (binary .references)
  | "on_update" => some (unary .onUpdate)
  | "on_delete" => some (unary .onDelete)
  | "check" => some (unary .check)
  | "index" => some (plain .index)
  | "pk" => some (plain .pk)
  | "fk" => some (plain .fk)
  | "ip" => some (plain .ip)
  | "uuid" => some (plain .uuid)
  | _ => (SimpleType.all.find? (·.method == method)).map fun t => plain (.simple t)

/-- The call with the given name and positional arguments. -/
def Call.ofMethod (method : String) (arguments : List Value) : Except UsageError Call :=
  match Call.maker? method with
  | none => .error (.unknownMethod method)
  | some make =>
    match make arguments with
    | none => .error (.wrongArguments method arguments.length)
    | some call => .ok call

end TableDdl
