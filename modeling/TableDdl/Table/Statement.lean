import TableDdl.Dialect.Name
import TableDdl.Table.Declaration

/-!
# The statements of a table

Model of `resolve`.

A table is created by one `CREATE TABLE` and one `CREATE INDEX` for each indexed column, in column
order, since an index needs its table. The body of the `CREATE TABLE` holds one declaration per
column and then the constraints of all columns, each column's together: primary key, foreign key,
checks, uniqueness.

Everything that a column contributes is a function of that column, the dialect and the table
(`Declaration.clause`, `Declaration.constraints`, `Declaration.indexes`), and
`TableDefinition.statements` only joins the contributions.
-/

namespace TableDdl

/-- A table to be created. Its dialect and its name are values, since only the dialect is checked
here. -/
structure TableDefinition where
  generator : String
  name : Value
  dialect : Value
  columns : List Snapshot

namespace Declaration

/-- A serial type replaces the declared type of an auto-increment column. -/
def typeIn (c : Declaration) (r : Rules) : String :=
  if c.autoIncrement then r.serialType.getD c.type else c.type

/-- The parts of a column's declaration, which are separated by blanks. -/
def parts (c : Declaration) (r : Rules) : List String :=
  [c.name.content, c.typeIn r]
    ++ (if c.unsigned && r.nativeUnsigned then ["UNSIGNED"] else [])
    ++ (if c.autoIncrement then r.autoIncrementKeyword.toList else [])
    ++ (if c.notNull then ["NOT NULL"] else [])
    ++ (c.default.map ("DEFAULT " ++ ·)).toList

/-- How a column is declared in the body of its table. -/
def clause (c : Declaration) (r : Rules) : String := " ".intercalate (c.parts r)

/-- The conditions on a column. Without a native `UNSIGNED` a condition keeps out negative values,
unless the column increments, which never yields one. -/
def conditions (c : Declaration) (r : Rules) : List String :=
  c.checks ++
    if c.unsigned && !r.nativeUnsigned && !c.autoIncrement then [c.name.display ++ " >= 0"] else []

/-- The name of a constraint or an index: its kind, its table and its column. -/
def constraintName (kind table : String) (c : Declaration) : String :=
  kind ++ "_" ++ table ++ "_" ++ c.name.display

def primaryKeyClause (c : Declaration) (table : String) : String :=
  "CONSTRAINT " ++ c.constraintName "pk" table ++ " PRIMARY KEY (" ++ c.name.display ++ ")"

def actionClause (event : String) : Option ReferentialAction → String
  | none => ""
  | some a => " ON " ++ event ++ " " ++ a.sql

def foreignKeyClause (c : Declaration) (table : String) (k : Referral) : String :=
  "CONSTRAINT " ++ c.constraintName "fk" table ++ " FOREIGN KEY (" ++ c.name.display ++ ") REFERENCES "
    ++ k.table ++ "(" ++ k.column ++ ")" ++ actionClause "DELETE" k.onDelete
    ++ actionClause "UPDATE" k.onUpdate

/-- The condition at a position among those of its column, counted from zero. -/
def checkClause (c : Declaration) (table : String) (position : Nat) (condition : String) : String :=
  "CONSTRAINT " ++ c.constraintName "check" table ++ "_" ++ position.repr ++ " CHECK (" ++ condition
    ++ ")"

def uniqueClause (c : Declaration) (table : String) : String :=
  "CONSTRAINT " ++ c.constraintName "unique" table ++ " UNIQUE (" ++ c.name.display ++ ")"

/-- The constraints of one column, in the order in which they are written. -/
def constraints (c : Declaration) (r : Rules) (table : String) : List String :=
  (if c.primaryKey then [c.primaryKeyClause table] else [])
    ++ (c.referral.map (c.foreignKeyClause table)).toList
    ++ (c.conditions r).mapIdx (c.checkClause table)
    ++ (if c.unique then [c.uniqueClause table] else [])

def indexStatement (c : Declaration) (table : String) : String :=
  "CREATE INDEX " ++ c.constraintName "index" table ++ " ON " ++ table ++ "(" ++ c.name.display ++ ");"

/-- The statement that indexes a column, if it is to have an index. -/
def indexes (c : Declaration) (table : String) : List String :=
  if c.index then [c.indexStatement table] else []

end Declaration

/-- The items of a table's body: the declarations of all columns, then all constraints. -/
def bodyItems (r : Rules) (table : String) (columns : List Declaration) : List String :=
  columns.map (·.clause r) ++ columns.flatMap (·.constraints r table)

def createStatement (r : Rules) (table : String) (columns : List Declaration) : String :=
  "CREATE TABLE " ++ table ++ " (" ++ ", ".intercalate (bodyItems r table columns) ++ ");"

/-- All statements for columns that are known to be sound. -/
def statementsFor (r : Rules) (table : String) (columns : List Declaration) : List String :=
  createStatement r table columns :: columns.flatMap (·.indexes table)

def dropStatement (table : String) : String := "DROP TABLE " ++ table ++ ";"

/-! ## From a definition to its statements -/

/-- Whether a clause names the table before a defect of the column is found. The primary key is
written before the foreign key is looked at, and a foreign key before its actions are. -/
def Snapshot.namesTable (s : Snapshot) : Bool :=
  let k := s.constraints
  s.name.fullText?.isSome && s.type.fullText?.isSome
    && !(k.autoIncrement.truthy && !k.primaryKey.truthy)
    && (k.primaryKey.truthy
      || match k.foreignKey with
        | .foreignKey reference _ _ => !reference.isNone
        | _ => false)

/-- The same of columns in order, and of the whole table if there is no defect. -/
def namesTable (r : Rules) : List Snapshot → Bool
  | [] => true
  | s :: rest =>
    match s.declare with
    | .ok c => !(c.constraints r "").isEmpty || c.index || namesTable r rest
    | .error _ => s.namesTable

namespace TableDefinition

def fail (t : TableDefinition) (fault : TableFault) : Error :=
  .table { fault, generator := some t.generator, table := t.name }

/-- A defect of a column as an error of its table. -/
def failFor (t : TableDefinition) : Defect → Error
  | .fault f => t.fail f
  | .malformed => .missingPart
  | .unwritable => .unwritable

/-- All columns, or the first defect. -/
def declarations (t : TableDefinition) : Except Defect (List Declaration) :=
  t.columns.mapM Snapshot.declare

/-- The statements of `resolve`. The dialect is looked at before the columns. A table name that cannot
be written is found out by the first clause that names the table, if no defect is found before. -/
def statements (t : TableDefinition) : Except Error (List String) := do
  let d ← (Dialect.ofValue t.dialect).mapError (.reportedAs (t.fail .invalidDialect))
  if t.name.display?.isNone && namesTable d.rules t.columns then .error .unwritable
  else
    match t.declarations with
    | .ok columns => .ok (statementsFor d.rules t.name.display columns)
    | .error defect => .error (t.failFor defect)

end TableDefinition

end TableDdl
