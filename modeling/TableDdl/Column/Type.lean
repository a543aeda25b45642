import TableDdl.Value.Display

/-!
# Column types

Model of the methods of `MySQLColumn`, `PostgreSQLColumn` and `SQLiteColumn`, from `tiny_int` to
`enum`.

The logical types that a column can have, and the type that each dialect writes for them. MySQL has
all of them natively. PostgreSQL has no tiny, medium or year integers, so the next wider one stands
in, and bounded text sizes become bounded `VARCHAR`s. SQLite knows only storage classes, so lengths
and digits are not written there.
-/

namespace TableDdl

/-- The types that take no argument. -/
inductive SimpleType where
  | tinyInt
  | smallInt
  | mediumInt
  | int
  | bigInt
  | float
  | double
  | tinyText
  | text
  | mediumText
  | longText
  | boolean
  | date
  | time
  | datetime
  | timestamp
  | year
  | json
  deriving DecidableEq, Repr

/-- The method that sets a type. -/
def SimpleType.method : SimpleType → String
  | .tinyInt => "tiny_int"
  | .smallInt => "small_int"
  | .mediumInt => "medium_int"
  | .int => "int"
  | .bigInt => "big_int"
  | .float => "float"
  | .double => "double"
  | .tinyText => "tiny_text"
  | .text => "text"
  | .mediumText => "medium_text"
  | .longText => "long_text"
  | .boolean => "boolean"
  | .date => "date"
  | .time => "time"
  | .datetime => "datetime"
  | .timestamp => "timestamp"
  | .year => "year"
  | .json => "json"

def SimpleType.all : List SimpleType :=
  [.tinyInt, .smallInt, .mediumInt, .int, .bigInt, .float, .double, .tinyText, .text, .mediumText,
    .longText, .boolean, .date, .time, .datetime, .timestamp, .year, .json]

namespace Dialect

/-- `FLOAT(p)` is single precision up to 24 digits and double precision above. -/
def mysqlType : SimpleType → String
  | .tinyInt => "TINYINT"
  | .smallInt => "SMALLINT"
  | .mediumInt => "MEDIUMINT"
  | .int => "INT"
  | .bigInt => "BIGINT"
  | .float => "FLOAT(23)"
  | .double => "FLOAT(53)"
  | .tinyText => "TINYTEXT"
  | .text => "TEXT"
  | .mediumText => "MEDIUMTEXT"
  | .longText => "LONGTEXT"
  | .boolean => "BOOLEAN"
  | .date => "DATE"
  | .time => "TIME"
  | .datetime => "DATETIME"
  | .timestamp => "TIMESTAMP"
  | .year => "YEAR"
  | .json => "JSON"

def postgresqlType : SimpleType → String
  | .tinyInt => "SMALLINT"
  | .smallInt => "SMALLINT"
  | .mediumInt => "INTEGER"
  | .int => "INTEGER"
  | .bigInt => "BIGINT"
  | .float => "REAL"
  | .double => "DOUBLE PRECISION"
  | .tinyText => "VARCHAR(255)"
  | .text => "VARCHAR(65535)"
  | .mediumText => "VARCHAR(16777215)"
  | .longText => "TEXT"
  | .boolean => "BOOLEAN"
  | .date => "DATE"
  | .time => "TIME WITHOUT TIME ZONE"
  | .datetime => "TIMESTAMP WITHOUT TIME ZONE"
  | .timestamp => "TIMESTAMP WITHOUT TIME ZONE"
  | .year => "INTEGER"
  | .json => "JSON"

/-- Every integer is an `INTEGER`, which is what lets a primary key stand for the row identifier.
Booleans are integers too; dates and times are text. -/
def sqliteType : SimpleType → String
  | .tinyInt | .smallInt | .mediumInt | .int | .bigInt | .boolean | .year => "INTEGER"
  | .float | .double => "REAL"
  | .tinyText | .text | .mediumText | .longText | .date | .time | .datetime | .timestamp
  | .json => "TEXT"

def simpleType : Dialect → SimpleType → String
  | .mysql => mysqlType
  | .postgresql => postgresqlType
  | .sqlite => sqliteType

/-- A fixed-point number with `total` digits, `places` of them after the point. -/
def decimalType (d : Dialect) (total places : Value) : String :=
  match d with
  | .sqlite => "NUMERIC"
  | _ => "DECIMAL(" ++ total.display ++ ", " ++ places.display ++ ")"

/-- Text of fixed length. -/
def charType (d : Dialect) (length : Value) : String :=
  match d with
  | .sqlite => "TEXT"
  | _ => "CHAR(" ++ length.display ++ ")"

/-- Text of bounded length. -/
def varcharType (d : Dialect) (length : Value) : String :=
  match d with
  | .sqlite => "TEXT"
  | _ => "VARCHAR(" ++ length.display ++ ")"

/-- Whether the digits of a fixed-point number are part of its type. -/
def writesDigits : Dialect → Bool
  | .mysql => true
  | .postgresql => true
  | .sqlite => false

/-- The type of a column that holds one of the quoted values. Only MySQL writes the values into the
type; elsewhere a check has to name them. -/
def enumType (d : Dialect) (quotedValues : String) : String :=
  match d with
  | .mysql => "ENUM(" ++ quotedValues ++ ")"
  | .postgresql => "VARCHAR"
  | .sqlite => "TEXT"

def nativeEnum : Dialect → Bool
  | .mysql => true
  | .postgresql => false
  | .sqlite => false

end Dialect

end TableDdl
