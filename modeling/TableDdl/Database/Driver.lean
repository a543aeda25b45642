import TableDdl.Database.Error

/-!
# Drivers

A scheme names a database and a driver for it. Some drivers are not installed, and some block, so
that no engine can use them; `driverKind` tells these apart. A name can also belong to something
else of a database, such as a type of its columns, and that is another mistake than an unknown name.
-/

namespace TableDdl

inductive DriverKind where
  /-- Does not block, and is installed. -/
  | ready
  /-- Is installed. -/
  | blocking
  | notInstalled
  deriving DecidableEq, Repr

/-- The driver that is used when the scheme names none; it also has a name of its own. -/
def defaultDriver : String := "base"

def mysqlDrivers : List (String × DriverKind) :=
  [(defaultDriver, .notInstalled), ("aiomysql", .ready), ("asyncmy", .notInstalled),
   ("mysqldb", .notInstalled), ("pymysql", .blocking), ("mysqlconnector", .notInstalled),
   ("mariadbconnector", .notInstalled), ("cymysql", .notInstalled), ("pyodbc", .notInstalled)]

/-- The drivers of a database by name. MariaDB has those of MySQL, and its default driver has an
internal name too. -/
def driversFor (database : String) : List (String × DriverKind) :=
  match database with
  | "sqlite" =>
    [(defaultDriver, .blocking), ("aiosqlite", .ready), ("pysqlite", .blocking),
      ("pysqlcipher", .notInstalled)]
  | "postgresql" =>
    [(defaultDriver, .notInstalled), ("asyncpg", .ready), ("psycopg", .notInstalled),
      ("psycopg_async", .notInstalled), ("psycopg2", .notInstalled),
      ("psycopg2cffi", .notInstalled), ("pg8000", .notInstalled)]
  | "mysql" => mysqlDrivers
  | "mariadb" => ("__init__", .notInstalled) :: mysqlDrivers
  | _ => []

/-! ## Names of other things -/

/-- Names that every database keeps for its own use, between double underscores. -/
def internalNames : List String :=
  ["all", "annotations", "builtins", "cached", "class", "delattr", "dict", "dir", "doc", "eq",
   "file", "format", "ge", "getattribute", "getstate", "gt", "hash", "init", "init_subclass", "le",
   "loader", "lt", "name", "ne", "new", "package", "path", "reduce", "reduce_ex", "repr", "setattr",
   "sizeof", "spec", "str", "subclasshook"]

def isInternalName (name : String) : Bool := internalNames.any fun n => name == "__" ++ n ++ "__"

/-- Names of types, statements and parts. -/
def sqliteNames : List String :=
  ["BLOB", "BOOLEAN", "CHAR", "DATE", "DATETIME", "DECIMAL", "FLOAT", "INTEGER", "Insert", "JSON",
   "JSONB", "NUMERIC", "REAL", "SMALLINT", "TEXT", "TIME", "TIMESTAMP", "VARCHAR", "dialect", "dml",
   "insert", "json"]

def postgresqlNames : List String :=
  ["ARRAY", "AbstractMultiRange", "AbstractRange", "AbstractSingleRange", "All", "Any", "BIGINT",
   "BIT", "BOOLEAN", "BYTEA", "BitString", "CHAR", "CIDR", "CITEXT", "CreateDomainType",
   "CreateEnumType", "DATE", "DATEMULTIRANGE", "DATERANGE", "DOMAIN", "DOUBLE_PRECISION",
   "DropDomainType", "DropEnumType", "ENUM", "ExcludeConstraint", "FLOAT", "HSTORE", "INET",
   "INT4MULTIRANGE", "INT4RANGE", "INT8MULTIRANGE", "INT8RANGE", "INTEGER", "INTERVAL", "Insert",
   "JSON", "JSONB", "JSONPATH", "MACADDR", "MACADDR8", "MONEY", "ModuleType", "MultiRange",
   "NUMERIC", "NUMMULTIRANGE", "NUMRANGE", "NamedType", "OID", "REAL", "REGCLASS", "REGCONFIG",
   "Range", "SMALLINT", "TEXT", "TIME", "TIMESTAMP", "TSMULTIRANGE", "TSQUERY", "TSRANGE",
   "TSTZMULTIRANGE", "TSTZRANGE", "TSVECTOR", "UUID", "VARCHAR", "_psycopg_common",
   "aggregate_order_by", "array", "array_agg", "arraylib", "bitstring", "dialect", "distinct_on",
   "dml", "ext", "hstore", "insert", "json", "named_types", "operators", "pg_catalog",
   "phraseto_tsquery", "plainto_tsquery", "ranges", "to_tsquery", "to_tsvector", "ts_headline",
   "types", "websearch_to_tsquery"]

def mysqlNames : List String :=
  ["BIGINT", "BINARY", "BIT", "BLOB", "BOOLEAN", "CHAR", "DATE", "DATETIME", "DECIMAL", "DOUBLE",
   "ENUM", "FLOAT", "INET4", "INET6", "INTEGER", "Insert", "JSON", "LONGBLOB", "LONGTEXT",
   "MEDIUMBLOB", "MEDIUMINT", "MEDIUMTEXT", "NCHAR", "NUMERIC", "NVARCHAR", "REAL", "SET",
   "SMALLINT", "TEXT", "TIME", "TIMESTAMP", "TINYBLOB", "TINYINT", "TINYTEXT", "VARBINARY",
   "VARCHAR", "YEAR", "_mariadb_shim", "dialect", "dml", "enumerated", "expression", "insert",
   "json", "limit", "mariadb", "match", "reflection", "reserved_words", "types"]

/-- Only the names of parts. -/
def mariadbNames : List String :=
  ["_mariadb_shim", "dml", "enumerated", "expression", "json", "mariadb", "provision", "reflection",
   "reserved_words", "types"]

/-- A database has the name for something that is no driver. -/
def isOtherName (database name : String) : Bool :=
  match database with
  | "sqlite" => isInternalName name || sqliteNames.contains name
  | "postgresql" => isInternalName name || postgresqlNames.contains name
  | "mysql" => isInternalName name || mysqlNames.contains name
  | "mariadb" => mariadbNames.contains name
  | _ => false

def driverKind (database driver : String) : Except EngineError DriverKind :=
  match (driversFor database).lookup driver with
  | some kind => .ok kind
  | none => if isOtherName database driver then .error .notADriver else .error .unknownDriver

end TableDdl
