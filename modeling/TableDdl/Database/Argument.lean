import TableDdl.Database.HostList
import TableDdl.TruthWord

/-!
# Connection arguments

A driver reads some arguments from the query of a URL, and refuses values that it cannot read.
`checkArguments` looks at them in the order of the driver, so that the first fault wins. Arguments that
the driver does not know are passed on unread.

A file database takes no server, and a server database can be asked for several hosts.
`Url.checkConnection` is what the drivers of a database ask of a URL.
-/

namespace TableDdl

/-- How the value of an argument is read. -/
inductive ArgumentKind where
  | text
  | truth
  | integer
  | number
  deriving DecidableEq, Repr

/-- The values of a query by name; a name can have several. -/
abbrev Query := List (String × List String)

namespace ArgumentKind

/-- A word for a truth value, with blanks around it. -/
def truth? (value : String) : Option Bool :=
  truthWord? (String.ofList (Unicode.trim Unicode.isBlank value.toList))

def reads (kind : ArgumentKind) (value : String) : Bool :=
  match kind with
  | .text => true
  | .truth => (truth? value).isSome
  | .integer => (Numeral.integer? value).isSome
  | .number => (Numeral.float? value).isSome

/-- A number has one value. Several values are some text, and they are true. -/
def fault? (kind : ArgumentKind) (values : List String) : Option ArgumentFault :=
  match values with
  | [value] => if kind.reads value then none else some .unreadable
  | _ => if kind = .integer ∨ kind = .number then some .repeated else none

end ArgumentKind

/-- The arguments that a driver reads, in the order in which it reads them. -/
abbrev Arguments := List (String × ArgumentKind)

/-- What is wrong with an argument in a query; nothing if the query does not have it. -/
def argumentFault? (query : Query) (name : String) (kind : ArgumentKind) : Option ArgumentFault :=
  (query.lookup name).bind kind.fault?

def checkArguments : Arguments → Query → Except EngineError Unit
  | [], _ => .ok ()
  | (name, kind) :: rest, query =>
    match argumentFault? query name kind with
    | some fault => .error (.argument name fault)
    | none => checkArguments rest query

/-! ## The arguments of the drivers -/

def sqliteArguments : Arguments :=
  [("uri", .truth), ("timeout", .number), ("isolation_level", .text), ("detect_types", .integer),
   ("check_same_thread", .truth), ("cached_statements", .integer)]

def postgresqlArguments : Arguments := [("prepared_statement_cache_size", .integer)]

def mysqlArguments : Arguments :=
  [("compress", .truth), ("connect_timeout", .integer), ("read_timeout", .integer),
   ("write_timeout", .integer), ("client_flag", .integer), ("local_infile", .truth),
   ("use_unicode", .truth), ("charset", .text), ("ssl_ca", .text), ("ssl_key", .text),
   ("ssl_cert", .text), ("ssl_capath", .text), ("ssl_cipher", .text),
   ("ssl_check_hostname", .truth)]

namespace Url

/-- A part of a URL that names a server and is not empty. -/
def namesServer (u : Url) : Bool :=
  let full (s : Option String) : Bool := s.getD "" != ""
  full u.user || full u.password || full u.host || u.port.getD 0 != 0

/-- The name of the file is to be read as the name of a resource, so that options can follow it. -/
def namesResource (u : Url) : Bool :=
  match u.query.lookup "uri" with
  | none => false
  | some [value] => (ArgumentKind.truth? value).getD false
  | some _ => true

/-- The names in the query that are no arguments of the driver. -/
def options (u : Url) (arguments : Arguments) : List String :=
  (u.query.map Prod.fst).filter fun name => (arguments.lookup name).isNone

/-- What the drivers of a database ask of a URL. -/
def checkConnection (database : String) (u : Url) : Except EngineError Unit :=
  match database with
  | "sqlite" => do
    if u.namesServer then throw .strayServer
    checkArguments sqliteArguments u.query
    if u.namesResource ∧ u.database = none ∧ u.options sqliteArguments ≠ [] then
      throw .optionsWithoutFile
  | "postgresql" => do
    ((HostList.ofQuery u.query).bind HostList.check).mapError .hosts
    checkArguments postgresqlArguments u.query
  | _ => checkArguments mysqlArguments u.query

end Url

end TableDdl
