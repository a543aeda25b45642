import TableDdl.Decimal.Integral
import TableDdl.Log.Record
import TableDdl.TruthWord
import TableDdl.Unicode.Case
import TableDdl.Unicode.Utf8
import TableDdl.Value.Display

/-!
# Settings

Model of `Settings` and `validate_database_url`.

The six settings of a program, what values each accepts, and how a value that is not accepted is
reported. A value comes from the program itself and can be of any kind, or from the environment, and
is then text.

A database URL has to name a supported engine: the text before its first colon, without what follows
a plus sign there, is that name, whatever its case (`urlScheme`). The URL is stored as it was given.
-/

namespace TableDdl

inductive RunMode where
  | development
  | production
  | testing
  deriving DecidableEq, Repr

inductive LogFormat where
  | json
  | console
  deriving DecidableEq, Repr

def RunMode.all : List RunMode := [.development, .production, .testing]

def RunMode.name : RunMode → String
  | .development => "development"
  | .production => "production"
  | .testing => "testing"

def LogFormat.all : List LogFormat := [.json, .console]

def LogFormat.name : LogFormat → String
  | .json => "json"
  | .console => "console"

structure Settings where
  appName : String := "tablegen"
  environment : RunMode := .development
  databaseUrl : String := "sqlite+aiosqlite:///./tablegen.db"
  dbEcho : Bool := false
  logLevel : Level := .info
  logFormat : LogFormat := .json
  deriving DecidableEq, Repr

inductive SettingField where
  | appName
  | environment
  | databaseUrl
  | dbEcho
  | logLevel
  | logFormat
  deriving DecidableEq, Repr

namespace SettingField

/-- In the order in which problems are reported. -/
def all : List SettingField :=
  [.appName, .environment, .databaseUrl, .dbEcho, .logLevel, .logFormat]

theorem mem_all (f : SettingField) : f ∈ all := by cases f <;> simp [all]

def name : SettingField → String
  | .appName => "app_name"
  | .environment => "environment"
  | .databaseUrl => "database_url"
  | .dbEcho => "db_echo"
  | .logLevel => "log_level"
  | .logFormat => "log_format"

end SettingField

/-! ## Values that are not accepted -/

inductive SettingIssue where
  | notText
  /-- The bytes of a text are not UTF-8. -/
  | undecodableText
  | notTruthValue
  /-- The right kind of value, but not one that stands for a truth value. -/
  | unreadableTruthValue
  | notAChoice (choices : List String)
  | unsupportedScheme (scheme : String)
  deriving DecidableEq, Repr

def supportedSchemes : List String := ["sqlite", "postgresql", "mysql", "mariadb"]

/-- `'a', 'b' or 'c'`. -/
def alternatives : List String → String
  | [] => ""
  | [a] => "'" ++ a ++ "'"
  | [a, b] => "'" ++ a ++ "' or '" ++ b ++ "'"
  | a :: rest => "'" ++ a ++ "', " ++ alternatives rest

namespace SettingIssue

def code : SettingIssue → String
  | .notText => "string_type"
  | .undecodableText => "string_unicode"
  | .notTruthValue => "bool_type"
  | .unreadableTruthValue => "bool_parsing"
  | .notAChoice _ => "literal_error"
  | .unsupportedScheme _ => "value_error"

def message : SettingIssue → String
  | .notText => "Input should be a valid string"
  | .undecodableText =>
    "Input should be a valid string, unable to parse raw data as a unicode string"
  | .notTruthValue => "Input should be a valid boolean"
  | .unreadableTruthValue => "Input should be a valid boolean, unable to interpret input"
  | .notAChoice choices => "Input should be " ++ alternatives choices
  | .unsupportedScheme scheme =>
    "Value error, Unsupported database URL scheme '" ++ scheme ++ "'. Expected one of: "
      ++ ", ".intercalate supportedSchemes

end SettingIssue

structure SettingError where
  field : SettingField
  issue : SettingIssue
  deriving DecidableEq, Repr

/-! ## Reading values -/

/-- A text: a string, the value of an enumeration member as it is written, or bytes in UTF-8. -/
def textSetting : Value → Except SettingIssue String
  | .str s => .ok s
  | .dialect d => .ok d.name
  | .action a => .ok a.sql
  | .member _ _ _ value =>
    match value.display? with
    | some s => .ok s
    | none => .error .notText
  | .bytes bs =>
    match Unicode.decode? bs with
    | some s => .ok s
    | none => .error .undecodableText
  | _ => .error .notText

/-- One of a list of strings, exactly. -/
def choiceSetting {α : Type} (all : List α) (name : α → String) : Value → Except SettingIssue α
  | .str s =>
    match all.find? (name · == s) with
    | some a => .ok a
    | none => .error (.notAChoice (all.map name))
  | _ => .error (.notAChoice (all.map name))

/-- Words that stand for no truth value are of the right kind all the same. -/
def truthWordSetting (s : String) : Except SettingIssue Bool :=
  match truthWord? s with
  | some b => .ok b
  | none => .error .unreadableTruthValue

/-- Zero and one are truth values, and other integers are of the right kind if they fit a word of 64
bits. -/
def truthNumber (n : Int) : Except SettingIssue Bool :=
  if n = 0 then .ok false
  else if n = 1 then .ok true
  else if -9223372036854775808 ≤ n ∧ n < 9223372036854775808 then .error .unreadableTruthValue
  else .error .notTruthValue

/-- A float counts as the integer that it is equal to, apart from the least word. -/
def truthFloat (x : Float) : Except SettingIssue Bool :=
  match Decimal.integral? x with
  | some n => if n = -9223372036854775808 then .error .notTruthValue else truthNumber n
  | none => .error .notTruthValue

def truthSetting : Value → Except SettingIssue Bool
  | .bool b => .ok b
  | .str s => truthWordSetting s
  | .dialect d => truthWordSetting d.name
  | .bytes bs =>
    match Unicode.decode? bs with
    | some s => truthWordSetting s
    | none => .error .unreadableTruthValue
  | v =>
    match v.number? with
    | some (.int i) => truthNumber i
    | some (.float x) => truthFloat x
    | none => .error .notTruthValue

/-- The engine that a URL names. -/
def urlScheme (url : String) : String :=
  let beforeColon := url.toList.takeWhile (· != ':')
  Unicode.lower (String.ofList (beforeColon.takeWhile (· != '+')))

/-- A URL of a supported engine, `validate_database_url`. -/
def urlSetting (v : Value) : Except SettingIssue String := do
  let url ← textSetting v
  if supportedSchemes.contains (urlScheme url) then return url
  else throw (.unsupportedScheme (urlScheme url))

theorem urlSetting_eq_ok_iff {v : Value} {url : String} :
    urlSetting v = .ok url ↔ textSetting v = .ok url ∧ urlScheme url ∈ supportedSchemes := by
  unfold urlSetting
  simp only [bind, Except.bind]
  cases textSetting v with
  | error issue => exact iff_of_false nofun nofun
  | ok text =>
    simp only [Except.ok.injEq]
    split
    case isTrue hscheme =>
      constructor
      · intro h
        cases h
        exact ⟨rfl, List.contains_iff_mem.1 hscheme⟩
      · rintro ⟨rfl, -⟩
        rfl
    case isFalse hscheme =>
      refine iff_of_false nofun ?_
      rintro ⟨rfl, hmem⟩
      exact hscheme (List.contains_iff_mem.2 hmem)

namespace Settings

/-- The settings with one of them replaced. -/
def assign (s : Settings) (f : SettingField) (v : Value) : Except SettingIssue Settings :=
  match f with
  | .appName => do return { s with appName := ← textSetting v }
  | .environment => do return { s with environment := ← choiceSetting RunMode.all RunMode.name v }
  | .databaseUrl => do return { s with databaseUrl := ← urlSetting v }
  | .dbEcho => do return { s with dbEcho := ← truthSetting v }
  | .logLevel => do return { s with logLevel := ← choiceSetting Level.all Level.settingName v }
  | .logFormat => do return { s with logFormat := ← choiceSetting LogFormat.all LogFormat.name v }

/-- A setting as a value. -/
def get (s : Settings) : SettingField → Value
  | .appName => .str s.appName
  | .environment => .str s.environment.name
  | .databaseUrl => .str s.databaseUrl
  | .dbEcho => .bool s.dbEcho
  | .logLevel => .str s.logLevel.settingName
  | .logFormat => .str s.logFormat.name

end Settings

end TableDdl
