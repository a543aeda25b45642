import TableDdl.Settings

/-!
# Where settings come from

Each setting is taken from the first source that has it: the arguments of the program, the variables
of the environment, the entries of an environment file, or the default. An argument has the name of
its setting, in any case, and of several arguments for a setting the first counts. Variables and
entries have a prefix before that name, and of several for a setting the last counts; a
`VariableRule` says how they are read. Other names mean nothing, and an entry without a value is as
good as absent.

`Settings.load` reads every setting on its own and reports all that are not accepted.
-/

namespace TableDdl

/-- How the variables of an environment and the entries of a file are read. -/
structure VariableRule where
  namePrefix : String := "TABLEGEN_"
  /-- The case of a name matters. -/
  caseSensitive : Bool := false
  /-- An empty text is as good as absent. -/
  skipsEmpty : Bool := false
  /-- The text that stands for the absent value, which no setting accepts. -/
  noneText : Option String := none
  deriving DecidableEq, Repr

namespace VariableRule

/-- A variable of this name is for the setting. -/
def names (r : VariableRule) (f : SettingField) (name : String) : Bool :=
  if r.caseSensitive then name == r.namePrefix ++ f.name
  else Unicode.lower name == Unicode.lower (r.namePrefix ++ f.name)

def value (r : VariableRule) (text : String) : Value :=
  if r.noneText = some text then .none else .str text

/-- The text of the last variable with such a name. -/
def last? (r : VariableRule) (isNamed : String → Bool) (held : List (String × Option String)) :
    Option String :=
  let counts (v : String × Option String) : Bool :=
    isNamed v.1 && !(r.skipsEmpty && v.2 == some "")
  (held.filter counts).getLast?.bind Prod.snd

/-- What the variables say about a setting. -/
def find? (r : VariableRule) (f : SettingField) (held : List (String × Option String)) :
    Option Value :=
  (r.last? (r.names f) held).map r.value

/-- What entries say that have a prefix of their own. Nothing is said by an empty text or the one
that stands for the absent value, and the prefix is lower case where case does not matter. -/
def findPrefixed? (r : VariableRule) (namePrefix : String) (f : SettingField)
    (held : List (String × Option String)) : Option Value :=
  let isNamed (name : String) : Bool :=
    (if r.caseSensitive then name else Unicode.lower name) == namePrefix ++ f.name
  ((r.last? isNamed held).filter fun t => t != "" && r.noneText != some t).map .str

end VariableRule

structure Sources where
  arguments : List (String × Value) := []
  environment : List (String × String) := []
  /-- The entries of an environment file; an entry can lack a value. -/
  entries : List (String × Option String) := []
  rule : VariableRule := {}
  /-- A prefix with which entries count as well, and before others. -/
  entryPrefix : Option String := none

namespace Sources

/-- What the first source that has a setting gives for it. -/
def raw? (s : Sources) (f : SettingField) : Option Value :=
  ((s.arguments.find? fun a => Unicode.lower a.1 == f.name).map Prod.snd)
    <|> s.rule.find? f (s.environment.map fun v => (v.1, some v.2))
    <|> (s.entryPrefix.bind fun p => s.rule.findPrefixed? p f s.entries)
    <|> s.rule.find? f s.entries

end Sources

namespace Settings

/-- Read one setting into settings and problems. -/
def loadField (sources : Sources) (acc : Settings × List SettingError) (f : SettingField) :
    Settings × List SettingError :=
  match sources.raw? f with
  | none => acc
  | some v =>
    match acc.1.assign f v with
    | .ok s => (s, acc.2)
    | .error issue => (acc.1, acc.2 ++ [⟨f, issue⟩])

def load (sources : Sources) : Except (List SettingError) Settings :=
  match SettingField.all.foldl (loadField sources) ({}, []) with
  | (s, []) => .ok s
  | (_, problems) => .error problems

end Settings

end TableDdl
