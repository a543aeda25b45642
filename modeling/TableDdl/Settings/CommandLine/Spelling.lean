import TableDdl.Settings.CommandLine

/-!
# How options are spelled

Each setting has an option of its own name. An `OptionRule` says what differs: a prefix before the
name, the sign in front, hyphens in place of underscores, shortcuts, and whether `db_echo` takes a
value or is given by the option alone. `OptionRule.table` is the table of all options, with help.

A name that an earlier setting has is not given to another one.
-/

namespace TableDdl.CommandLine

/-- How the one setting that is true or false is given. -/
inductive TruthForm where
  /-- By a value, as every other setting. -/
  | value
  /-- By an option that makes it true. -/
  | single
  /-- By two options, of which `--no-…` makes it false. -/
  | pair
  deriving DecidableEq, Repr

structure OptionRule where
  sign : String := "-"
  namePrefix : String := ""
  /-- Names have hyphens in place of underscores. -/
  hyphens : Bool := false
  truth : TruthForm := .value
  /-- More names for a name; `none` where the names are no text. -/
  shortcuts : List (String × Option (List String)) := []
  deriving DecidableEq, Repr

inductive TableFault where
  /-- A name is no text. -/
  | nameNotText
  /-- An option would do two things. -/
  | takenTwice
  deriving DecidableEq, Repr

namespace OptionRule

/-- A name of one character has one sign in front, any other has two. -/
def spell (r : OptionRule) (name : String) : String :=
  let signs := (r.sign ++ r.sign).toList.take (if name.length == 1 then 1 else 2)
  String.ofList signs ++ name

def name (r : OptionRule) (f : SettingField) : String :=
  let full := r.namePrefix ++ f.name
  if r.hyphens then String.ofList (full.toList.map fun c => if c = '_' then '-' else c) else full

/-- The names of a setting that are not taken. A shortcut can have shortcuts. -/
def names (r : OptionRule) (taken : List String) (f : SettingField) :
    Except TableFault (List String) :=
  let free (names : List String) := names.filter (!taken.contains ·)
  r.shortcuts.foldlM (fun names shortcut =>
    if !names.contains shortcut.1 then .ok names
    else shortcut.2.elim (.error .nameNotText) fun more => .ok (names ++ free more))
    (free [r.name f])

/-- The options of a setting, as they are spelled. -/
def spellings (r : OptionRule) (f : SettingField) (names : List String) :
    List (String × Action) :=
  let pair (spelling : String) : List (String × Action) :=
    let negation := String.ofList ("--no-".toList ++ spelling.toList.drop 2)
    (spelling, .mark f !(spelling.startsWith "--no-"))
      :: if spelling.startsWith "--" then [(negation, .mark f false)] else []
  let spelled := names.map r.spell
  match f, r.truth with
  | .dbEcho, .single => spelled.map (·, .mark f true)
  | .dbEcho, .pair => spelled.flatMap pair
  | _, _ => spelled.map (·, .take f)

end OptionRule

/-- Add options to others, none of which is spelled in the same way. -/
def join (options more : List (String × Action)) : Except TableFault (List (String × Action)) :=
  if more.any fun o => (options.lookup o.1).isSome then .error .takenTwice
  else .ok (options ++ more)

namespace OptionRule

/-- Add the options of a setting, if it has names left. -/
def add (r : OptionRule) (acc : List String × List (String × Action)) (f : SettingField) :
    Except TableFault (List String × List (String × Action)) := do
  let names ← r.names acc.1 f
  if names.isEmpty || acc.1.contains (r.namePrefix ++ f.name) then return acc
  return (acc.1 ++ names, ← join acc.2 (r.spellings f names))

def table (r : OptionRule) : Except TableFault OptionTable := do
  let (_, options) ← SettingField.all.foldlM r.add ([], [])
  let options ← join options [(r.spell "h", .help), (r.spell "help", .help)]
  return { signs := r.sign.toList, options }

end OptionRule

end TableDdl.CommandLine
