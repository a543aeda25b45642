import TableDdl.Settings.CommandLine.Folding
import TableDdl.Settings.CommandLine.Spelling
import TableDdl.Settings.Input
import TableDdl.Unicode.Identifier

/-!
# Settings from a command line

A command line is one of the arguments, and others say how it is read:

* `_cli_parse_args`: the words, of which there are none if it is true; without it there is no
  command line, and if it is false or zero nothing is read;
* `_cli_prefix`, `_cli_flag_prefix_char`, `_cli_kebab_case`, `_cli_implicit_flags`,
  `_cli_shortcuts`: the `OptionRule`;
* `_case_sensitive`: false if words are folded, which they are without it;
* `_env_parse_none_str`, `_cli_parse_none_str`, `_cli_avoid_json`: the text that stands for the
  absent value;
* `_cli_ignore_unknown_args`: stray words do no harm;
* `_cli_exit_on_error`: whether a line that cannot be read ends the program.

`SettingsInput.options` are the settings of the command line.
-/

namespace TableDdl.SettingsInput

open CommandLine

/-- A prefix is an identifier but for points within it, and gets a point after it. -/
def optionPrefix (input : SettingsInput) : Except SourceFault String :=
  match input.argument? "_cli_prefix" with
  | none => .ok ""
  | some v =>
    match v.text? with
    | some text =>
      let name := text.content
      if name == "" then .ok ""
      else if name.startsWith "." || name.endsWith "."
          || !Unicode.isIdentifier (String.ofList (name.toList.filter (· != '.'))) then
        .error .badOptionPrefix
      else .ok (name ++ ".")
    | none =>
      match v with
      | .bytes _ => .error .wrongKind
      | _ => .error (if v.truthy then .withoutParts else .wrongKind)

/-- The sign of options, if it is text. -/
def optionSign? (input : SettingsInput) : Except SourceFault (Option String) :=
  match input.argument? "_cli_flag_prefix_char" with
  | none => .ok (some "-")
  | some (.list vs) | some (.tuple vs) => if vs.isEmpty then .error .emptySign else .ok none
  | some v =>
    match v.text? with
    | none => .error .wrongKind
    | some text => if text.isEmpty then .error .emptySign else .ok (some text.content)

/-- The texts of a text or a collection. -/
def shortcutNames? (v : Value) : Option (List String) :=
  match v.text? with
  | some text => some [text.content]
  | none => v.elements?.bind fun vs => vs.mapM fun e => e.text?.map Text.content

def shortcuts (input : SettingsInput) :
    Except SourceFault (List (String × Option (List String))) :=
  match input.set? "_cli_shortcuts" with
  | none => .ok []
  | some (.dict entries) => .ok (entries.filterMap fun e =>
      e.1.text?.map fun target => (target.content, shortcutNames? e.2))
  | some _ => .error .withoutParts

def truthForm (input : SettingsInput) : TruthForm :=
  match input.set? "_cli_implicit_flags" with
  | none => .value
  | some v => if v.text?.any (·.content == "toggle") then .single else .pair

def optionTable (input : SettingsInput) : Except SourceFault OptionTable := do
  let namePrefix ← input.optionPrefix
  let sign? ← input.optionSign?
  let rule : OptionRule := {
    sign := sign?.getD ""
    namePrefix
    hyphens := input.hasFlag "_cli_kebab_case"
    truth := input.truthForm
    shortcuts := ← input.shortcuts }
  let fault : TableFault → SourceFault
    | .nameNotText => .wrongKind
    | .takenTwice => .optionTwice
  let _ ← (rule.names [] .appName).mapError fault
  if sign?.isNone then throw .signNotText
  rule.table.mapError fault

/-- Words are folded unless case matters. What counts as not set is then an empty word, and is
otherwise a word of its own kind. -/
def wordsOf (input : SettingsInput) (sign : List Char) (vs : List Value) :
    Except SourceFault (List Value) := do
  let word (v : Value) : Except SourceFault String :=
    if v.truthy then v.text?.elim (.error .wrongKind) (.ok ·.content) else .ok ""
  match input.argument? "_case_sensitive" with
  | none | some (.bool false) =>
    let words ← vs.mapM word
    match signPattern? sign with
    | some pattern => return words.map (.str <| foldWord pattern ·)
    | none => if words.isEmpty then return [] else throw .signNotPlain
  | some _ =>
    let _ ← (vs.takeWhile (· != .str "--")).mapM word
    return vs

/-- The text that stands for the absent value, if any does. -/
def absentText? (input : SettingsInput) : Option String :=
  match input.set? "_env_parse_none_str" <|> input.set? "_cli_parse_none_str" with
  | some v => v.text?.map Text.content
  | none => if input.argument? "_cli_avoid_json" == some (.bool true) then "None" else "null"

/-- What a line says, if nothing is wrong with it. Stray words are named in the message that refuses
them, so they have to be text. -/
def readLine (input : SettingsInput) (table : OptionTable) (vs : List Value) :
    Except SourceFault Reading := do
  let exits := ((input.argument? "_cli_exit_on_error").map Value.truthy).getD true
  match table.read (← input.wordsOf table.signs vs) with
  | .error .asksHelp => throw .helpWanted
  | .error .malformed => throw (.unreadableCommandLine exits)
  | .ok reading =>
    if !reading.stray.isEmpty && !input.hasFlag "_cli_ignore_unknown_args" then
      let isText := reading.stray.all (·.text?.isSome)
      throw (if isText then .unreadableCommandLine exits else .wrongKind)
    return reading

/-- The values of a line as arguments. An absent value is none, unless a text stands for it. -/
def argumentsOf (input : SettingsInput) (reading : Reading) :
    Except SourceFault (List (String × Value)) := do
  let given := SettingField.all.filterMap fun f => (reading.value? f).map fun v => (f.name, v)
  if given.any (·.2 == .list []) then throw .emptyListGiven
  return (given.filter (!·.2.isNone)).map fun (name, v) =>
    (name, if v.text?.any (some ·.content == input.absentText?) then .none else v)

/-- The settings of the command line, as arguments. -/
def options (input : SettingsInput) : Except SourceFault (List (String × Value)) := do
  match input.argument? "_cli_parse_args" with
  | none => return []
  | some line =>
    let table ← input.optionTable
    if line == .bool false || line.number?.any (!·.truthy) then return []
    match line with
    | .bool _ => input.argumentsOf (← input.readLine table [])
    | .list vs | .tuple vs => input.argumentsOf (← input.readLine table vs)
    | _ => throw .notACommandLine

end TableDdl.SettingsInput
