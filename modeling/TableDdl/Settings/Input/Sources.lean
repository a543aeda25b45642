import TableDdl.Settings.EnvFile
import TableDdl.Settings.Input.CommandLine
import TableDdl.Unicode.Encoding

/-!
# Sources from what is given

Beside the arguments for the command line there are these for the environment and its file:

* `_case_sensitive`, `_env_prefix`, `_env_ignore_empty`, `_env_parse_none_str`: the `VariableRule`;
  `_env_prefix_target`: whether the prefix is for variables, or else for some entries only;
* `_env_file`: the files to read in place of `.env`, `_env_file_encoding`: their encoding;
* `_secrets_dir`: directories of files that hold a setting each, of which there are none;
* `_env_nested_max_split`: of no use, but it has to be a number.

`SettingsInput.sources` reads all of it.
-/

namespace TableDdl

/-- A variable has a name without an equals sign, and neither in its name nor in its text there is
the character zero. -/
def checkVariable (v : String × String) : Except SourceFault Unit :=
  if v.1.contains '\x00' || v.2.contains '\x00' || v.1.contains '=' then
    .error .impossibleText
  else if v.1.isEmpty then .error .namelessVariable
  else .ok ()

/-- One text, or a collection of texts. -/
def textsOf (v : Value) : Except SourceFault (List String) :=
  match v.text?, v.elements? with
  | some t, _ => .ok [t.content]
  | none, some vs => vs.mapM fun e => e.text?.elim (.error .wrongKind) (.ok ·.content)
  | none, none => .error .wrongKind

/-- The environment file lies where the program runs. -/
def namesEnvironmentFile (path : String) : Bool :=
  !path.startsWith "/" && (path.splitOn "/").filter (fun part => part != "" && part != ".") == [".env"]

namespace SettingsInput

def noneText? (input : SettingsInput) : Option String :=
  ((input.argument? "_env_parse_none_str").bind Value.text?).map Text.content

/-- The prefix goes before the names of variables, and not only before other names. -/
def prefixesVariables (input : SettingsInput) : Bool :=
  match input.argument? "_env_prefix_target" with
  | none => true
  | some v => (v.text?.map Text.content).any fun target => target == "variable" || target == "all"

/-- A number of splits; what counts as not set is none. -/
def checkSplits (input : SettingsInput) : Except SourceFault Unit :=
  match input.set? "_env_nested_max_split" with
  | none | some (.bool _) => .ok ()
  | some v => if v.number?.isSome then .ok () else .error .wrongKind

/-- The environment file is among the files to read. -/
def readsFile (input : SettingsInput) : Except SourceFault Bool :=
  match input.arguments.lookup "_env_file" with
  | none => .ok true
  | some .none => .ok false
  | some v => (textsOf v).map (·.any namesEnvironmentFile)

/-- The text of the file, if its bytes are read in the encoding asked for. -/
def decodeFile (input : SettingsInput) (text : String) : Except SourceFault String :=
  match input.set? "_env_file_encoding" with
  | none => .ok text
  | some v =>
    match v.text? with
    | none => .error .wrongKind
    | some name =>
      if name.content.contains '\x00' then .error .impossibleText
      else
        match Unicode.Encoding.ofName? name.content with
        | none => .error .unknownEncoding
        | some encoding => (encoding.decode text.toUTF8.data.toList).mapError .decoding

def entries (input : SettingsInput) : Except SourceFault (List (String × Option String)) := do
  match input.file, ← input.readsFile with
  | some text, true => return EnvFile.entries input.environment (← input.decodeFile text)
  | _, _ => return []

def checkSecrets (input : SettingsInput) : Except SourceFault Unit := do
  let paths ← ((input.argument? "_secrets_dir").map textsOf).getD (.ok [])
  if input.file.isSome && paths.any namesEnvironmentFile then throw .notADirectory

/-- Collections can be measured, but no name begins with one. -/
def sources (input : SettingsInput) : Except SourceFault Sources := do
  input.environment.forM checkVariable
  let namePrefix := (input.argument? "_env_prefix").getD (.str ({} : VariableRule).namePrefix)
  if namePrefix.elements?.isNone then throw .wrongKind
  input.checkSplits
  let entries ← input.entries
  let options ← input.options
  let namePrefix ← namePrefix.text?.elim (throw .prefixNotText) (pure ·.content)
  input.checkSecrets
  return {
    arguments := options ++ input.arguments
    environment := input.environment
    entries
    entryPrefix := if input.prefixesVariables then none else some namePrefix
    rule := {
      namePrefix := if input.prefixesVariables then namePrefix else ""
      caseSensitive := input.hasFlag "_case_sensitive"
      skipsEmpty := input.hasFlag "_env_ignore_empty"
      noneText := input.noneText? } }

end SettingsInput

end TableDdl
