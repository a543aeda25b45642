import TableDdl.Settings.Source
import TableDdl.Unicode.Decoder

/-!
# What settings are read from

The arguments of a program, the variables of its environment and the text of its environment file,
as they are given. Some arguments are for no setting but say how settings are read; their names
begin with an underscore. Where they are absent, so is their effect, and the first of them that
cannot be followed is the reason why there are no sources: a `SourceFault`.
-/

namespace TableDdl

inductive SourceFault where
  /-- No environment can hold such a variable, or no file can be opened so. -/
  | impossibleText
  | namelessVariable
  /-- An argument is of a kind that it cannot be. -/
  | wrongKind
  | prefixNotText
  | unknownEncoding
  | decoding (fault : Unicode.DecodingFault)
  | notADirectory
  /-- A prefix of options is no text, or shortcuts are no dictionary. -/
  | withoutParts
  | badOptionPrefix
  /-- Options cannot begin with nothing, and not with a list. -/
  | emptySign
  | signNotText
  /-- A sign of options cannot be looked for. -/
  | signNotPlain
  | optionTwice
  | notACommandLine
  | emptyListGiven
  | helpWanted
  /-- A command line that cannot be read ends the program. -/
  | unreadableCommandLine (endsProgram : Bool)
  deriving DecidableEq, Repr

structure SettingsInput where
  arguments : List (String × Value) := []
  environment : List (String × String) := []
  /-- The text of the environment file, if there is one. -/
  file : Option String := none

namespace SettingsInput

/-- An argument that is there and not absent by its value. -/
def argument? (input : SettingsInput) (name : String) : Option Value :=
  (input.arguments.lookup name).filter (!·.isNone)

/-- An argument that counts as set. -/
def set? (input : SettingsInput) (name : String) : Option Value :=
  (input.argument? name).filter Value.truthy

def hasFlag (input : SettingsInput) (name : String) : Bool := (input.set? name).isSome

end SettingsInput

end TableDdl
