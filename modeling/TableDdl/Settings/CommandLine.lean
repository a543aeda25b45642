import TableDdl.Settings
import TableDdl.Unicode.Digit

/-!
# Command lines

A command line is a list of words, and words are text. An `OptionTable` says which options there are
and what each of them does. `OptionTable.read` goes through a line from left to right:

* An option that takes a value has it in its own word (`--name=value`, `-nvalue`) or is followed by
  it, and nothing else is good enough.
* An option without a value can share its word with others if it has one sign and one character:
  `-ab` is `-a` and `-b`. What is left over when no option goes on is stray.
* Any other word that is no option is stray, and from `--` on every word is.

A word with a sign in front is no value, but for negative numbers and words with a space in them.
-/

namespace TableDdl.CommandLine

/-- What an option does. -/
inductive Action where
  /-- Gives a setting the value that follows. -/
  | take (f : SettingField)
  /-- Gives a setting this value. -/
  | mark (f : SettingField) (b : Bool)
  | help
  deriving DecidableEq, Repr

structure OptionTable where
  /-- The characters with which an option begins. -/
  signs : List Char
  /-- The options as they are spelled. -/
  options : List (String × Action)

/-- What a line says. -/
structure Reading where
  /-- Values for settings; the last one for a setting counts. -/
  given : List (SettingField × Value) := []
  stray : List Value := []
  asksHelp : Bool := false

instance : Append Reading where
  append r s := {
    given := r.given ++ s.given
    stray := r.stray ++ s.stray
    asksHelp := r.asksHelp || s.asksHelp }

inductive LineFault where
  /-- An option lacks a value, or has one that it cannot take. -/
  | malformed
  | asksHelp
  deriving DecidableEq, Repr

/-- What a word of a line is. -/
inductive Word where
  | value
  | unknown
  /-- No option comes after this word. -/
  | divider
  /-- An option with what is attached to it, which is a value if an equals sign begins it. -/
  | option (spelling : List Char) (action : Action) (attached : List Char)

/-- A number with a minus sign; one line break at the very end is let through. -/
def isNegativeNumber (word : List Char) : Bool :=
  let isDigit (c : Char) : Bool := (Unicode.digit? c).isSome
  match if word.getLast? = some '\n' then word.dropLast else word with
  | '-' :: number =>
    match number.dropWhile isDigit with
    | [] => !number.isEmpty
    | '.' :: fraction => !fraction.isEmpty && fraction.all isDigit
    | _ => false
  | _ => false

/-- What an option says that takes no value. -/
def Action.alone : Action → Reading
  | .take _ => {}
  | .mark f b => { given := [(f, .bool b)] }
  | .help => { asksHelp := true }

namespace OptionTable

def action? (t : OptionTable) (spelling : List Char) : Option Action :=
  t.options.lookup (String.ofList spelling)

/-- A long option has two signs. -/
def isLong (t : OptionTable) (word : List Char) : Bool := word[1]?.any t.signs.contains

/-- An option is a whole word, or ends at an equals sign, or has one sign and one character. -/
def option? (t : OptionTable) (word : List Char) : Option Word :=
  let spelled (spelling attached : List Char) : Option Word :=
    (t.action? spelling).map fun action => .option spelling action attached
  spelled word []
    <|> spelled (word.takeWhile (· != '=')) (word.dropWhile (· != '='))
    <|> if t.isLong word then none else spelled (word.take 2) (word.drop 2)

/-- With an option that looks like a negative number, no negative number is a value. -/
def hasNumbers (t : OptionTable) : Bool := t.options.any fun o => isNegativeNumber o.1.toList

def word (t : OptionTable) (v : Value) : Word :=
  match v.text?.map (·.content.toList) with
  | none | some [] => .value
  | some ['-', '-'] => .divider
  | some (c :: cs) =>
    if !t.signs.contains c then .value
    else
      match t.option? (c :: cs) with
      | some option => option
      | none =>
        let isNumber := isNegativeNumber (c :: cs) && !t.hasNumbers
        if cs.isEmpty || isNumber || (c :: cs).contains ' ' then .value else .unknown

def isValue (t : OptionTable) (v : Value) : Bool :=
  match t.word v with
  | .value => true
  | _ => false

/-- What the options in one word say, and the setting whose value the next word is. -/
def follow (t : OptionTable) (spelling : List Char) (action : Action) (attached : List Char) :
    Option (Reading × Option SettingField) :=
  match action, attached with
  | .take f, [] => some ({}, some f)
  | .take f, c :: cs =>
    let value := if c = '=' then cs else c :: cs
    some ({ given := [(f, .str (String.ofList value))] }, none)
  | action, [] => some (action.alone, none)
  | action, c :: cs =>
    if t.isLong spelling || c == '=' || t.signs.contains c then none
    else
      let next := spelling.take 1 ++ [c]
      match t.action? next with
      | none => some (action.alone ++ { stray := [.str (String.ofList (next ++ cs))] }, none)
      | some action' => (t.follow next action' cs).map fun r => (action.alone ++ r.1, r.2)

/-- Go on with the rest of a line, unless help is asked for. -/
def andThen (said : Reading) (rest : Except LineFault Reading) : Except LineFault Reading :=
  if said.asksHelp then .error .asksHelp else rest.map (said ++ ·)

def read (t : OptionTable) : List Value → Except LineFault Reading
  | [] => .ok {}
  | v :: rest =>
    match t.word v with
    | .divider => .ok { stray := v :: rest }
    | .value | .unknown => andThen { stray := [v] } (t.read rest)
    | .option spelling action attached =>
      match t.follow spelling action attached, rest with
      | some (said, none), rest => andThen said (t.read rest)
      | some (said, some f), value :: rest =>
        if t.isValue value then andThen (said ++ { given := [(f, value)] }) (t.read rest)
        else .error .malformed
      | _, _ => .error .malformed

end OptionTable

/-- The value that counts for a setting. -/
def Reading.value? (r : Reading) (f : SettingField) : Option Value := r.given.reverse.lookup f

end TableDdl.CommandLine
