import TableDdl.Settings.Source
import TableDdl.Unicode.Blank

/-!
# Environment files

An environment file is a list of lines `NAME=value`. A line may begin with `export`, end in a
comment, and be blank. The name can stand in single quotes. A value can stand in single or double
quotes, and then run over several lines and hold escapes; otherwise it ends with the line or where a
blank comes before a `#`, be it the blank after the equals sign. A line that fits none of this is
skipped. A name without an equals sign has no value. A byte order mark in front of it all is no part
of the text.

`${NAME}` in a value stands for an earlier entry or a variable of the environment, and
`${NAME:-text}` for `text` where there is neither.
-/

namespace TableDdl.EnvFile

/-! ## Lines -/

def isLineEnd (c : Char) : Bool := c == '\n' || c == '\r'

/-- Blank within a line. -/
def isSpace (c : Char) : Bool := Unicode.isBlank c && !isLineEnd c

/-- All three kinds of line end become the same one. -/
def unifyLineEnds : List Char → List Char
  | [] => []
  | '\r' :: '\n' :: cs => '\n' :: unifyLineEnds cs
  | '\r' :: cs => '\n' :: unifyLineEnds cs
  | c :: cs => c :: unifyLineEnds cs

/-- What follows `export` and at least one blank, if the text begins so. -/
def skipExport (cs : List Char) : List Char :=
  if "export".toList.isPrefixOf cs then
    let rest := cs.drop 6
    if (rest.head?.map isSpace).getD false then rest.dropWhile isSpace else cs
  else cs

/-- What follows a comment that ends the line, if there is one. -/
def skipComment (cs : List Char) : List Char :=
  match cs.dropWhile isSpace with
  | '#' :: rest => rest.dropWhile (!isLineEnd ·)
  | _ => cs

/-- What follows the end of a line, which blanks may precede. -/
def lineEnd? (cs : List Char) : Option (List Char) :=
  match cs.dropWhile isSpace with
  | [] => some []
  | c :: rest => if isLineEnd c then some rest else none

def skipLine (cs : List Char) : List Char := (cs.dropWhile (!isLineEnd ·)).drop 1

/-! ## Names and values -/

/-- The text up to the closing quote and what follows it. What comes after a backslash does not
close. -/
def closeQuote (quote : Char) : List Char → Option (List Char × List Char)
  | [] => none
  | [c] => if c = quote then some ([], []) else none
  | c :: d :: cs =>
    if c = quote then some ([], d :: cs)
    else if c = '\\' then (closeQuote quote cs).map fun r => (c :: d :: r.1, r.2)
    else (closeQuote quote (d :: cs)).map fun r => (c :: r.1, r.2)

/-- The escapes that double quotes know besides the quotes and the backslash. -/
def controlEscape? : Char → Option Char
  | 'a' => some '\x07'
  | 'b' => some '\x08'
  | 'f' => some '\x0c'
  | 'n' => some '\n'
  | 'r' => some '\r'
  | 't' => some '\t'
  | 'v' => some '\x0b'
  | _ => none

/-- What a backslash and a character stand for between the given quotes. -/
def escape? (quote c : Char) : Option Char :=
  if c = '\\' ∨ c = '\'' then some c
  else if quote = '"' then if c = '"' then some c else controlEscape? c
  else none

def unescape (quote : Char) : List Char → List Char
  | [] => []
  | [c] => [c]
  | c :: d :: cs =>
    if c = '\\' then
      match escape? quote d with
      | some e => e :: unescape quote cs
      | none => c :: unescape quote (d :: cs)
    else c :: unescape quote (d :: cs)

/-- The part of an unquoted value before a comment: a `#` after a blank starts one. -/
def beforeComment : Bool → List Char → List Char
  | _, [] => []
  | afterBlank, c :: cs =>
    if afterBlank && c == '#' then [] else c :: beforeComment (Unicode.isBlank c) cs

/-- A value and what follows it, from what comes after the equals sign. -/
def value? (cs : List Char) : Option (List Char × List Char) :=
  let text := cs.dropWhile isSpace
  let afterBlank := text.length < cs.length
  match text with
  | [] => some ([], [])
  | c :: rest =>
    if c = '\'' ∨ c = '"' then (closeQuote c rest).map fun r => (unescape c r.1, r.2)
    else
      let line := text.takeWhile (!isLineEnd ·)
      some (Unicode.trimEnd Unicode.isBlank (beforeComment afterBlank line),
        text.dropWhile (!isLineEnd ·))

/-- A name and what follows it; a comment has no name. -/
def name? (cs : List Char) : Option (Option (List Char) × List Char) :=
  match cs with
  | '#' :: _ => some (none, cs)
  | '\'' :: rest =>
    let name := rest.takeWhile (· != '\'')
    match rest.dropWhile (· != '\'') with
    | _ :: after => if name.isEmpty then none else some (some name, after)
    | [] => none
  | _ =>
    let plain (c : Char) : Bool := c != '=' && c != '#' && !Unicode.isBlank c
    if (cs.takeWhile plain).isEmpty then none
    else some (some (cs.takeWhile plain), cs.dropWhile plain)

/-- One line without its end: the entry, if it has one, and what follows it. Where the line fits no
form, the rest of it is left to be skipped. -/
def line (cs : List Char) : Except (List Char) (Option (List Char × Option (List Char)) × List Char) :=
  let start := skipExport cs
  match name? start with
  | none => .error start
  | some (name, rest) =>
    let rest := rest.dropWhile isSpace
    let entry (value : Option (List Char)) := name.map fun n => (n, value)
    let finish (value : Option (List Char)) (rest : List Char) :=
      match lineEnd? (skipComment rest) with
      | some after => .ok (entry value, after)
      | none => .error (skipComment rest)
    match rest with
    | '=' :: rest =>
      match value? rest with
      | some (value, after) => finish (some value) after
      | none => .error rest
    | _ => finish none rest

/-- The entries of a file, at most one for each unit of fuel. -/
def parseFrom : Nat → List Char → List (List Char × Option (List Char))
  | 0, _ => []
  | fuel + 1, cs =>
    match cs.dropWhile Unicode.isBlank with
    | [] => []
    | start =>
      match line start with
      | .ok (entry, rest) => entry.toList ++ parseFrom fuel rest
      | .error rest => parseFrom fuel (skipLine rest)

def skipByteOrderMark : List Char → List Char
  | '\uFEFF' :: cs => cs
  | cs => cs

/-- Every line takes a character, so the length of the text is fuel enough. -/
def parse (text : String) : List (String × Option String) :=
  let cs := unifyLineEnds (skipByteOrderMark text.toList)
  (parseFrom (cs.length + 1) cs).map fun e => (String.ofList e.1, e.2.map String.ofList)

/-! ## References to other entries -/

/-- `NAME}` or `NAME:-text}`: the name, the text if there is one, and what follows. -/
def reference? (cs : List Char) : Option (List Char × List Char × List Char) :=
  let inName (c : Char) : Bool := c != '}' && c != ':'
  let name := cs.takeWhile inName
  match cs.dropWhile inName with
  | '}' :: rest => some (name, [], rest)
  | ':' :: '-' :: rest =>
    match rest.dropWhile (· != '}') with
    | _ :: after => some (name, rest.takeWhile (· != '}'), after)
    | [] => none
  | _ => none

/-- A value with its references replaced. `meaning` gives the text of a name, which may be an entry
without a value. -/
def expand (meaning : String → Option (Option String)) : Nat → List Char → List Char
  | 0, cs => cs
  | _, [] => []
  | fuel + 1, c :: cs =>
    let reference := match c, cs with
      | '$', '{' :: rest => reference? rest
      | _, _ => none
    match reference with
    | some (name, default, rest) =>
      let text := match meaning (String.ofList name) with
        | some (some s) => s.toList
        | some none => []
        | none => default
      text ++ expand meaning fuel rest
    | none => c :: expand meaning fuel cs

/-- Write an entry in the place of one with the same name, or at the end. -/
def putEntry : List (String × Option String) → String → Option String → List (String × Option String)
  | [], name, v => [(name, v)]
  | (n, w) :: es, name, v => if n = name then (n, v) :: es else (n, w) :: putEntry es name v

/-- The entries with their references replaced, each name once with its last value. -/
def resolve (environment : List (String × String)) (parsed : List (String × Option String)) :
    List (String × Option String) :=
  parsed.foldl
    (fun done e =>
      let meaning (name : String) : Option (Option String) :=
        done.lookup name <|> (environment.lookup name).map some
      let value := e.2.map fun v =>
        String.ofList (expand meaning (v.toList.length + 1) v.toList)
      putEntry done e.1 value)
    []

def entries (environment : List (String × String)) (text : String) : List (String × Option String) :=
  resolve environment (parse text)

end TableDdl.EnvFile
