import TableDdl.Unicode.Blank
import TableDdl.Unicode.Case
import TableDdl.Unicode.Digit
import TableDdl.Unicode.Word

/-!
# Words without regard to case

Where case does not matter, a word with one or two signs in front is folded: it is lower-cased up to
its first blank or equals sign, and loses what follows its first line break after that. Words that
are values of options are no exception.

The sign of options is looked for by a pattern, in which an escape mark goes before it. So a letter
as the sign stands for a kind of characters or for a control character, and most stand for nothing.
-/

namespace TableDdl.CommandLine

/-- Tests for the characters of a sign. -/
abbrev SignPattern := List (Char → Bool)

/-- What a character stands for after an escape mark. -/
def escaped? (c : Char) : Option (Char → Bool) :=
  let isDigit (d : Char) : Bool := (Unicode.digit? d).isSome
  match c with
  | '0' => some (· == '\x00')
  | 'a' => some (· == '\x07')
  | 't' => some (· == '\t')
  | 'n' => some (· == '\n')
  | 'v' => some (· == '\x0b')
  | 'f' => some (· == '\x0c')
  | 'r' => some (· == '\r')
  | 'd' => some isDigit
  | 'D' => some (!isDigit ·)
  | 's' => some Unicode.isBlank
  | 'S' => some (!Unicode.isBlank ·)
  | 'w' => some Unicode.isWord
  | 'W' => some (!Unicode.isWord ·)
  | c => if c.isAlphanum then none else some (· == c)

/-- The pattern of a sign, if it is one: a sign of several characters does not end in a mark that
has a meaning of its own in patterns, save the point, which stands for any character of a line. -/
def signPattern? : List Char → Option SignPattern
  | [] => none
  | c :: cs =>
    if cs.getLast?.any "*+?^$|()".toList.contains then none
    else (escaped? c).map (· :: cs.map fun d e => if d == '.' then e != '\n' else e == d)

/-- A name ends at a blank or an equals sign. -/
def isNameChar (c : Char) : Bool := !Unicode.isBlank c && c != '='

/-- A word as a sign with a name, and what follows. -/
def splitName? (p : SignPattern) (word : List Char) : Option (List Char × List Char) :=
  let (sign, rest) := word.splitAt p.length
  let name := rest.takeWhile isNameChar
  if sign.length == p.length && (p.zip sign).all (fun m => m.1 m.2) && !name.isEmpty then
    some (sign ++ name, rest.dropWhile isNameChar)
  else none

/-- The last character of a sign may come twice. -/
def foldWord (p : SignPattern) (word : String) : String :=
  match splitName? (p ++ p.getLast?.toList) word.toList <|> splitName? p word.toList with
  | some (name, rest) =>
    Unicode.lower (String.ofList name) ++ String.ofList (rest.takeWhile (· != '\n'))
  | none => word

end TableDdl.CommandLine
