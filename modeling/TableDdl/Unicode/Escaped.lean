import TableDdl.Unicode.Decoder
import TableDdl.Unicode.Name

/-!
# Text with escapes

A byte stands for the code point of the same number, and a backslash begins an escape: the number of
a code point in hexadecimal or octal digits, the name of a character, a control character, a character
that is otherwise special, or an end of line that is no part of the text. A backslash before another
character stands for itself.

In the raw form, the only escapes are `u` and `U` with a hexadecimal number.
-/

namespace TableDdl.Unicode.Escaped

def hexDigit? (c : Char) : Option Nat :=
  if '0' ≤ c ∧ c ≤ '9' then some (c.toNat - 48)
  else if 'a' ≤ c ∧ c ≤ 'f' then some (c.toNat - 87)
  else if 'A' ≤ c ∧ c ≤ 'F' then some (c.toNat - 55)
  else none

def isOctal (c : Char) : Bool := decide ('0' ≤ c ∧ c ≤ '7')

abbrev Step := Except DecodingFault (List Nat × Nat × Unit)

/-- The code point given by so many digits. The backslash and a letter stand before them. -/
def codePoint (digits : Nat) (text : List Char) : Step :=
  match (text.take digits).mapM hexDigit? with
  | none => .error .undecodable
  | some ds =>
    let n := ds.foldl (fun n d => 16 * n + d) 0
    if ds.length = digits ∧ n < 0x110000 then .ok ([n], digits + 1, ())
    else .error .undecodable

/-- The code point given by at most three digits. -/
def octal (text : List Char) : Step :=
  let ds := (text.take 3).takeWhile isOctal
  .ok ([ds.foldl (fun n d => 8 * n + (d.toNat - 48)) 0], ds.length, ())

/-- The character whose name stands between braces. -/
def named (text : List Char) : Step :=
  match text with
  | '\x7b' :: rest =>
    let name := rest.takeWhile (· != '\x7d')
    match charOfName? (String.ofList name) with
    | some c =>
      if name.length < rest.length then .ok ([c.toNat], name.length + 3, ())
      else .error .undecodable
    | none => .error .undecodable
  | _ => .error .undecodable

def control? : Char → Option Char
  | 'a' => some '\x07'
  | 'b' => some '\x08'
  | 'f' => some '\x0c'
  | 'n' => some '\n'
  | 'r' => some '\r'
  | 't' => some '\t'
  | 'v' => some '\x0b'
  | '\\' => some '\\'
  | '\'' => some '\''
  | '"' => some '"'
  | _ => none

def step (b : Char) (rest : List Char) : Step :=
  if b ≠ '\\' then .ok ([b.toNat], 0, ())
  else
    match rest with
    | [] => .error .undecodable
    | c :: after =>
      match control? c, c with
      | some d, _ => .ok ([d.toNat], 1, ())
      | none, '\n' => .ok ([], 1, ())
      | none, 'x' => codePoint 2 after
      | none, 'u' => codePoint 4 after
      | none, 'U' => codePoint 8 after
      | none, 'N' => named after
      | none, _ => if isOctal c then octal rest else .ok ([b.toNat, c.toNat], 1, ())

def rawStep (b : Char) (rest : List Char) : Step :=
  if b ≠ '\\' then .ok ([b.toNat], 0, ())
  else
    match rest with
    | [] => .ok ([b.toNat], 0, ())
    | 'u' :: after => codePoint 4 after
    | 'U' :: after => codePoint 8 after
    | c :: _ => .ok ([b.toNat, c.toNat], 1, ())

def decoder : Decoder Unit Nat := ⟨(), fun _ => step, fun _ => true⟩

def rawDecoder : Decoder Unit Nat := ⟨(), fun _ => rawStep, fun _ => true⟩

end TableDdl.Unicode.Escaped
