import TableDdl.Unicode.Utf8

/-!
# Percent encoding

A byte of a text is written as itself if it is a letter, a digit or one of a few marks, and else as
a percent sign and two hexadecimal digits. `decode` reads such escapes in each run of ASCII
characters and leaves everything else alone; bytes that make no character become the replacement
character.
-/

namespace TableDdl.Percent

def hexDigits : List Char := "0123456789ABCDEF".toList

def hexDigit (n : Nat) : Char := hexDigits.getD n '0'

def hexValue? (c : Char) : Option Nat :=
  if '0' ≤ c ∧ c ≤ '9' then some (c.toNat - 48)
  else if 'a' ≤ c ∧ c ≤ 'f' then some (c.toNat - 87)
  else if 'A' ≤ c ∧ c ≤ 'F' then some (c.toNat - 55)
  else none

/-- Letters, digits and the marks that are never escaped. -/
def isPlain (c : Char) : Bool := c.isAlphanum || c == '_' || c == '.' || c == '-' || c == '~'

/-- A character with every byte escaped. -/
def escape (c : Char) : List Char :=
  (String.singleton c).toUTF8.toList.flatMap fun b =>
    ['%', hexDigit (b.toNat / 16), hexDigit (b.toNat % 16)]

/-- `safe` holds further characters that stay as they are. -/
def encode (safe : List Char) (s : String) : String :=
  String.ofList (s.toList.flatMap fun c => if isPlain c || safe.contains c then [c] else escape c)

/-- As in the query of a URL, where a plus sign stands for a blank. -/
def encodeQuery (s : String) : String :=
  String.ofList ((encode [' '] s).toList.map fun c => if c = ' ' then '+' else c)

/-- The bytes that a run of ASCII characters stands for. -/
def bytesOf : List Char → List UInt8
  | '%' :: h :: l :: cs =>
    match hexValue? h, hexValue? l with
    | some h, some l => UInt8.ofNat (16 * h + l) :: bytesOf cs
    | _, _ => 0x25 :: bytesOf (h :: l :: cs)
  | c :: cs => UInt8.ofNat c.toNat :: bytesOf cs
  | [] => []

/-- `run` holds the ASCII characters just read, the last one first. -/
def decodeFrom (run : List Char) : List Char → List Char
  | [] => (Unicode.decodeLossy (bytesOf run.reverse)).toList
  | c :: cs =>
    if c.toNat < 0x80 then decodeFrom (c :: run) cs
    else (Unicode.decodeLossy (bytesOf run.reverse)).toList ++ c :: decodeFrom [] cs

def decode (cs : List Char) : String := String.ofList (decodeFrom [] cs)

def decodeQuery (cs : List Char) : String := decode (cs.map fun c => if c = '+' then ' ' else c)

end TableDdl.Percent
