import TableDdl.Unicode.Blank
import TableDdl.Unicode.Digit

/-!
# Numerals

Numbers as they stand in settings: digits of any script, single underscores between digits, a sign
in front, and white space around it all. `Numeral.integer?` reads integers, of which those with very
many digits are refused (`Numeral.digitLimit`). `Numeral.float?` reads floats, which can have a point,
a power of ten, or be infinite or no number at all.
-/

namespace TableDdl.Numeral

/-- `gap` says that a digit has to come next. -/
def digitsFrom (gap : Bool) : List Char → Option (List Nat)
  | [] => if gap then none else some []
  | c :: cs =>
    match Unicode.digit? c with
    | some d => (digitsFrom false cs).map (d :: ·)
    | none => if c = '_' ∧ gap = false then digitsFrom true cs else none

/-- The digits of a text, of which there is at least one. -/
def digits? (cs : List Char) : Option (List Nat) := digitsFrom true cs

def ofDigits (ds : List Nat) : Nat := ds.foldl (fun n d => 10 * n + d) 0

/-- A sign and what follows it; the flag is set for a minus. -/
def sign : List Char → Bool × List Char
  | '-' :: cs => (true, cs)
  | '+' :: cs => (false, cs)
  | cs => (false, cs)

/-! ## Integers -/

/-- More digits than this make no integer, even if they are zeros. -/
def digitLimit : Nat := 4300

def natural? (cs : List Char) : Option Nat :=
  ((digits? cs).filter (·.length ≤ digitLimit)).map ofDigits

def integer? (text : String) : Option Int :=
  let (negative, cs) := sign (Unicode.trim Unicode.isSpace text.toList)
  (natural? cs).map fun n => if negative then -(n : Int) else n

/-! ## Floats -/

/-- `whole.fraction * 10 ^ power`. Powers that are far out of reach make infinity or zero. -/
def scaled (whole fraction : List Nat) (power : Int) : Float :=
  let n := ofDigits (whole ++ fraction)
  let exponent := power - fraction.length
  let top := exponent + (Nat.toDigits 10 n).length
  if n = 0 ∨ top < -400 then 0.0
  else if 400 < top then 1.0 / 0.0
  else Float.ofScientific n (decide (exponent < 0)) exponent.natAbs

/-- The text before the first character of a kind, and what follows that, if there is one. -/
def splitFirst (mark : Char → Bool) (cs : List Char) : List Char × Option (List Char) :=
  (cs.takeWhile (!mark ·),
    match cs.dropWhile (!mark ·) with
    | [] => none
    | _ :: rest => some rest)

/-- Digits that may be missing altogether. -/
def digitsOrNone? (cs : List Char) : Option (List Nat) := if cs.isEmpty then some [] else digits? cs

/-- A float without its sign. -/
def magnitude? (cs : List Char) : Option Float :=
  let word := String.ofList (cs.map Char.toLower)
  if word = "inf" ∨ word = "infinity" then some (1.0 / 0.0)
  else if word = "nan" then some (0.0 / 0.0)
  else do
    let (mantissa, power) := splitFirst (fun c => c == 'e' || c == 'E') cs
    let (whole, fraction) := splitFirst (· == '.') mantissa
    let whole ← digitsOrNone? whole
    let fraction ← digitsOrNone? (fraction.getD [])
    if whole.isEmpty && fraction.isEmpty then none
    else match power with
      | none => some (scaled whole fraction 0)
      | some cs =>
        let (negative, cs) := sign cs
        let n := ofDigits (← digits? cs)
        some (scaled whole fraction (if negative then -(n : Int) else n))

def float? (text : String) : Option Float :=
  let (negative, cs) := sign (Unicode.trim Unicode.isSpace text.toList)
  (magnitude? cs).map fun x => if negative then -x else x

end TableDdl.Numeral
