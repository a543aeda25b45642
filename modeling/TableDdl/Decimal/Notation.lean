import TableDdl.Decimal.Shortest

/-!
# Writing a float

`Layout` holds the decisions of a float format, and `Layout.write` writes a float in it: the fewest
digits that identify the value, either with a decimal point or with an exponent.
-/

namespace TableDdl.Decimal

/-- A way to lay out the digits of a float. -/
structure Layout where
  /-- A leading digit at `10 ^ e` is written without an exponent for `plainFrom ≤ e < plainBelow`. -/
  plainFrom : Int
  plainBelow : Int
  /-- The least number of digits of an exponent, which always has a sign. -/
  exponentWidth : Nat
  notANumber : String
  infinity : String

namespace Layout

def zeros (n : Nat) : List Char := List.replicate n '0'

/-- Digits without an exponent; an integral value keeps one digit after the point. `e` is the
place of the leading digit. -/
def plain (digits : List Char) (e : Int) : List Char :=
  if e < 0 then ['0', '.'] ++ zeros (-e - 1).toNat ++ digits
  else
    let whole := e.toNat + 1
    if digits.length ≤ whole then digits ++ zeros (whole - digits.length) ++ ['.', '0']
    else digits.take whole ++ ['.'] ++ digits.drop whole

/-- Digits with an exponent; a single digit has no point. -/
def scientific (layout : Layout) (digits : List Char) (e : Int) : List Char :=
  let mantissa := match digits with
    | [] => []
    | [d] => [d]
    | d :: rest => d :: '.' :: rest
  let power := Nat.toDigits 10 e.natAbs
  mantissa ++ ['e', if e < 0 then '-' else '+'] ++ zeros (layout.exponentWidth - power.length) ++ power

/-- Drop the zeros that end a number, but not the digit that starts it. -/
def trimZeros : List Char → List Char
  | [] => []
  | d :: rest => d :: ((rest.reverse.dropWhile (· == '0')).reverse)

def writeScaled (layout : Layout) (d : Scaled) : List Char :=
  let digits := Nat.toDigits 10 d.digits
  let e := d.exponent + (digits.length - 1 : Nat)
  let kept := trimZeros digits
  if layout.plainFrom ≤ e ∧ e < layout.plainBelow then plain kept e
  else layout.scientific kept e

def write (layout : Layout) (x : Float) : String :=
  if x.isNaN then layout.notANumber
  else
    let sign := if x.toBits >>> 63 = 1 then ['-'] else []
    String.ofList (sign ++
      if x.isInf then layout.infinity.toList
      else if x.toBits &&& 0x7FFFFFFFFFFFFFFF = 0 then ['0', '.', '0']
      else layout.writeScaled (Magnitude.ofFloat x).shortest)

end Layout

end TableDdl.Decimal
