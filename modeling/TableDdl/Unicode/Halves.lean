/-!
# Characters as two halves

The code points of a certain range are no characters but halves. A high half and a low one after it
make a character beyond the first plane (`joined`). `joinHalves?` reads a text in which no half
comes alone; `joinLoose` takes any code points and puts the replacement character in the place of
such a half.
-/

namespace TableDdl.Unicode

def isHighHalf (n : Nat) : Bool := 0xD800 ≤ n && n < 0xDC00

def isLowHalf (n : Nat) : Bool := 0xDC00 ≤ n && n < 0xE000

def joined (high low : Nat) : Char :=
  Char.ofNat (0x10000 + 0x400 * (high - 0xD800) + (low - 0xDC00))

def scalar? (n : Nat) : Option Char := if n.isValidChar then some (Char.ofNat n) else none

def joinHalves? : List Nat → Option (List Char)
  | [] => some []
  | [u] => (scalar? u).map ([·])
  | u :: v :: rest =>
    if isHighHalf u then
      if isLowHalf v then (joinHalves? rest).map (joined u v :: ·) else none
    else do return (← scalar? u) :: (← joinHalves? (v :: rest))

def joinLoose : List Nat → List Char
  | [] => []
  | [u] => [(scalar? u).getD '\uFFFD']
  | u :: v :: rest =>
    if isHighHalf u && isLowHalf v then joined u v :: joinLoose rest
    else (scalar? u).getD '\uFFFD' :: joinLoose (v :: rest)

end TableDdl.Unicode
