import TableDdl.Decimal.Shortest

/-!
# Floats that are integers

A finite float is a whole number of powers of two, so it is an integer exactly when the fractional
powers divide out. `Decimal.integral?` gives that integer.
-/

namespace TableDdl.Decimal

/-- The absolute value of a finite float, if it is whole. -/
def Magnitude.whole? (m : Magnitude) : Option Nat :=
  let parts := Nat.pow 2 (-m.exponent).toNat
  if m.significand % parts = 0 then some (m.significand / parts * Nat.pow 2 m.exponent.toNat)
  else none

/-- The integer that a float is equal to, if it is one; both zeros are equal to zero. -/
def integral? (x : Float) : Option Int :=
  if !x.isFinite then none
  else (Magnitude.ofFloat x).whole?.map fun n => if x < 0 then -(n : Int) else n

end TableDdl.Decimal
