/-!
# The fewest digits that identify a float

A finite positive float is `significand * 2 ^ exponent`. The reals nearest to it form an interval
that reaches half-way to each neighbour and holds its ends exactly when the significand is even.
`Magnitude.shortest` finds a decimal in that interval with as few digits as possible: it tries the
grids of one digit, two digits, and so on, tests the two points of a grid next to the value, and
takes the nearer of two hits, the even one on a tie.

All comparisons are between naturals, after multiplying out the denominators.
`Magnitude.near_of_shortest?` says that what the search finds lies in the interval.
-/

namespace TableDdl.Decimal

/-- A positive finite float, `significand * 2 ^ exponent`. Just above a power of two the float below
is only half as far away as the float above (`closeBelow`). -/
structure Magnitude where
  significand : Nat
  exponent : Int
  closeBelow : Bool
  deriving DecidableEq, Repr

/-- The magnitude of a finite non-zero float, read off its bits. -/
def Magnitude.ofFloat (x : Float) : Magnitude :=
  let biased := ((x.toBits >>> 52) &&& 0x7FF).toNat
  let fraction := (x.toBits &&& 0xFFFFFFFFFFFFF).toNat
  if biased = 0 then ⟨fraction, -1074, false⟩
  else ⟨0x10000000000000 + fraction, (biased : Int) - 1075, fraction == 0 && 1 < biased⟩

/-- A decimal `digits * 10 ^ exponent`. -/
structure Scaled where
  digits : Nat
  exponent : Int
  deriving DecidableEq, Repr

namespace Magnitude

/-- The quotient `num / den` of `quarters * 2 ^ (exponent - 2)`. The value has
`4 * significand` quarters, and the ends of its interval are whole numbers of quarters too. -/
def num (m : Magnitude) (quarters : Nat) : Nat := quarters * Nat.pow 2 (m.exponent - 2).toNat

def den (m : Magnitude) : Nat := Nat.pow 2 (2 - m.exponent).toNat

def lowerQuarters (m : Magnitude) : Nat :=
  if m.closeBelow then 4 * m.significand - 1 else 4 * m.significand - 2

def upperQuarters (m : Magnitude) : Nat := 4 * m.significand + 2

/-- `a` is below `b`, or equal to it where the ends count. -/
def within (m : Magnitude) (a b : Nat) : Bool :=
  a < b || (m.significand % 2 == 0 && a == b)

/-- The decimal lies in the interval of the reals nearest to the value. -/
def near (m : Magnitude) (d : Scaled) : Bool :=
  let point := d.digits * Nat.pow 10 d.exponent.toNat * m.den
  let scale := Nat.pow 10 (-d.exponent).toNat
  m.within (m.num m.lowerQuarters * scale) point && m.within point (m.num m.upperQuarters * scale)

/-- The number of decimal digits of `n`; zero has none. -/
def digitCount (n : Nat) : Nat := if n = 0 then 0 else (Nat.toDigits 10 n).length

/-- The `k` with `10 ^ (k - 1) ≤ value < 10 ^ k`. -/
def scale (m : Magnitude) : Int :=
  let n := m.num (4 * m.significand)
  if m.den ≤ n then digitCount (n / m.den)
  else 1 - (digitCount ((m.den + n - 1) / n - 1) : Int)

/-- The point with `count` digits that is nearest to the value among those that identify it. -/
def onGrid? (m : Magnitude) (count : Nat) : Option Scaled :=
  let unit := m.scale - count
  let a := m.num (4 * m.significand) * Nat.pow 10 (-unit).toNat
  let b := m.den * Nat.pow 10 unit.toNat
  let below : Scaled := ⟨a / b, unit⟩
  let above : Scaled := ⟨a / b + 1, unit⟩
  match m.near below, m.near above with
  | false, false => none
  | true, false => some below
  | false, true => some above
  | true, true =>
    match compare (2 * a) ((2 * (a / b) + 1) * b) with
    | .lt => some below
    | .gt => some above
    | .eq => some (if a / b % 2 = 0 then below else above)

/-- Seventeen digits always suffice to identify a float. -/
def shortest? (m : Magnitude) : Option Scaled :=
  (List.range 17).findSome? fun i => m.onGrid? (i + 1)

/-- The exact value, written with as many digits as that takes. -/
def exact (m : Magnitude) : Scaled :=
  if 0 ≤ m.exponent then ⟨m.significand * Nat.pow 2 m.exponent.toNat, 0⟩
  else ⟨m.significand * Nat.pow 5 (-m.exponent).toNat, m.exponent⟩

def shortest (m : Magnitude) : Scaled := m.shortest?.getD m.exact

theorem near_of_onGrid? {m : Magnitude} {count : Nat} {d : Scaled} (h : m.onGrid? count = some d) :
    m.near d = true := by
  unfold onGrid? at h
  simp only at h
  split at h
  · simp at h
  · rename_i hb _; cases h; exact hb
  · rename_i _ ha; cases h; exact ha
  · rename_i hb ha
    split at h
    · cases h; exact hb
    · cases h; exact ha
    · cases h; split
      · exact hb
      · exact ha

theorem near_of_shortest? {m : Magnitude} {d : Scaled} (h : m.shortest? = some d) :
    m.near d = true := by
  obtain ⟨i, -, hi⟩ := List.exists_of_findSome?_eq_some h
  exact near_of_onGrid? hi

end Magnitude

end TableDdl.Decimal
