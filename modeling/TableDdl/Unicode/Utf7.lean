import TableDdl.Unicode.Decoder

/-!
# Reading UTF-7

A plus sign begins a section in which a character carries six bits, the most significant first, and
the bits make units of sixteen. A minus sign that ends a section is no part of the text; other
characters are. The bits left over are less than six and zero. `+-` stands for a plus sign.

A unit is a code point, or half of a character; a text does not end in a section with a high half.
-/

namespace TableDdl.Unicode

/-- The bits that are not yet part of a unit, and whether a high half came last. -/
structure Utf7Section where
  bits : Nat := 0
  count : Nat := 0
  afterHigh : Bool := false

namespace Utf7

/-- Six bits. -/
def sextet? (c : Char) : Option Nat :=
  if 'A' ≤ c ∧ c ≤ 'Z' then some (c.toNat - 65)
  else if 'a' ≤ c ∧ c ≤ 'z' then some (c.toNat - 71)
  else if '0' ≤ c ∧ c ≤ '9' then some (c.toNat + 4)
  else if c = '+' then some 62
  else if c = '/' then some 63
  else none

def isDirect (c : Char) : Bool := c.toNat < 0x80 && c != '+'

/-- No bits are left that count. -/
def isFlush (s : Utf7Section) : Bool := s.count < 6 && s.bits == 0

/-- The unit that six bits complete, if they do. -/
def takeSextet (s : Utf7Section) (n : Nat) : List Nat × Utf7Section :=
  let bits := 64 * s.bits + n
  let count := s.count + 6
  if count < 16 then ([], { s with bits, count })
  else
    let spare := count - 16
    let unit := bits >>> spare
    ([unit], { bits := bits % (1 <<< spare), count := spare, afterHigh := isHighHalf unit })

def step (state : Option Utf7Section) (c : Char) (rest : List Char) :
    Except DecodingFault (List Nat × Nat × Option Utf7Section) :=
  match state with
  | some s =>
    match sextet? c with
    | some n =>
      let (units, next) := takeSextet s n
      .ok (units, 0, some next)
    | none =>
      if !isFlush s || !isDirect c then .error .undecodable
      else .ok (if c = '-' then [] else [c.toNat], 0, none)
  | none =>
    if c = '+' then
      match rest with
      | [] => .ok ([], 0, some {})
      | '-' :: _ => .ok ([c.toNat], 1, none)
      | d :: _ => if (sextet? d).isSome then .ok ([], 0, some {}) else .error .undecodable
    else if isDirect c then .ok ([c.toNat], 0, none)
    else .error .undecodable

def decoder : Decoder (Option Utf7Section) Nat where
  start := none
  step := step
  mayEnd s := s.all fun s => isFlush s && !s.afterHigh

end Utf7

end TableDdl.Unicode
