import TableDdl.Unicode.CharTable
import TableDdl.Unicode.Decoder

/-!
# Encodings with codes of several bytes

The fewest bytes that make a code are one, and mostly a code of one byte is ASCII. A few codes stand
for two characters.
-/

namespace TableDdl.Unicode

structure MultiByte where
  one? : Nat → Option Char
  two? : Nat → Nat → Option (List Char)
  three? : Nat → Nat → Nat → Option (List Char) := fun _ _ _ => none

def asciiChar? (b : Nat) : Option Char := if b < 0x80 then some (Char.ofNat b) else none

/-- The character at a place in a plane of 94 rows and cells, where both bytes have the high bit. -/
def CharTable.atHigh? (t : CharTable) (a b : Nat) : Option Char :=
  if 0x80 ≤ a ∧ 0x80 ≤ b then t.find? (0x100 * (a - 0x80) + (b - 0x80)) else none

def CharTable.atPair? (t : CharTable) (a b : Nat) : Option Char := t.find? (0x100 * a + b)

/-- The number from `first` on that comes after `n` others which are not among the given ones. Those
are in order. -/
def nthMissing (first : Nat) : List Nat → Nat → Nat
  | [], n => first + n
  | k :: ks, n => if n < k - first then first + n else nthMissing (k + 1) ks (n - (k - first))

namespace MultiByte

/-- ASCII, and codes of two bytes for one character each. -/
def ofPairs (char? : Nat → Nat → Option Char) : MultiByte where
  one? := asciiChar?
  two? a b := (char? a b).map ([·])

def step (e : MultiByte) (a : Char) (rest : List Char) :
    Except DecodingFault (List Char × Nat × Unit) :=
  match e.one? a.toNat with
  | some c => .ok ([c], 0, ())
  | none =>
    match rest with
    | [] => .error .undecodable
    | b :: rest =>
      match e.two? a.toNat b.toNat with
      | some cs => .ok (cs, 1, ())
      | none =>
        match rest.head?.bind fun c => e.three? a.toNat b.toNat c.toNat with
        | some cs => .ok (cs, 2, ())
        | none => .error .undecodable

def decoder (e : MultiByte) : Decoder Unit Char where
  start := ()
  step _ := e.step

end MultiByte

end TableDdl.Unicode
