import TableDdl.Unicode.MultiByte
import TableDdl.Unicode.Table.Japanese

/-!
# Encodings of Japanese

Two families have the same planes of 94 rows and cells. In one, both bytes have the high bit;
half-wide kana come after 0x8E and the second plane after 0x8F. In the other, kana take one byte,
and two rows share the first byte of a code of two.

The planes are those of JIS X 0208 and 0212, or those of JIS X 0213, which extend them. The latter
has two editions.
-/

namespace TableDdl.Unicode

/-! ## Sets of characters -/

def roman? (b : Nat) : Option Char :=
  if b = 0x5C then some '¥' else if b = 0x7E then some '‾' else asciiChar? b

/-- Half-wide kana by a byte with the high bit. -/
def kana? (b : Nat) : Option Char :=
  if 0xA1 ≤ b ∧ b ≤ 0xDF then some (Char.ofNat (0xFEC0 + b)) else none

inductive Edition where
  | of2000
  | of2004
  deriving DecidableEq, Repr

/-- What the later edition adds to the first plane. -/
def addedIn2004 : List Nat :=
  [0x2E21, 0x2F7E, 0x4F54, 0x4F7E, 0x7427, 0x7E7A, 0x7E7B, 0x7E7C, 0x7E7D, 0x7E7E]

namespace Edition

def firstPlane? (e : Edition) (code : Nat) : Option (List Char) :=
  if e = .of2000 ∧ addedIn2004.contains code then none
  else
    match CharTable.jisx0208.find? code <|> CharTable.jisx0213First.find? code with
    | some c => some [c]
    | none => (CharTable.jisx0213FirstCombined.lookup code).map String.toList

/-- The editions have one character of this plane in two forms. -/
def secondPlane? (e : Edition) (code : Nat) : Option Char :=
  if e = .of2000 ∧ code = 0x7D3B then some '\u9b1d' else CharTable.jisx0213Second.find? code

end Edition

/-! ## Codes with the high bit -/

/-- The place in a plane that two bytes with the high bit stand for. -/
def highCode? (a b : Nat) : Option Nat :=
  if 0x80 ≤ a ∧ 0x80 ≤ b then some (0x100 * (a - 0x80) + (b - 0x80)) else none

namespace MultiByte

def extended (first? : Nat → Option (List Char)) (second? : Nat → Option Char) : MultiByte where
  one? := asciiChar?
  two? a b :=
    if a = 0x8E then (kana? b).map ([·])
    else if a = 0x8F then none
    else (highCode? a b).bind first?
  three? a b c := if a = 0x8F then ((highCode? b c).bind second?).map ([·]) else none

def eucJp : MultiByte :=
  extended (fun code => (CharTable.jisx0208.find? code).map ([·])) CharTable.jisx0212.find?

/-- The tilde of the first plane is a wide one here, and where the second plane has nothing, JIS X
0212 has its characters. -/
def eucJisX0213 (e : Edition) : MultiByte :=
  extended (fun code => if code = 0x2232 then some ['～'] else e.firstPlane? code)
    fun code => e.secondPlane? code <|> CharTable.jisx0212.find? code

end MultiByte

/-! ## Codes with shared first bytes -/

/-- A row, from 0 on, and the place in it. -/
def sharedRow? (a b : Nat) : Option (Nat × Nat) := do
  let pair ←
    if 0x81 ≤ a ∧ a ≤ 0x9F then some (a - 0x81)
    else if 0xE0 ≤ a ∧ a ≤ 0xFC then some (a - 0xC1)
    else none
  let cell ←
    if 0x40 ≤ b ∧ b ≤ 0x7E then some (b - 0x40)
    else if 0x80 ≤ b ∧ b ≤ 0xFC then some (b - 0x41)
    else none
  return (2 * pair + cell / 94, cell % 94)

def planeCode (row cell : Nat) : Nat := 0x100 * (row + 0x21) + (cell + 0x21)

/-- The rows of the second plane, which come after the 94 of the first. -/
def secondPlaneRows : List Nat :=
  [0, 7, 2, 3, 4, 11, 12, 13, 14] ++ (List.range 17).map (77 + ·)

namespace MultiByte

def shiftJis : MultiByte where
  one? b := asciiChar? b <|> kana? b
  two? a b := do
    let (row, cell) ← sharedRow? a b
    (CharTable.jisx0208.find? (planeCode row cell)).map ([·])

/-- The bytes that start no code are single characters. The last first bytes are for private ones.
-/
def cp932 : MultiByte where
  one? b :=
    if b = 0x80 then some '\u0080'
    else if b = 0xA0 then some '\uf8f0'
    else if 0xFD ≤ b ∧ b ≤ 0xFF then some (Char.ofNat (0xF8F1 + (b - 0xFD)))
    else asciiChar? b <|> kana? b
  two? a b :=
    match CharTable.cp932More.atPair? a b with
    | some c => some [c]
    | none => do
      let (row, cell) ← sharedRow? a b
      if 0xF0 ≤ a ∧ a ≤ 0xF9 then
        return [Char.ofNat (0xE000 + 94 * (row - 94) + cell)]
      else (CharTable.jisx0208.find? (planeCode row cell)).map ([·])

/-- The single bytes are not ASCII throughout, so the backslash and the tilde of the first plane
stand for what is missing of it. -/
def shiftJisX0213 (e : Edition) : MultiByte where
  one? b := roman? b <|> kana? b
  two? a b :=
    if a = 0x81 ∧ b = 0x5F then some ['\\']
    else do
      let (row, cell) ← sharedRow? a b
      if row < 94 then e.firstPlane? (planeCode row cell)
      else
        let row ← secondPlaneRows[row - 94]?
        (e.secondPlane? (planeCode row cell)).map ([·])

end MultiByte

end TableDdl.Unicode
