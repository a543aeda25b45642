import TableDdl.Unicode.MultiByte
import TableDdl.Unicode.Table.SimplifiedChinese
import TableDdl.Unicode.Table.TraditionalChinese

/-!
# Encodings of Chinese

The family of GB 2312 has its plane with the high bits set. GBK has further ideographs around the
plane, those missing in it in order of their code points, and GB 18030 has private characters in the
gaps left. Its codes of four bytes, of which the second is a digit, are left out.

The family of Big5 has tables by the two bytes.
-/

namespace TableDdl.Unicode

/-! ## GB 2312 -/

/-- The ideographs of the plane in order of their code points. -/
def planeIdeographs : List Nat :=
  ((CharTable.gb2312.flatMap fun r => r.2.toList.map Char.toNat).filter fun n =>
    decide (0x4E00 ≤ n ∧ n ≤ 0x9FA5)).mergeSort

/-- The place of a second byte, which is 0x40 or more and not 0x7F. -/
def trail? (b : Nat) : Option Nat :=
  if b < 0x40 ∨ b = 0x7F ∨ 0xFE < b then none
  else some (if b < 0x7F then b - 0x40 else b - 0x41)

/-- Second bytes that do not go with the plane. -/
def lowTrails : Nat := 96

/-- The ideographs missing in the plane come before it and then below it. -/
def missingIdeograph? (a b : Nat) : Option Char := do
  let t ← trail? b
  let n ←
    if 0x81 ≤ a ∧ a ≤ 0xA0 then some (190 * (a - 0x81) + t)
    else if 0xAA ≤ a ∧ a ≤ 0xFE ∧ t < lowTrails then
      some (190 * 32 + lowTrails * (a - 0xAA) + t)
    else none
  let c := nthMissing 0x4E00 planeIdeographs n
  if c ≤ 0x9FA5 then some (Char.ofNat c) else none

def gbkChar? (a b : Nat) : Option Char :=
  CharTable.gbkRest.atPair? a b <|> missingIdeograph? a b <|> CharTable.gb2312.atHigh? a b

/-- Private characters fill three gaps: in the plane, below it, and where both have nothing. -/
def privateChar? (a b : Nat) : Option Char := do
  let t ← trail? b
  if lowTrails ≤ t ∧ 0xAA ≤ a ∧ a ≤ 0xAF then
    some (Char.ofNat (0xE000 + 94 * (a - 0xAA) + (t - lowTrails)))
  else if lowTrails ≤ t ∧ 0xF8 ≤ a ∧ a ≤ 0xFE then
    some (Char.ofNat (0xE234 + 94 * (a - 0xF8) + (t - lowTrails)))
  else if t < lowTrails ∧ 0xA1 ≤ a ∧ a ≤ 0xA7 then
    some (Char.ofNat (0xE4C6 + lowTrails * (a - 0xA1) + t))
  else none

def gb18030Char? (a b : Nat) : Option Char :=
  gbkChar? a b <|> CharTable.gb18030Rest.atPair? a b <|> privateChar? a b

namespace MultiByte

def gb2312 : MultiByte := ofPairs CharTable.gb2312.atHigh?

def gbk : MultiByte := ofPairs gbkChar?

def gb18030 : MultiByte := ofPairs gb18030Char?

/-! ## Big5 -/

def big5 : MultiByte := ofPairs CharTable.big5.atPair?

def cp950 : MultiByte :=
  ofPairs fun a b => CharTable.cp950More.atPair? a b <|> CharTable.big5.atPair? a b

/-- The supplement of Hong Kong has some codes to itself, and two characters at others. -/
def big5hkscs : MultiByte where
  one? := asciiChar?
  two? a b :=
    let code := 0x100 * a + b
    let plain := if 0xC6A1 ≤ code ∧ code ≤ 0xC8FE then none else CharTable.big5.find? code
    match plain <|> CharTable.hkscs.find? code with
    | some c => some [c]
    | none => (CharTable.hkscsCombined.lookup code).map String.toList

end MultiByte

end TableDdl.Unicode
