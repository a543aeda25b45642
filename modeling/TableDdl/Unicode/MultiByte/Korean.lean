import TableDdl.Unicode.MultiByte
import TableDdl.Unicode.Table.Korean

/-!
# Encodings of Korean

One family has the plane of KS X 1001 with the high bits set. Code page 949 has around it the
syllables missing in it, in order of their code points.

Johab composes a syllable from three letters of five bits each, and folds the part of the plane that
is no syllables into the codes left.
-/

namespace TableDdl.Unicode

def firstSyllable : Nat := 0xAC00

def lastSyllable : Nat := 0xD7A3

/-! ## The plane -/

/-- The syllables of the plane, which are in order of their code points. -/
def planeSyllables : List Nat :=
  (CharTable.ksx1001.flatMap fun r => r.2.toList.map Char.toNat).filter fun n =>
    decide (firstSyllable ≤ n ∧ n ≤ lastSyllable)

/-- The place of a second byte, which is a letter of ASCII or beyond 0x80. -/
def syllableTrail? (b : Nat) : Option Nat :=
  if 0x41 ≤ b ∧ b ≤ 0x5A then some (b - 0x41)
  else if 0x61 ≤ b ∧ b ≤ 0x7A then some (b - 0x61 + 26)
  else if 0x81 ≤ b ∧ b ≤ 0xFE then some (b - 0x81 + 52)
  else none

/-- The syllables missing in the plane come before it and then below it. -/
def missingSyllable? (a b : Nat) : Option Char := do
  let t ← syllableTrail? b
  let n ←
    if 0x81 ≤ a ∧ a ≤ 0xA0 then some (178 * (a - 0x81) + t)
    else if 0xA1 ≤ a ∧ a ≤ 0xC6 ∧ t < 84 then some (178 * 32 + 84 * (a - 0xA1) + t)
    else none
  let c := nthMissing firstSyllable planeSyllables n
  if c ≤ lastSyllable then some (Char.ofNat c) else none

def cp949Char? (a b : Nat) : Option Char :=
  CharTable.ksx1001.atHigh? a b <|> missingSyllable? a b

/-! ## Johab -/

/-- What five bits stand for, in the place of one of the three letters of a syllable. -/
inductive JohabLetter where
  | filler
  | letter (index : Nat)
  deriving DecidableEq, Repr

namespace JohabLetter

/-- The fillers and letters of a place: the code of its filler, and the codes of its letters in runs
of successive ones. -/
def ofCode? (fillerCode : Nat) (runs : List (Nat × Nat)) (code : Nat) : Option JohabLetter :=
  let codes := runs.flatMap fun r => (List.range r.2).map (r.1 + ·)
  if code = fillerCode then some .filler else (codes.idxOf? code).map .letter

def initial? (code : Nat) : Option JohabLetter := ofCode? 1 [(2, 19)] code

def medial? (code : Nat) : Option JohabLetter := ofCode? 2 [(3, 5), (10, 6), (18, 6), (26, 4)] code

/-- A syllable that ends with its vowel has the filler in the last place. -/
def final? (code : Nat) : Option JohabLetter := ofCode? 1 [(2, 16), (19, 11)] code

/-- The letters as characters of their own, in the order of each place. -/
def initials : String := "ㄱㄲㄴㄷㄸㄹㅁㅂㅃㅅㅆㅇㅈㅉㅊㅋㅌㅍㅎ"

def finals : String := "ㄱㄲㄳㄴㄵㄶㄷㄹㄺㄻㄼㄽㄾㄿㅀㅁㅂㅄㅅㅆㅇㅈㅊㅋㅌㅍㅎ"

def firstVowel : Nat := 0x314F

/-- A syllable needs its first two letters; one letter can stand alone. -/
def compose? : JohabLetter → JohabLetter → JohabLetter → Option Char
  | .filler, .filler, .filler => some '\u3000'
  | .letter i, .filler, .filler => initials.toList[i]?
  | .filler, .letter m, .filler => some (Char.ofNat (firstVowel + m))
  | .filler, .filler, .letter f => finals.toList[f]?
  | .letter i, .letter m, .filler => some (Char.ofNat (firstSyllable + 588 * i + 28 * m))
  | .letter i, .letter m, .letter f =>
    some (Char.ofNat (firstSyllable + 588 * i + 28 * m + (f + 1)))
  | _, _, _ => none

end JohabLetter

/-- The row and cell of the plane for a code that is no syllable. Two rows share a first byte. -/
def johabPlaneCode? (a b : Nat) : Option Nat :=
  if a < 0xD9 ∨ a = 0xDF ∨ 0xF9 < a ∨ b < 0x31 ∨ (0x80 ≤ b ∧ b < 0x91) ∨ b % 0x80 = 0x7F
      ∨ (a = 0xDA ∧ 0xA1 ≤ b ∧ b ≤ 0xD3) then none
  else
    let rows := if a < 0xE0 then 2 * (a - 0xD9) else 2 * a - 0x197
    let cells := if b < 0x91 then b - 0x31 else b - 0x43
    some (0x100 * (rows + cells / 94 + 0x21) + (cells % 94 + 0x21))

def johabChar? (a b : Nat) : Option Char :=
  if a < 0xD9 then do
    let i ← JohabLetter.initial? (a / 4 % 32)
    let m ← JohabLetter.medial? (a % 4 * 8 + b / 32)
    let f ← JohabLetter.final? (b % 32)
    JohabLetter.compose? i m f
  else (johabPlaneCode? a b).bind CharTable.ksx1001.find?

namespace MultiByte

/-- The filler has no code of its own: it starts a syllable spelled by its letters, which are left
out. -/
def eucKr : MultiByte :=
  ofPairs fun a b => if a = 0xA4 ∧ b = 0xD4 then none else CharTable.ksx1001.atHigh? a b

def cp949 : MultiByte := ofPairs cp949Char?

def johab : MultiByte := ofPairs johabChar?

end MultiByte

end TableDdl.Unicode
