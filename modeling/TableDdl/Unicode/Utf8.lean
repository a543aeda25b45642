/-!
# Reading UTF-8

A character takes one to four bytes, and its first byte fixes how many more follow and which ranges
they lie in. `scan` reads a byte string piece by piece: a character, or a piece that is none, which
is a byte that starts no character or the longest beginning of one that is broken off.

`decode?` accepts only characters; `decodeLossy` puts the replacement character in the place of every
other piece.
-/

namespace TableDdl.Unicode

/-- The ranges of the bytes that follow a first byte; `none` if it starts no character. -/
def continuation? (first : UInt8) : Option (List (UInt8 × UInt8)) :=
  let tail : UInt8 × UInt8 := (0x80, 0xBF)
  if first < 0x80 then some []
  else if first < 0xC2 then none
  else if first < 0xE0 then some [tail]
  else if first = 0xE0 then some [(0xA0, 0xBF), tail]
  else if first = 0xED then some [(0x80, 0x9F), tail]
  else if first < 0xF0 then some [tail, tail]
  else if first = 0xF0 then some [(0x90, 0xBF), tail, tail]
  else if first < 0xF4 then some [tail, tail, tail]
  else if first = 0xF4 then some [(0x80, 0x8F), tail, tail]
  else none

/-- How many of the bytes lie in their ranges, before the first that does not. -/
def matching : List (UInt8 × UInt8) → List UInt8 → Nat
  | r :: ranges, b :: bs => if r.1 ≤ b ∧ b ≤ r.2 then matching ranges bs + 1 else 0
  | _, _ => 0

/-- The code point of a first byte and the bytes that follow it. -/
def codePoint (first : UInt8) (rest : List UInt8) : Nat :=
  let lead := match rest.length with
    | 0 => first.toNat
    | 1 => first.toNat % 32
    | 2 => first.toNat % 16
    | _ => first.toNat % 8
  rest.foldl (fun n b => 64 * n + b.toNat % 64) lead

/-- The pieces of a byte string: characters, and `none` for what is no character. -/
def scan : List UInt8 → List (Option Char)
  | [] => []
  | b :: bs =>
    match continuation? b with
    | none => none :: scan bs
    | some ranges =>
      let n := matching ranges bs
      (if n = ranges.length then some (Char.ofNat (codePoint b (bs.take n))) else none)
        :: scan (bs.drop n)
termination_by bs => bs.length
decreasing_by all_goals simp_wf; try omega

def decode? (bs : List UInt8) : Option String := ((scan bs).mapM id).map String.ofList

def decodeLossy (bs : List UInt8) : String :=
  String.ofList ((scan bs).map fun c => c.getD '\uFFFD')

end TableDdl.Unicode
