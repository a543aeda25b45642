import TableDdl.Unicode.Halves

/-!
# Punycode

A text is written in ASCII as its ASCII characters, a hyphen, and numbers that tell where to insert
the others, in the order of their code points. A number is written in letters and digits of base 36,
the least significant first; how large a digit has to be not to end it depends on the place and on
the numbers before.
-/

namespace TableDdl.Unicode.Punycode

def digit? (c : Char) : Option Nat :=
  if 'a' ≤ c ∧ c ≤ 'z' then some (c.toNat - 97)
  else if 'A' ≤ c ∧ c ≤ 'Z' then some (c.toNat - 65)
  else if '0' ≤ c ∧ c ≤ '9' then some (c.toNat - 22)
  else none

/-- A smaller digit at this place, from 1 on, is the last. -/
def threshold (place bias : Nat) : Nat := min 26 (max 1 (36 * place - bias))

/-- The number in front and what follows it. `weight` is the weight of the first digit. -/
def number? (bias : Nat) : Nat → Nat → List Char → Option (Nat × List Char)
  | _, _, [] => none
  | place, weight, c :: cs => do
    let d ← digit? c
    let t := threshold place bias
    if d < t then return (d * weight, cs)
    else
      let (n, rest) ← number? bias (place + 1) (weight * (36 - t)) cs
      return (d * weight + n, rest)

theorem number?_length {bias place weight n : Nat} {cs rest : List Char}
    (h : number? bias place weight cs = some (n, rest)) : rest.length < cs.length := by
  induction cs generalizing place weight n with
  | nil => simp [number?] at h
  | cons c cs ih =>
    simp only [number?, Option.bind_eq_bind, Option.bind_eq_some_iff] at h
    obtain ⟨d, _, h⟩ := h
    split at h
    · cases h; simp
    · obtain ⟨⟨m, r⟩, hm, h⟩ := Option.bind_eq_some_iff.1 h
      cases h
      exact Nat.lt_succ_of_lt (ih hm)

/-- Divide until at most 455 is left; each time the bias grows by 36. -/
def scale (delta bias : Nat) : Nat :=
  if 455 < delta then scale (delta / 35) (bias + 36) else bias + 36 * delta / (delta + 38)
termination_by delta
decreasing_by exact Nat.div_lt_self (by omega) (by omega)

/-- The bias after a number, given how many characters there are then. -/
def adapt (delta count : Nat) (isFirst : Bool) : Nat :=
  let delta := if isFirst then delta / 700 else delta / 2
  scale (delta + delta / count) 0

/-- Insert characters. `point` is the code point of the last one, and `place` the first place where
one of the same can be inserted. -/
def insertAll? (isFirst : Bool) (bias point place : Nat) (text : List Nat) (numbers : List Char) :
    Option (List Nat) :=
  match numbers with
  | [] => some text
  | c :: cs =>
    match _h : number? bias 1 1 (c :: cs) with
    | none => none
    | some (delta, rest) =>
      let count := text.length + 1
      let point := point + (place + delta) / count
      let place := (place + delta) % count
      if point < 0x110000 then
        insertAll? false (adapt delta count isFirst) point (place + 1)
          (text.take place ++ point :: text.drop place) rest
      else none
termination_by numbers.length
decreasing_by exact number?_length _h

/-- The text before the last hyphen, if there is one, and the text after it. -/
def split (cs : List Char) : Option (List Char) × List Char :=
  let after := (cs.reverse.takeWhile (· != '-')).reverse
  if after.length = cs.length then (none, after)
  else (some (cs.take (cs.length - after.length - 1)), after)

/-- The code points that a text stands for, among which halves of characters can be. -/
def codePoints? (cs : List Char) : Option (List Nat) :=
  insertAll? true 72 0x80 0 (((split cs).1.getD []).map Char.toNat) (split cs).2

def decode? (cs : List Char) : Option (List Char) := (codePoints? cs).map joinLoose

end TableDdl.Unicode.Punycode
