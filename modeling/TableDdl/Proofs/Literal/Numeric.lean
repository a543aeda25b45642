import Mathlib.Algebra.Order.Ring.Rat
import TableDdl.Proofs.Literal.Complete

/-!
# Numbers as they are read

The reader of a numeric literal: a sign, digits with or without a point among them, and a power of
ten, each as the standard has it. The number that is read is a rational, so that nothing is lost.

* `readUnsigned?_append`: digits, a fraction and a power of ten, by the grammar of `IsNumber`, are
  read part by part, whatever they are;
* `readNumber?_intRepr`: an integer is read back, whatever its size and sign;
* `isDigit_or_minus_of_mem_intRepr`: neither a point nor a power of ten is in the text of an integer.
-/

namespace TableDdl.Literal

/-! ## The reader -/

def digitsValue (ds : List Char) : Nat := Nat.ofDigitChars 10 ds 0

/-- The sign in front of a number, as a factor, and what follows it. -/
def readSign : List Char → Int × List Char
  | '-' :: cs => (-1, cs)
  | '+' :: cs => (1, cs)
  | cs => (1, cs)

/-- The digits after a point, if there is one, and what follows them. -/
def readFraction : List Char → List Char × List Char
  | '.' :: cs => (cs.takeWhile Char.isDigit, cs.dropWhile Char.isDigit)
  | cs => ([], cs)

/-- The power of ten that ends a number. -/
def readPower? : List Char → Option ℚ
  | [] => some 1
  | c :: cs =>
    let (sign, ds) := readSign cs
    if (c = 'e' ∨ c = 'E') ∧ ds ≠ [] ∧ ds.all Char.isDigit then some (10 ^ (sign * digitsValue ds))
    else none

/-- Digits, of which some come after the point. -/
def decimalValue (whole fraction : List Char) : ℚ :=
  digitsValue (whole ++ fraction) / 10 ^ fraction.length

/-- At least one digit has to be there, before the point or after it. -/
def readUnsigned? (cs : List Char) : Option ℚ :=
  let whole := cs.takeWhile Char.isDigit
  let (fraction, power) := readFraction (cs.dropWhile Char.isDigit)
  if whole ++ fraction = [] then none else (readPower? power).map (decimalValue whole fraction * ·)

/-- **Reads a text that is one number.** -/
def readNumber? (cs : List Char) : Option ℚ :=
  let (sign, cs) := readSign cs
  (readUnsigned? cs).map (sign * ·)

/-! ## Numbers by their parts -/

theorem isDigit_head {c : Char} {cs : List Char} (h : Digits (c :: cs)) : c.isDigit = true :=
  h.isDigit c List.mem_cons_self

/-- The digits in front of a text end before the first other character. -/
theorem takeWhile_isDigit_append {ds rest : List Char} (h : ∀ c ∈ ds, c.isDigit = true)
    (hrest : ∀ c ∈ rest.head?, c.isDigit = false) :
    (ds ++ rest).takeWhile Char.isDigit = ds ∧ (ds ++ rest).dropWhile Char.isDigit = rest := by
  rw [List.takeWhile_append_of_pos h, List.dropWhile_append_of_pos h]
  cases rest with
  | nil => exact ⟨List.append_nil ds, rfl⟩
  | cons c rest =>
    have hc : c.isDigit = false := hrest c rfl
    rw [List.takeWhile_cons_of_neg (by simp [hc]), List.dropWhile_cons_of_neg (by simp [hc])]
    exact ⟨List.append_nil ds, rfl⟩

theorem head?_power {power : List Char} (h : PowerOfTen power) :
    ∀ c ∈ power.head?, c.isDigit = false := by
  cases h with
  | none => simp
  | mark => simp

theorem readFraction_append {fraction power : List Char} (hf : Fraction fraction)
    (hp : PowerOfTen power) : readFraction (fraction ++ power) = (fraction.tail, power) := by
  cases hf with
  | none => cases hp <;> rfl
  | point h =>
    obtain ⟨htake, hdrop⟩ := takeWhile_isDigit_append h.isDigit (head?_power hp)
    rw [List.cons_append, readFraction, htake, hdrop]
    rfl

/-- **A number is read part by part.** -/
theorem readUnsigned?_append {whole fraction power : List Char} (hw : Digits whole)
    (hf : Fraction fraction) (hp : PowerOfTen power) :
    readUnsigned? (whole ++ fraction ++ power) =
      (readPower? power).map (decimalValue whole fraction.tail * ·) := by
  have hrest : ∀ c ∈ (fraction ++ power).head?, c.isDigit = false := by
    cases hf with
    | none => exact head?_power hp
    | point => simp
  obtain ⟨htake, hdrop⟩ := takeWhile_isDigit_append hw.isDigit hrest
  have hne : whole ++ fraction.tail ≠ [] := List.append_ne_nil_of_left_ne_nil hw.ne_nil _
  unfold readUnsigned?
  rw [List.append_assoc, htake, hdrop, readFraction_append hf hp]
  simp only [if_neg hne]

theorem readPower?_mark {sign : Char} {ds : List Char} (hsign : sign = '+' ∨ sign = '-')
    (h : Digits ds) : readPower? ('e' :: sign :: ds) =
      some (10 ^ ((if sign = '-' then -1 else 1) * (digitsValue ds : Int))) := by
  have hall : ds.all Char.isDigit = true := List.all_eq_true.2 h.isDigit
  rcases hsign with rfl | rfl <;> simp [readPower?, readSign, h.ne_nil, hall]

/-- What is read without a sign has none in front of it. -/
theorem readNumber?_of_readUnsigned? {cs : List Char} {q : ℚ} (h : readUnsigned? cs = some q) :
    readNumber? cs = some q := by
  have hsign : readSign cs = (1, cs) := by
    unfold readSign
    split
    -- in front of a sign there are no digits, so nothing is read there
    · simp [readUnsigned?, readFraction] at h
    · simp [readUnsigned?, readFraction] at h
    · rfl
  simp [readNumber?, hsign, h]

theorem readNumber?_minus (cs : List Char) : readNumber? ('-' :: cs) = (readUnsigned? cs).map (-·) := by
  simp [readNumber?, readSign]

/-! ## Integers -/

theorem readUnsigned?_of_digits {ds : List Char} (h : Digits ds) :
    readUnsigned? ds = some (digitsValue ds : ℚ) := by
  have hread := readUnsigned?_append h .none .none
  simpa [readPower?, decimalValue] using hread

theorem digitsValue_toDigits (n : Nat) : digitsValue (Nat.toDigits 10 n) = n :=
  Nat.ofDigitChars_ten_toDigits

/-- **An integer is read back.** -/
theorem readNumber?_intRepr (i : Int) : readNumber? i.repr.toList = some (i : ℚ) := by
  rw [Int.repr_eq_if]
  split
  case isTrue h =>
    have hdigits := digits_toDigits i.toNat
    rw [Nat.toList_repr, readNumber?_of_readUnsigned? (readUnsigned?_of_digits hdigits),
      digitsValue_toDigits]
    congr 1
    exact_mod_cast Int.toNat_of_nonneg h
  case isFalse h =>
    have hvalue : (((-i).toNat : Int) : ℚ) = ((-i : Int) : ℚ) := by
      rw [Int.toNat_of_nonneg (by omega)]
    rw [String.toList_append, Nat.toList_repr]
    show readNumber? ('-' :: Nat.toDigits 10 (-i).toNat) = _
    rw [readNumber?_minus, readUnsigned?_of_digits (digits_toDigits _), digitsValue_toDigits,
      Option.map_some, ← Int.cast_natCast, hvalue]
    simp

/-- The characters of an integer. -/
theorem isDigit_or_minus_of_mem_intRepr {i : Int} {c : Char} (h : c ∈ i.repr.toList) :
    c.isDigit = true ∨ c = '-' := by
  rw [Int.repr_eq_if] at h
  split at h
  · rw [Nat.toList_repr] at h
    exact .inl ((digits_toDigits _).isDigit c h)
  · rw [String.toList_append, List.mem_append, Nat.toList_repr] at h
    rcases h with h | h
    · exact .inr (by simpa using h)
    · exact .inl ((digits_toDigits _).isDigit c h)

end TableDdl.Literal
