import Mathlib.Data.List.TakeWhile
import Mathlib.Tactic.FieldSimp
import Mathlib.Tactic.Linarith
import Mathlib.Tactic.NormNum.Pow
import Mathlib.Tactic.Ring
import TableDdl.Proofs.Literal.Numeric

/-!
# What a written float stands for

A float is written as a decimal, with a point or with a power of ten. Read as a number, the text
stands for exactly that decimal, whichever of the two ways was taken, and the decimal is one of the
numbers that are rounded to the float.

* `placed`: the number that digits stand for, by the place of the first of them. Zeros after the last
  digit make no difference to it (`placed_append_zeros`), so they can be dropped;
* `readUnsigned?_plain`, `readUnsigned?_scientific`: both layouts keep that number;
* `Magnitude.holds_shortest`: the decimal that is written lies in the interval of the float;
* `exists_identifies_write`: so a finite float is written as a number that identifies it;
* `marked_write`: and with a point or a power of ten, which no integer has.
-/

namespace TableDdl.Decimal

open Literal

/-! ## Digits -/

theorem digitsValue_append (ds es : List Char) :
    digitsValue (ds ++ es) = digitsValue ds * 10 ^ es.length + digitsValue es := by
  unfold digitsValue
  rw [Nat.ofDigitChars_append, Nat.ofDigitChars_eq_ofDigitChars_zero, Nat.mul_comm]

theorem digitsValue_zeros (n : Nat) : digitsValue (Layout.zeros n) = 0 := by
  induction n with
  | zero => rfl
  | succ n ih =>
    have hcons : Layout.zeros (n + 1) = ['0'] ++ Layout.zeros n := rfl
    have hzero : digitsValue ['0'] = 0 := rfl
    rw [hcons, digitsValue_append, ih, hzero, Nat.zero_mul]

theorem digitsValue_zeros_append (n : Nat) (ds : List Char) :
    digitsValue (Layout.zeros n ++ ds) = digitsValue ds := by
  rw [digitsValue_append, digitsValue_zeros]
  simp

theorem decimalValue_eq (whole fraction : List Char) : decimalValue whole fraction =
    digitsValue (whole ++ fraction) * 10 ^ (-(fraction.length : Int)) := by
  rw [decimalValue, zpow_neg, zpow_natCast, div_eq_mul_inv]

/-- The number that digits stand for, if the first of them is at `10 ^ e`. -/
def placed (ds : List Char) (e : Int) : ℚ := digitsValue ds * 10 ^ (e + 1 - ds.length)

theorem placed_append_zeros (ds : List Char) (n : Nat) (e : Int) :
    placed (ds ++ Layout.zeros n) e = placed ds e := by
  have hlength : (Layout.zeros n).length = n := List.length_replicate
  have hpower : (10 : ℚ) ^ (e + 1 - ds.length) = 10 ^ n * 10 ^ (e + 1 - (ds.length + n : Int)) := by
    rw [← zpow_natCast, ← zpow_add₀ (by norm_num)]
    congr 1
    omega
  unfold placed
  rw [digitsValue_append, digitsValue_zeros, List.length_append, hlength, hpower]
  push_cast
  rw [add_zero, mul_assoc]

theorem exists_eq_trimZeros_append (ds : List Char) :
    ∃ n, ds = Layout.trimZeros ds ++ Layout.zeros n := by
  cases ds with
  | nil => exact ⟨0, rfl⟩
  | cons d rest =>
    have hsplit : rest.reverse.takeWhile (· == '0') ++ rest.reverse.dropWhile (· == '0') =
        rest.reverse := List.takeWhile_append_dropWhile
    have hzeros : rest.reverse.takeWhile (· == '0') =
        Layout.zeros (rest.reverse.takeWhile (· == '0')).length :=
      List.eq_replicate_iff.2 ⟨rfl, fun c hc => by simpa using List.mem_takeWhile_imp hc⟩
    refine ⟨(rest.reverse.takeWhile (· == '0')).length, ?_⟩
    have hrest := congrArg List.reverse hsplit
    rw [List.reverse_append, List.reverse_reverse, hzeros, Layout.zeros, List.reverse_replicate]
      at hrest
    rw [Layout.trimZeros, List.cons_append, Layout.zeros, hrest]

/-! ## Layouts -/

theorem readUnsigned?_point {whole fraction : List Char} (hw : Digits whole) (hf : Digits fraction) :
    readUnsigned? (whole ++ '.' :: fraction) = some (decimalValue whole fraction) := by
  have hread := readUnsigned?_append hw (.point hf) .none
  simpa [readPower?] using hread

theorem readUnsigned?_plain {ds : List Char} (h : Digits ds) (e : Int) :
    readUnsigned? (Layout.plain ds e) = some (placed ds e) := by
  have hlength : ∀ n, (Layout.zeros n).length = n := fun n => List.length_replicate
  unfold Layout.plain
  split
  case isTrue he =>
    have hzero : Digits ['0'] := .singleton (by decide)
    have hfraction := Digits.prepend (Layout.isDigit_zeros (-e - 1).toNat) h
    have hvalue : digitsValue (['0'] ++ (Layout.zeros (-e - 1).toNat ++ ds)) = digitsValue ds := by
      rw [← List.append_assoc]
      exact digitsValue_zeros_append ((-e - 1).toNat + 1) ds
    rw [List.append_assoc]
    show readUnsigned? (['0'] ++ '.' :: (Layout.zeros _ ++ ds)) = _
    rw [readUnsigned?_point hzero hfraction, decimalValue_eq, hvalue, placed, List.length_append,
      hlength]
    congr 3
    omega
  case isFalse he =>
    simp only
    split
    case isTrue hle =>
      have hwhole := h.append (Layout.isDigit_zeros (e.toNat + 1 - ds.length))
      have hzeros : ds ++ Layout.zeros (e.toNat + 1 - ds.length) ++ ['0'] =
          ds ++ Layout.zeros (e.toNat + 1 - ds.length + 1) := by
        rw [List.append_assoc, Layout.zeros, Layout.zeros, List.replicate_succ']
      have hplaced := placed_append_zeros ds (e.toNat + 1 - ds.length + 1) e
      show readUnsigned? (ds ++ Layout.zeros (e.toNat + 1 - ds.length) ++ '.' :: ['0']) = _
      rw [readUnsigned?_point hwhole (.singleton (by decide)), decimalValue_eq, hzeros, ← hplaced,
        placed, List.length_append, hlength]
      congr 3
      simp only [List.length_singleton]
      omega
    case isFalse hgt =>
      have hwhole : Digits (ds.take (e.toNat + 1)) :=
        ⟨by simpa using h.ne_nil, fun c hc => h.isDigit c (List.mem_of_mem_take hc)⟩
      have hfraction : Digits (ds.drop (e.toNat + 1)) :=
        ⟨by simpa using hgt, fun c hc => h.isDigit c (List.mem_of_mem_drop hc)⟩
      rw [List.append_assoc]
      show readUnsigned? (ds.take _ ++ '.' :: ds.drop _) = _
      rw [readUnsigned?_point hwhole hfraction, decimalValue_eq, List.take_append_drop, placed,
        List.length_drop]
      congr 3
      omega

theorem readUnsigned?_scientific (layout : Layout) {ds : List Char} (h : Digits ds) (e : Int) :
    readUnsigned? (layout.scientific ds e) = some (placed ds e) := by
  have hdigits : Digits (Layout.zeros (layout.exponentWidth - (Nat.toDigits 10 e.natAbs).length)
      ++ Nat.toDigits 10 e.natAbs) := .prepend (Layout.isDigit_zeros _) (digits_toDigits _)
  have hsign : (if e < 0 then '-' else '+') = '+' ∨ (if e < 0 then '-' else '+') = '-' := by
    split
    · exact .inr rfl
    · exact .inl rfl
  have hpower := readPower?_mark hsign hdigits
  have hexponent : (if (if e < 0 then '-' else '+') = '-' then (-1 : Int) else 1) *
      (digitsValue (Layout.zeros (layout.exponentWidth - (Nat.toDigits 10 e.natAbs).length)
        ++ Nat.toDigits 10 e.natAbs) : Int) = e := by
    rw [digitsValue_zeros_append, digitsValue_toDigits]
    by_cases he : e < 0
    · simp only [if_pos he, if_true]
      omega
    · simp only [if_neg he]
      rw [if_neg (by decide)]
      omega
  rw [hexponent] at hpower
  unfold Layout.scientific
  simp only [List.append_assoc]
  split
  · exact absurd rfl h.ne_nil
  · rename_i d
    have hread := readUnsigned?_append h .none (.mark hsign hdigits)
    rw [hpower] at hread
    simpa [decimalValue, placed] using hread
  · rename_i d rest hrest
    have hd : Digits [d] := .singleton (isDigit_head h)
    have hfraction : Digits rest :=
      ⟨by rintro rfl; exact hrest rfl, fun c hc => h.isDigit c (List.mem_cons_of_mem _ hc)⟩
    have hread := readUnsigned?_append hd (.point hfraction) (.mark hsign hdigits)
    have hplaced : placed (d :: rest) e = decimalValue [d] rest * 10 ^ e := by
      rw [placed, decimalValue_eq, mul_assoc, ← zpow_add₀ (by norm_num)]
      show _ * _ = (digitsValue (d :: rest) : ℚ) * _
      congr 2
      simp only [List.length_cons]
      omega
    rw [hpower] at hread
    rw [hplaced]
    simpa using hread

/-! ## Decimals -/

/-- The number that a decimal stands for. -/
def Scaled.value (d : Scaled) : ℚ := d.digits * 10 ^ d.exponent

/-- **What is written for a decimal stands for it.** -/
theorem readUnsigned?_writeScaled (layout : Layout) (d : Scaled) :
    readUnsigned? (layout.writeScaled d) = some d.value := by
  have hdigits := digits_toDigits d.digits
  have hpos : 0 < (Nat.toDigits 10 d.digits).length := List.length_pos_iff.2 hdigits.ne_nil
  obtain ⟨n, hn⟩ := exists_eq_trimZeros_append (Nat.toDigits 10 d.digits)
  have hvalue : placed (Layout.trimZeros (Nat.toDigits 10 d.digits))
      (d.exponent + ((Nat.toDigits 10 d.digits).length - 1 : Nat)) = d.value := by
    rw [← placed_append_zeros _ n, ← hn, placed, digitsValue_toDigits, Scaled.value]
    congr 2
    omega
  have hkept := Layout.digits_trimZeros hdigits
  unfold Layout.writeScaled
  simp only
  rw [← hvalue]
  split
  · exact readUnsigned?_plain hkept _
  · exact readUnsigned?_scientific layout hkept _

/-! ## The interval of a float -/

namespace Magnitude

/-- The numbers that are rounded to the value: those in the interval around it, and the ends of the
interval if the significand is even. -/
def Holds (m : Magnitude) (q : ℚ) : Prop :=
  let lower : ℚ := m.lowerQuarters * 2 ^ (m.exponent - 2)
  let upper : ℚ := m.upperQuarters * 2 ^ (m.exponent - 2)
  if m.significand % 2 = 0 then lower ≤ q ∧ q ≤ upper else lower < q ∧ q < upper

/-- The common factor that makes a decimal and a number of quarters natural numbers. -/
def denominator (m : Magnitude) (d : Scaled) : ℚ := 10 ^ (-d.exponent).toNat * m.den

theorem denominator_pos (m : Magnitude) (d : Scaled) : 0 < m.denominator d := by
  have hden : 0 < m.den := Nat.pow_pos (by decide)
  exact mul_pos (pow_pos (by norm_num) _) (Nat.cast_pos.2 hden)

theorem zpow_mul_pow (b : ℚ) (hb : b ≠ 0) (e : Int) : b ^ e * b ^ (-e).toNat = b ^ e.toNat := by
  rw [← zpow_natCast, ← zpow_natCast, ← zpow_add₀ hb]
  congr 1
  omega

theorem num_eq (m : Magnitude) (d : Scaled) (quarters : Nat) :
    (quarters * 2 ^ (m.exponent - 2) : ℚ) * m.denominator d =
      (m.num quarters * Nat.pow 10 (-d.exponent).toNat : Nat) := by
  have hpower := zpow_mul_pow 2 (by norm_num) (m.exponent - 2)
  have hneg : (-(m.exponent - 2)).toNat = (2 - m.exponent).toNat := by omega
  rw [hneg] at hpower
  unfold denominator num den
  push_cast [Nat.pow_eq]
  rw [← hpower]
  ring

theorem point_eq (m : Magnitude) (d : Scaled) : d.value * m.denominator d =
    (d.digits * Nat.pow 10 d.exponent.toNat * m.den : Nat) := by
  have hpower := zpow_mul_pow 10 (by norm_num) d.exponent
  unfold denominator Scaled.value
  push_cast [Nat.pow_eq]
  rw [← hpower]
  ring

/-- **The test of a decimal is exact.** -/
theorem near_iff (m : Magnitude) (d : Scaled) : m.near d = true ↔ m.Holds d.value := by
  have hlower := m.num_eq d m.lowerQuarters
  have hupper := m.num_eq d m.upperQuarters
  have hpoint := m.point_eq d
  have hpos := m.denominator_pos d
  -- the test compares natural numbers: both sides, multiplied by the denominator
  unfold Holds near
  simp only
  rw [← mul_lt_mul_iff_left₀ hpos, ← mul_lt_mul_iff_left₀ hpos (b := d.value),
    ← mul_le_mul_iff_left₀ hpos, ← mul_le_mul_iff_left₀ hpos (b := d.value), hlower, hupper, hpoint,
    Nat.cast_lt, Nat.cast_lt, Nat.cast_le, Nat.cast_le]
  simp only [within, Bool.and_eq_true, Bool.or_eq_true, decide_eq_true_eq, beq_iff_eq]
  split <;> omega

theorem value_exact (m : Magnitude) : m.exact.value = m.significand * 2 ^ m.exponent := by
  unfold exact Scaled.value
  split
  case isTrue h =>
    have hpower := zpow_natCast (2 : ℚ) m.exponent.toNat
    rw [Int.toNat_of_nonneg h] at hpower
    push_cast [Nat.pow_eq]
    rw [hpower]
    simp
  case isFalse h =>
    have hneg : m.exponent = -((-m.exponent).toNat : Int) := by omega
    generalize (-m.exponent).toNat = n at hneg
    have hten : (10 : ℚ) ^ n = 5 ^ n * 2 ^ n := by
      rw [← mul_pow]
      norm_num
    rw [hneg, zpow_neg, zpow_neg, zpow_natCast, zpow_natCast, hten]
    push_cast [Nat.pow_eq]
    field_simp

theorem holds_exact {m : Magnitude} (h : 0 < m.significand) : m.Holds m.exact.value := by
  have hquarter : (0 : ℚ) < 2 ^ (m.exponent - 2) := zpow_pos (by norm_num) _
  have hvalue : m.exact.value = (4 * m.significand : Nat) * 2 ^ (m.exponent - 2) := by
    have hpower : (2 : ℚ) ^ m.exponent = 4 * 2 ^ (m.exponent - 2) := by
      rw [zpow_sub₀ (by norm_num)]
      norm_num
      ring
    rw [value_exact, hpower]
    push_cast
    ring
  have hlower : m.lowerQuarters < 4 * m.significand := by
    unfold lowerQuarters
    split <;> omega
  have hupper : 4 * m.significand < m.upperQuarters := by
    unfold upperQuarters
    omega
  have hbelow := mul_lt_mul_of_pos_right (Nat.cast_lt (α := ℚ).2 hlower) hquarter
  have habove := mul_lt_mul_of_pos_right (Nat.cast_lt (α := ℚ).2 hupper) hquarter
  unfold Holds
  rw [hvalue]
  split
  · exact ⟨hbelow.le, habove.le⟩
  · exact ⟨hbelow, habove⟩

/-- **The decimal that is written is in the interval.** -/
theorem holds_shortest {m : Magnitude} (h : 0 < m.significand) : m.Holds m.shortest.value := by
  unfold shortest
  cases hshort : m.shortest? with
  | none => exact holds_exact h
  | some d => exact (m.near_iff d).1 (near_of_shortest? hshort)

end Magnitude

/-- A float that is not zero has a significand. -/
theorem significand_pos {x : Float} (h : x.toBits &&& 0x7FFFFFFFFFFFFFFF ≠ 0) :
    0 < (Magnitude.ofFloat x).significand := by
  generalize hbits : x.toBits = bits at h
  have hrest : (bits &&& 0x7FFFFFFFFFFFFFFF).toNat = bits.toNat % 2 ^ 63 := by
    rw [UInt64.toNat_and]
    exact Nat.and_two_pow_sub_one_eq_mod _ 63
  have hbiased : ((bits >>> 52) &&& 0x7FF).toNat = bits.toNat / 2 ^ 52 % 2 ^ 11 := by
    rw [UInt64.toNat_and, UInt64.toNat_shiftRight]
    exact (Nat.and_two_pow_sub_one_eq_mod _ 11).trans (by rw [Nat.shiftRight_eq_div_pow]; rfl)
  have hfraction : (bits &&& 0xFFFFFFFFFFFFF).toNat = bits.toNat % 2 ^ 52 := by
    rw [UInt64.toNat_and]
    exact Nat.and_two_pow_sub_one_eq_mod _ 52
  have hne : bits.toNat % 2 ^ 63 ≠ 0 := by
    rw [← hrest]
    intro hzero
    exact h (UInt64.toNat_inj.1 hzero)
  unfold Magnitude.ofFloat
  rw [hbits, hbiased, hfraction]
  simp only
  split
  · simp only
    omega
  · simp only
    omega

/-! ## Floats -/

/-- The float is what the number is rounded to. -/
def Identifies (q : ℚ) (x : Float) : Prop :=
  ∃ r, q = (if x.toBits >>> 63 = 1 then -1 else 1) * r ∧
    if x.toBits &&& 0x7FFFFFFFFFFFFFFF = 0 then r = 0 else (Magnitude.ofFloat x).Holds r

/-- **A finite float is written as a number that identifies it.** -/
theorem exists_identifies_write (layout : Layout) {x : Float} (h : x.isFinite = true) :
    ∃ q, readNumber? (layout.write x).toList = some q ∧ Identifies q x := by
  obtain ⟨hnan, hinf⟩ := Layout.isNaN_isInf_of_isFinite h
  have hmagnitude : ∃ r, readUnsigned? (if x.toBits &&& 0x7FFFFFFFFFFFFFFF = 0 then ['0', '.', '0']
      else layout.writeScaled (Magnitude.ofFloat x).shortest) = some r ∧
      if x.toBits &&& 0x7FFFFFFFFFFFFFFF = 0 then r = 0 else (Magnitude.ofFloat x).Holds r := by
    split
    case isTrue =>
      have hzero : Digits ['0'] := .singleton (by decide)
      refine ⟨_, readUnsigned?_point hzero hzero, ?_⟩
      rw [decimalValue_eq]
      exact zero_mul _
    case isFalse hne =>
      exact ⟨_, readUnsigned?_writeScaled layout _, Magnitude.holds_shortest (significand_pos hne)⟩
  obtain ⟨r, hread, hr⟩ := hmagnitude
  unfold Layout.write
  rw [hnan, if_neg Bool.false_ne_true, String.toList_ofList, hinf, if_neg Bool.false_ne_true]
  split
  case isTrue hsign =>
    refine ⟨-r, ?_, r, ?_, hr⟩
    · show readNumber? ('-' :: (if _ then _ else _)) = _
      rw [readNumber?_minus, hread]
      rfl
    · rw [if_pos hsign]
      ring
  case isFalse hsign =>
    refine ⟨r, ?_, r, ?_, hr⟩
    · exact readNumber?_of_readUnsigned? hread
    · rw [if_neg hsign]
      ring

/-! ## Floats and integers -/

/-- What tells a float from an integer: a point, or the power of ten. -/
def Marked (cs : List Char) : Prop := ∃ c ∈ cs, c = '.' ∨ c = 'e'

namespace Layout

theorem marked_plain (digits : List Char) (e : Int) : Marked (plain digits e) := by
  unfold plain
  split
  · exact ⟨'.', by simp, .inl rfl⟩
  · simp only
    split
    · exact ⟨'.', by simp, .inl rfl⟩
    · exact ⟨'.', by simp, .inl rfl⟩

theorem marked_scientific (layout : Layout) (digits : List Char) (e : Int) :
    Marked (layout.scientific digits e) := by
  unfold scientific
  exact ⟨'e', by simp, .inr rfl⟩

theorem marked_writeScaled (layout : Layout) (d : Scaled) : Marked (layout.writeScaled d) := by
  unfold writeScaled
  simp only
  split
  · exact marked_plain _ _
  · exact marked_scientific layout _ _

end Layout

/-- **A finite float is not written as an integer is.** -/
theorem marked_write (layout : Layout) {x : Float} (h : x.isFinite = true) :
    Marked (layout.write x).toList := by
  obtain ⟨hnan, hinf⟩ := Layout.isNaN_isInf_of_isFinite h
  unfold Layout.write
  rw [hnan, if_neg Bool.false_ne_true, String.toList_ofList, hinf, if_neg Bool.false_ne_true]
  have hmagnitude : Marked (if x.toBits &&& 0x7FFFFFFFFFFFFFFF = 0 then ['0', '.', '0']
      else layout.writeScaled (Magnitude.ofFloat x).shortest) := by
    split
    · exact ⟨'.', by simp, .inl rfl⟩
    · exact Layout.marked_writeScaled layout _
  obtain ⟨c, hc, hmark⟩ := hmagnitude
  exact ⟨c, List.mem_append_right _ hc, hmark⟩

end TableDdl.Decimal
