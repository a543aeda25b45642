import TableDdl.Literal

/-!
# The characters of numbers

Integers and floats are written in digits, signs, a point, the mark of an exponent and the letters
of the names for what is no finite number (`isNumberChar`). None of these characters means anything
to a reader of SQL, so a number cannot be taken for more than it is.
-/

namespace TableDdl

/-- A character in which a number can be written. -/
def isNumberChar (c : Char) : Bool := c.isDigit || ['-', '+', '.', 'e', 'i', 'n', 'f', 'a'].contains c

theorem isNumberChar_of_mem_toDigits {n : Nat} {c : Char} (h : c ∈ Nat.toDigits 10 n) :
    isNumberChar c = true := by
  have hd : c.isDigit = true := Nat.isDigit_of_mem_toDigits (by decide) (by decide) h
  simp [isNumberChar, hd]

theorem isNumberChar_intRepr {i : Int} {c : Char} (h : c ∈ i.repr.toList) : isNumberChar c = true := by
  rw [Int.repr_eq_if] at h
  split at h
  · rw [Nat.toList_repr] at h
    exact isNumberChar_of_mem_toDigits h
  · rw [String.toList_append, List.mem_append] at h
    rcases h with h | h
    · have hc : c = '-' := by simpa using h
      rw [hc]
      decide
    · rw [Nat.toList_repr] at h
      exact isNumberChar_of_mem_toDigits h

namespace Decimal.Layout

theorem isNumberChar_zeros {n : Nat} {c : Char} (h : c ∈ zeros n) : isNumberChar c = true := by
  rw [List.eq_of_mem_replicate h]
  decide

theorem mem_of_mem_trimZeros {digits : List Char} {c : Char} (h : c ∈ trimZeros digits) :
    c ∈ digits := by
  cases digits with
  | nil => exact h
  | cons d rest =>
    rcases List.mem_cons.1 h with rfl | h
    · exact List.mem_cons_self
    · rw [List.mem_reverse] at h
      exact List.mem_cons_of_mem _ (List.mem_reverse.1 ((List.dropWhile_sublist _).subset h))

theorem isNumberChar_plain {digits : List Char} (hd : ∀ c ∈ digits, isNumberChar c = true) (e : Int) :
    ∀ c ∈ plain digits e, isNumberChar c = true := by
  have hzeropoint : ∀ c ∈ ['0', '.'], isNumberChar c = true := List.all_eq_true.1 rfl
  have hpointzero : ∀ c ∈ ['.', '0'], isNumberChar c = true := List.all_eq_true.1 rfl
  have hpoint : ∀ c ∈ ['.'], isNumberChar c = true := List.all_eq_true.1 rfl
  intro c hc
  unfold plain at hc
  split at hc
  · rcases List.mem_append.1 hc with hc | hc
    · rcases List.mem_append.1 hc with hc | hc
      · exact hzeropoint c hc
      · exact isNumberChar_zeros hc
    · exact hd c hc
  · simp only at hc
    split at hc
    · rcases List.mem_append.1 hc with hc | hc
      · rcases List.mem_append.1 hc with hc | hc
        · exact hd c hc
        · exact isNumberChar_zeros hc
      · exact hpointzero c hc
    · rcases List.mem_append.1 hc with hc | hc
      · rcases List.mem_append.1 hc with hc | hc
        · exact hd c (List.mem_of_mem_take hc)
        · exact hpoint c hc
      · exact hd c (List.mem_of_mem_drop hc)

theorem isNumberChar_scientific (layout : Layout) {digits : List Char}
    (hd : ∀ c ∈ digits, isNumberChar c = true) (e : Int) :
    ∀ c ∈ layout.scientific digits e, isNumberChar c = true := by
  have hmark : ∀ c ∈ ['e', if e < 0 then '-' else '+'], isNumberChar c = true := by
    split <;> exact List.all_eq_true.1 rfl
  intro c hc
  unfold scientific at hc
  rcases List.mem_append.1 hc with hc | hc
  · rcases List.mem_append.1 hc with hc | hc
    · rcases List.mem_append.1 hc with hc | hc
      · split at hc
        · cases hc
        · exact hd c hc
        · rcases List.mem_cons.1 hc with rfl | hc
          · exact hd c List.mem_cons_self
          · rcases List.mem_cons.1 hc with rfl | hc
            · decide
            · exact hd c (List.mem_cons_of_mem _ hc)
      · exact hmark c hc
    · exact isNumberChar_zeros hc
  · exact isNumberChar_of_mem_toDigits hc

theorem isNumberChar_writeScaled (layout : Layout) (d : Scaled) :
    ∀ c ∈ layout.writeScaled d, isNumberChar c = true := by
  have hkept : ∀ c ∈ trimZeros (Nat.toDigits 10 d.digits), isNumberChar c = true :=
    fun c hc => isNumberChar_of_mem_toDigits (mem_of_mem_trimZeros hc)
  intro c hc
  unfold writeScaled at hc
  simp only at hc
  split at hc
  · exact isNumberChar_plain hkept _ c hc
  · exact isNumberChar_scientific layout hkept _ c hc

/-- **A float is written in number characters**, if its format names them in such characters where
it has no digits. -/
theorem isNumberChar_write {layout : Layout}
    (hnan : ∀ c ∈ layout.notANumber.toList, isNumberChar c = true)
    (hinf : ∀ c ∈ layout.infinity.toList, isNumberChar c = true) (x : Float) :
    ∀ c ∈ (layout.write x).toList, isNumberChar c = true := by
  have hsign : ∀ c ∈ ['-'], isNumberChar c = true := List.all_eq_true.1 rfl
  have hzero : ∀ c ∈ ['0', '.', '0'], isNumberChar c = true := List.all_eq_true.1 rfl
  intro c hc
  unfold write at hc
  split at hc
  · exact hnan c hc
  · simp only [String.toList_ofList] at hc
    rcases List.mem_append.1 hc with hc | hc
    · split at hc
      · exact hsign c hc
      · cases hc
    · split at hc
      · exact hinf c hc
      · split at hc
        · exact hzero c hc
        · exact isNumberChar_writeScaled layout _ c hc

end Decimal.Layout

theorem isNumberChar_floatLayout (x : Float) :
    ∀ c ∈ (Value.floatLayout.write x).toList, isNumberChar c = true :=
  Decimal.Layout.isNumberChar_write (List.all_eq_true.1 rfl) (List.all_eq_true.1 rfl) x

end TableDdl
