import TableDdl.Proofs.Literal.Number

/-!
# Complete literals

What a default is written as is one literal: `NULL`, a number, or a string between quotes that ends
where it is closed (`Literal.IsComplete`). The exception is a number that is a member of an
enumeration, which is written as its label.

`IsNumber` is the grammar of numbers: digits with or without a minus before them, and after them
perhaps a fraction and a power of ten. Nothing in a number means anything to a reader of SQL
(`IsNumber.not_delimiter`).

* `isNumber_intRepr`, `isNumber_write`: integers and finite floats are written as numbers, where the
  two ways to lay out a float are `isNumber_plain` and `isNumber_scientific`;
* `Literal.isComplete_of_defaultText?`: so every default that is accepted is one complete literal or
  the label of a member.
-/

namespace TableDdl

/-! ## Numbers -/

/-- At least one digit, and nothing but digits. -/
structure Digits (cs : List Char) : Prop where
  ne_nil : cs ≠ []
  isDigit : ∀ c ∈ cs, c.isDigit = true

namespace Digits

theorem singleton {c : Char} (h : c.isDigit = true) : Digits [c] :=
  ⟨List.cons_ne_nil _ _, fun _ hd => List.mem_singleton.1 hd ▸ h⟩

theorem append {cs ds : List Char} (hc : Digits cs) (hd : ∀ c ∈ ds, c.isDigit = true) :
    Digits (cs ++ ds) :=
  ⟨List.append_ne_nil_of_left_ne_nil hc.ne_nil ds, List.forall_mem_append.2 ⟨hc.isDigit, hd⟩⟩

theorem prepend {cs ds : List Char} (hc : ∀ c ∈ cs, c.isDigit = true) (hd : Digits ds) :
    Digits (cs ++ ds) :=
  ⟨List.append_ne_nil_of_right_ne_nil cs hd.ne_nil, List.forall_mem_append.2 ⟨hc, hd.isDigit⟩⟩

theorem isNumberChar {cs : List Char} (h : Digits cs) : ∀ c ∈ cs, isNumberChar c = true := by
  intro c hc
  simp [TableDdl.isNumberChar, h.isDigit c hc]

end Digits

theorem digits_toDigits (n : Nat) : Digits (Nat.toDigits 10 n) :=
  ⟨Nat.toDigits_ne_nil, fun _ hc => Nat.isDigit_of_mem_toDigits (by decide) (by decide) hc⟩

/-- What may follow the whole part of a number. -/
inductive Fraction : List Char → Prop where
  | none : Fraction []
  | point {ds : List Char} (h : Digits ds) : Fraction ('.' :: ds)

inductive PowerOfTen : List Char → Prop where
  | none : PowerOfTen []
  | mark {sign : Char} {ds : List Char} (hsign : sign = '+' ∨ sign = '-') (h : Digits ds) :
      PowerOfTen ('e' :: sign :: ds)

/-- **A number.** -/
inductive IsNumber : List Char → Prop where
  | unsigned {whole fraction power : List Char} (hwhole : Digits whole)
      (hfraction : Fraction fraction) (hpower : PowerOfTen power) :
      IsNumber (whole ++ fraction ++ power)
  | minus {cs : List Char} (h : IsNumber cs) : IsNumber ('-' :: cs)

/-- The characters that end or separate what is read: blanks, commas, quotes, parentheses. -/
def delimiters : List Char := [' ', ',', '\'', '"', '(', ')']

namespace IsNumber

theorem isNumberChar {cs : List Char} (h : IsNumber cs) : ∀ c ∈ cs, isNumberChar c = true := by
  induction h with
  | minus _ ih => exact List.forall_mem_cons.2 ⟨by decide, ih⟩
  | unsigned hwhole hfraction hpower =>
    refine List.forall_mem_append.2 ⟨List.forall_mem_append.2 ⟨hwhole.isNumberChar, ?_⟩, ?_⟩
    · cases hfraction with
      | none => exact List.forall_mem_nil _
      | point h => exact List.forall_mem_cons.2 ⟨by decide, h.isNumberChar⟩
    · cases hpower with
      | none => exact List.forall_mem_nil _
      | mark hsign h =>
        refine List.forall_mem_cons.2 ⟨by decide, List.forall_mem_cons.2 ⟨?_, h.isNumberChar⟩⟩
        rcases hsign with rfl | rfl <;> decide

/-- **A number cannot be taken for more than it is.** -/
theorem not_delimiter {cs : List Char} (h : IsNumber cs) : ∀ c ∈ cs, c ∉ delimiters := by
  have hall : ∀ c ∈ delimiters, (!TableDdl.isNumberChar c) = true := List.all_eq_true.1 rfl
  intro c hc hmem
  have hnot : (!TableDdl.isNumberChar c) = true := hall c hmem
  rw [h.isNumberChar c hc] at hnot
  exact Bool.false_ne_true hnot

theorem ofDigits {cs : List Char} (h : Digits cs) : IsNumber cs := by
  simpa using IsNumber.unsigned h .none .none

theorem withFraction {whole fraction : List Char} (hw : Digits whole) (hf : Digits fraction) :
    IsNumber (whole ++ '.' :: fraction) := by
  simpa using IsNumber.unsigned hw (.point hf) .none

end IsNumber

theorem isNumber_intRepr (i : Int) : IsNumber i.repr.toList := by
  rw [Int.repr_eq_if]
  split
  · rw [Nat.toList_repr]
    exact .ofDigits (digits_toDigits _)
  · rw [String.toList_append, Nat.toList_repr]
    exact .minus (.ofDigits (digits_toDigits _))

/-! ## Floats -/

namespace Decimal.Layout

theorem isDigit_zeros (n : Nat) : ∀ c ∈ zeros n, c.isDigit = true := by
  intro c hc
  rw [List.eq_of_mem_replicate hc]
  decide

/-- The first digit is kept. -/
theorem digits_trimZeros {digits : List Char} (h : Digits digits) : Digits (trimZeros digits) := by
  refine ⟨?_, fun c hc => h.isDigit c (mem_of_mem_trimZeros hc)⟩
  cases digits with
  | nil => exact absurd rfl h.ne_nil
  | cons d rest => exact List.cons_ne_nil _ _

theorem isNumber_plain {digits : List Char} (h : Digits digits) (e : Int) :
    IsNumber (plain digits e) := by
  unfold plain
  split
  · rw [List.append_assoc]
    show IsNumber (['0'] ++ '.' :: (zeros _ ++ digits))
    exact .withFraction (.singleton (by decide)) (.prepend (isDigit_zeros _) h)
  · simp only
    split
    · exact .withFraction (h.append (isDigit_zeros _)) (.singleton (by decide))
    · rename_i hlength
      rw [List.append_assoc]
      refine .withFraction ⟨?_, ?_⟩ ⟨?_, ?_⟩
      · simpa using h.ne_nil
      · exact fun c hc => h.isDigit c (List.mem_of_mem_take hc)
      · simpa using hlength
      · exact fun c hc => h.isDigit c (List.mem_of_mem_drop hc)

theorem isNumber_scientific (layout : Layout) {digits : List Char} (h : Digits digits) (e : Int) :
    IsNumber (layout.scientific digits e) := by
  have hpower : PowerOfTen ('e' :: (if e < 0 then '-' else '+')
      :: (zeros (layout.exponentWidth - (Nat.toDigits 10 e.natAbs).length)
        ++ Nat.toDigits 10 e.natAbs)) := by
    refine .mark ?_ (.prepend (isDigit_zeros _) (digits_toDigits _))
    split
    · exact .inr rfl
    · exact .inl rfl
  unfold scientific
  simp only [List.append_assoc]
  split
  · exact absurd rfl h.ne_nil
  · exact IsNumber.unsigned h .none hpower
  · rename_i d rest hrest
    have hd : d.isDigit = true := h.isDigit d List.mem_cons_self
    have hfraction : Digits rest :=
      ⟨by rintro rfl; exact hrest rfl, fun c hc => h.isDigit c (List.mem_cons_of_mem _ hc)⟩
    exact IsNumber.unsigned (.singleton hd) (.point hfraction) hpower

theorem isNumber_writeScaled (layout : Layout) (d : Scaled) : IsNumber (layout.writeScaled d) := by
  have hkept : Digits (trimZeros (Nat.toDigits 10 d.digits)) :=
    digits_trimZeros (digits_toDigits _)
  unfold writeScaled
  simp only
  split
  · exact isNumber_plain hkept _
  · exact isNumber_scientific layout hkept _

theorem isNaN_isInf_of_isFinite {x : Float} (h : x.isFinite = true) :
    x.isNaN = false ∧ x.isInf = false := by
  unfold Float.isFinite Float.Model.isFinite at h
  unfold Float.isNaN Float.isInf Float.Model.isNaN Float.Model.isInf
  generalize x.toModel.unpack = unpacked at h ⊢
  cases unpacked <;> first | exact ⟨rfl, rfl⟩ | cases h

/-- **A finite float is written as a number** in every layout. -/
theorem isNumber_write (layout : Layout) {x : Float} (h : x.isFinite = true) :
    IsNumber (layout.write x).toList := by
  obtain ⟨hnan, hinf⟩ := isNaN_isInf_of_isFinite h
  have hmagnitude : IsNumber (if x.toBits &&& 0x7FFFFFFFFFFFFFFF = 0 then ['0', '.', '0']
      else layout.writeScaled (Magnitude.ofFloat x).shortest) := by
    split
    · exact .withFraction (.singleton (c := '0') (by decide)) (.singleton (by decide))
    · exact isNumber_writeScaled layout _
  unfold write
  rw [hnan, if_neg Bool.false_ne_true, String.toList_ofList, hinf, if_neg Bool.false_ne_true]
  split
  · exact .minus hmagnitude
  · exact hmagnitude

end Decimal.Layout

/-! ## Defaults -/

namespace Literal

/-- A string literal that is closed by its last quote, and by no quote before. -/
def IsString (s : String) : Prop := ∃ text, read s.toList = some (text, [])

/-- **One complete literal.** -/
inductive IsComplete (s : String) : Prop where
  | null (h : s = "NULL")
  | number (h : IsNumber s.toList) (plain : ∀ c ∈ s.toList, c ∉ delimiters)
  | string (h : IsString s)

theorem isString_quote (s : String) : IsString (quote s) := by
  have hread : read (quoteChars s.toList ++ []) = some (s.toList, []) :=
    read_quoteChars s.toList (by simp)
  refine ⟨s.toList, ?_⟩
  rw [quote, String.toList_ofList]
  rwa [List.append_nil] at hread

theorem IsComplete.ofNumber {s : String} (h : IsNumber s.toList) : IsComplete s :=
  .number h h.not_delimiter

theorem defaultText?_float_eq_some_iff {x : Float} {s : String} :
    defaultText? (.float x) = some s ↔ x.isFinite = true ∧ s = Value.floatLayout.write x := by
  show (if x.isFinite then some (Value.floatLayout.write x) else none) = some s ↔ _
  cases x.isFinite <;> simp [eq_comm]

/-- What is written for a member of an enumeration. -/
def IsLabel (s : String) : Prop := ∃ label : Label, s = label.text

/-- The members that can be a default are numbers, and they are written as their labels. -/
theorem defaultText?_member_eq_some_iff {label : Label} {described s : String}
    {number : Option Number} {value : Value} :
    defaultText? (.member label described number value) = some s ↔
      number.any Number.isFinite = true ∧ s = label.text := by
  show (if number.any Number.isFinite then some label.text else none) = some s ↔ _
  cases number.any Number.isFinite <;> simp [eq_comm]

/-- **A default is one complete literal, or a label.** -/
theorem isComplete_of_defaultText? {v : Value} {s : String} (h : defaultText? v = some s) :
    IsComplete s ∨ IsLabel s := by
  cases v with
  | none =>
    cases h
    exact .inl (.null rfl)
  | bool b =>
    cases h
    refine .inl (.ofNumber (.ofDigits ?_))
    cases b
    · exact .singleton (c := '0') (by decide)
    · exact .singleton (c := '1') (by decide)
  | int i =>
    cases h
    exact .inl (.ofNumber (isNumber_intRepr i))
  | float x =>
    obtain ⟨hx, rfl⟩ := defaultText?_float_eq_some_iff.1 h
    exact .inl (.ofNumber (Decimal.Layout.isNumber_write _ hx))
  | str text =>
    cases h
    exact .inl (.string (isString_quote text))
  | dialect d =>
    cases h
    exact .inl (.string (isString_quote d.name))
  | member label described number value =>
    exact .inr ⟨label, (defaultText?_member_eq_some_iff.1 h).2⟩
  | _ => cases h

end Literal

end TableDdl
