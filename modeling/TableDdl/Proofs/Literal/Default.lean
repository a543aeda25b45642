import TableDdl.Column.Call
import TableDdl.Proofs.Decimal.Written

/-!
# Defaults are faithful

`readTerm?` reads one literal of the standard: `NULL`, a string between quotes, or a number. What
`render_default` writes is read back as the value itself, so two defaults that are written alike are
the same value.

* `exists_defaultText?_iff`: the values that have a text;
* `exists_readTerm?`: the text of each is read as a term that it stands for, unless the value is a
  member of an enumeration;
* `default_faithful`: both at once, and what follows for values that could be confused: a string
  that looks like a number or like `NULL`, a float that is whole.

A member that is a number is written as its label, and this need not be a literal at all
(`label_is_no_literal`).
-/

namespace TableDdl

/-! ## Terms -/

/-- What a literal stands for. -/
inductive Term where
  | null
  | number (q : ℚ)
  | text (s : String)

namespace Literal

/-- **Reads a text that is one literal.** The keyword is read without regard to case. -/
def readTerm? (s : String) : Option Term :=
  match read s.toList with
  | some (text, []) => some (.text (String.ofList text))
  | some _ => none
  | none =>
    match readNumber? s.toList with
    | some q => some (.number q)
    | none => if s.toList.map Char.toUpper = ['N', 'U', 'L', 'L'] then some .null else none

theorem readTerm?_null : readTerm? "NULL" = some .null := by
  have hread : readNumber? "NULL".toList = none := rfl
  have hquote : read "NULL".toList = none := rfl
  have hupper : "NULL".toList.map Char.toUpper = ['N', 'U', 'L', 'L'] := rfl
  unfold readTerm?
  rw [hquote, hread]
  exact if_pos hupper

theorem readTerm?_quote (s : String) : readTerm? (quote s) = some (.text s) := by
  have hread : read (quote s).toList = some (s.toList, []) := by
    rw [quote, String.toList_ofList, ← List.append_nil (quoteChars s.toList)]
    exact read_quoteChars s.toList (by simp)
  unfold readTerm?
  rw [hread]
  exact congrArg (some ∘ Term.text) String.ofList_toList

/-- A number does not start with a quote. -/
theorem readTerm?_number {s : String} {q : ℚ} (h : readNumber? s.toList = some q) :
    readTerm? s = some (.number q) := by
  have hquote : read s.toList = none := by
    unfold read
    split
    case h_1 cs hcs =>
      rw [hcs] at h
      simp [readNumber?, readSign, readUnsigned?, readFraction] at h
    case h_2 => rfl
  unfold readTerm?
  rw [hquote, h]

end Literal

/-! ## What can be written -/

namespace Value

/-- **The values that can be a default.** A member of an enumeration is one if it is a number. -/
inductive HasLiteral : Value → Prop where
  | none : HasLiteral .none
  | bool (b : Bool) : HasLiteral (.bool b)
  | int (i : Int) : HasLiteral (.int i)
  | float {x : Float} (h : x.isFinite = true) : HasLiteral (.float x)
  | text {v : Value} {t : Text} (h : v.text? = some t) : HasLiteral v
  | member {label : Label} {described : String} {number : Option Number} {value : Value}
      (h : number.any Number.isFinite = true) : HasLiteral (.member label described number value)

/-- **What a value is to a reader of SQL.** A flag is the number one or zero, and a float is any of
the numbers that are rounded to it. -/
inductive StandsFor : Value → Term → Prop where
  | none : StandsFor .none .null
  | bool (b : Bool) : StandsFor (.bool b) (.number (if b then 1 else 0))
  | int (i : Int) : StandsFor (.int i) (.number i)
  | float {x : Float} {q : ℚ} (h : Decimal.Identifies q x) : StandsFor (.float x) (.number q)
  | text {v : Value} {t : Text} (h : v.text? = some t) : StandsFor v (.text t.content)

/-- Nothing, an integer or a text. -/
inductive IsExact : Value → Prop where
  | none : IsExact .none
  | int (i : Int) : IsExact (.int i)
  | text {v : Value} {t : Text} (h : v.text? = some t) : IsExact v

/-- The same value. A dialect is the same text as its name. -/
inductive Same : Value → Value → Prop where
  | refl (v : Value) : Same v v
  | text {v w : Value} {t u : Text} (hv : v.text? = some t) (hw : w.text? = some u)
      (h : t.content = u.content) : Same v w

theorem StandsFor.of_text {v : Value} {t : Text} {term : Term} (h : v.StandsFor term)
    (ht : v.text? = some t) : term = .text t.content := by
  cases h with
  | text hu =>
    rw [ht] at hu
    cases hu
    rfl
  | _ => cases ht

theorem StandsFor.of_int {i : Int} {term : Term} (h : (Value.int i).StandsFor term) :
    term = .number i := by
  cases h with
  | int => rfl
  | text ht => cases ht

theorem StandsFor.of_none {term : Term} (h : Value.none.StandsFor term) : term = .null := by
  cases h with
  | none => rfl
  | text ht => cases ht

/-- **Two of these values that stand for one term are the same.** -/
theorem IsExact.same {v w : Value} {term : Term} (hv : v.IsExact) (hw : w.IsExact)
    (hvt : v.StandsFor term) (hwt : w.StandsFor term) : v.Same w := by
  cases hv with
  | none =>
    obtain rfl := hvt.of_none
    cases hwt with
    | none => exact .refl _
  | int i =>
    obtain rfl := hvt.of_int
    cases hw with
    | none => cases hwt.of_none
    | int j =>
      have hij : (i : ℚ) = j := Term.number.inj hwt.of_int
      rw [Int.cast_inj.1 hij]
      exact .refl _
    | text hu => cases hwt.of_text hu
  | text ht =>
    obtain rfl := hvt.of_text ht
    cases hw with
    | none => cases hwt.of_none
    | int j => cases hwt.of_int
    | text hu => exact .text ht hu (Term.text.inj (hwt.of_text hu))

end Value

namespace Literal

theorem defaultText?_of_text? {v : Value} {t : Text} (h : v.text? = some t) :
    defaultText? v = some (quote t.content) := by
  obtain rfl := Value.text?_eq_some_iff.1 h
  cases t <;> rfl

/-- **A default is accepted if and only if it can be written.** -/
theorem exists_defaultText?_iff {v : Value} : (∃ text, defaultText? v = some text) ↔ v.HasLiteral := by
  constructor
  · rintro ⟨text, h⟩
    cases v with
    | none => exact .none
    | bool b => exact .bool b
    | int i => exact .int i
    | float x => exact .float (defaultText?_float_eq_some_iff.1 h).1
    | str s => exact .text (t := .plain s) rfl
    | dialect d => exact .text (t := .dialect d) rfl
    | member => exact .member (defaultText?_member_eq_some_iff.1 h).1
    | _ => cases h
  · intro h
    cases h with
    | none => exact ⟨_, rfl⟩
    | bool b => exact ⟨_, rfl⟩
    | int i => exact ⟨_, rfl⟩
    | float hx => exact ⟨_, defaultText?_float_eq_some_iff.2 ⟨hx, rfl⟩⟩
    | text ht => exact ⟨_, defaultText?_of_text? ht⟩
    | member h => exact ⟨_, defaultText?_member_eq_some_iff.2 ⟨h, rfl⟩⟩

/-- **What is written stands for the value**, unless it is a label. -/
theorem exists_readTerm? {v : Value} {text : String} (hmember : v.label? = none)
    (h : defaultText? v = some text) : ∃ term, readTerm? text = some term ∧ v.StandsFor term := by
  have hv : v.HasLiteral := exists_defaultText?_iff.1 ⟨text, h⟩
  cases hv with
  | none =>
    cases h
    exact ⟨_, readTerm?_null, .none⟩
  | bool b =>
    cases h
    refine ⟨_, ?_, .bool b⟩
    cases b
    · exact readTerm?_number (readNumber?_intRepr 0)
    · exact readTerm?_number (readNumber?_intRepr 1)
  | int i =>
    cases h
    exact ⟨_, readTerm?_number (readNumber?_intRepr i), .int i⟩
  | @float x hx =>
    obtain rfl := (defaultText?_float_eq_some_iff.1 h).2
    obtain ⟨q, hread, hq⟩ := Decimal.exists_identifies_write Value.floatLayout hx
    exact ⟨_, readTerm?_number hread, .float hq⟩
  | @text _ t ht =>
    rw [defaultText?_of_text? ht] at h
    cases h
    exact ⟨_, readTerm?_quote t.content, .text ht⟩
  | member => cases hmember

/-- The text of a float has a point or a power of ten. -/
theorem defaultText?_float_ne_int {x : Float} {i : Int} {text : String}
    (h : defaultText? (.float x) = some text) : text ≠ i.repr := by
  obtain ⟨hx, rfl⟩ := defaultText?_float_eq_some_iff.1 h
  obtain ⟨c, hc, hmark⟩ := Decimal.marked_write Value.floatLayout hx
  intro heq
  rw [heq] at hc
  rcases isDigit_or_minus_of_mem_intRepr hc with hdigit | rfl
  · rcases hmark with rfl | rfl <;> exact absurd hdigit (by decide)
  · rcases hmark with hdot | he
    · exact absurd hdot (by decide)
    · exact absurd he (by decide)

end Literal

/-! ## Defaults -/

/-- What a default is written as is the value itself, to a reader of SQL. A member is written as its
label. -/
structure DefaultFaithful (v : Value) : Prop where
  /-- The values that have a literal are accepted, if it is not too long. -/
  accepted : (∃ text, defaultOf v = .ok text) ↔ v.HasLiteral ∧ v.display?.isSome = true
  tooLong : v.HasLiteral → v.display? = none → defaultOf v = .error .unwritable
  rejected : ¬v.HasLiteral → defaultOf v = .error (ColumnError.invalidDefault v).raised
  read : ∀ {text : String}, v.label? = none → defaultOf v = .ok text →
    ∃ term, Literal.readTerm? text = some term ∧ v.StandsFor term
  label : ∀ {label : Label} {text : String}, v.label? = some label → defaultOf v = .ok text →
    text = label.text
  same : ∀ {w : Value} {text : String}, v.IsExact → w.IsExact → defaultOf v = .ok text →
    defaultOf w = .ok text → v.Same w
  float_ne_int : ∀ {x : Float} {i : Int} {text : String}, v = .float x → defaultOf v = .ok text →
    defaultOf (.int i) ≠ .ok text

theorem Value.IsExact.label? {v : Value} (h : v.IsExact) : v.label? = .none := by
  cases h with
  | none => rfl
  | int i => rfl
  | @text _ t ht =>
    obtain rfl := text?_eq_some_iff.1 ht
    cases t <;> rfl

/-- **Defaults are faithful**, up to labels. -/
theorem default_faithful (v : Value) : DefaultFaithful v where
  accepted := by
    simp only [defaultOf_eq_ok_iff, exists_and_right, Literal.exists_defaultText?_iff]
  tooLong := by
    intro hliteral hnone
    obtain ⟨text, htext⟩ := Literal.exists_defaultText?_iff.2 hliteral
    unfold defaultOf
    rw [htext, hnone]
    rfl
  rejected := by
    intro hnot
    have hnone : Literal.defaultText? v = none := by
      rw [Option.eq_none_iff_forall_not_mem]
      intro text htext
      exact hnot (Literal.exists_defaultText?_iff.1 ⟨text, htext⟩)
    unfold defaultOf
    rw [hnone]
  read := by
    intro text hmember h
    exact Literal.exists_readTerm? hmember (defaultOf_eq_ok_iff.1 h).1
  label := by
    intro label text hlabel h
    cases v with
    | member =>
      cases hlabel
      exact (Literal.defaultText?_member_eq_some_iff.1 (defaultOf_eq_ok_iff.1 h).1).2
    | _ => cases hlabel
  same := by
    intro w text hv hw hvt hwt
    obtain ⟨term, hread, hterm⟩ :=
      Literal.exists_readTerm? hv.label? (defaultOf_eq_ok_iff.1 hvt).1
    obtain ⟨term', hread', hterm'⟩ :=
      Literal.exists_readTerm? hw.label? (defaultOf_eq_ok_iff.1 hwt).1
    obtain rfl : term = term' := Option.some.inj (hread.symm.trans hread')
    exact hv.same hw hterm hterm'
  float_ne_int := by
    rintro x i text rfl hx hi
    have htext : i.repr = text := Option.some.inj (defaultOf_eq_ok_iff.1 hi).1
    exact Literal.defaultText?_float_ne_int (defaultOf_eq_ok_iff.1 hx).1 htext.symm

/-- A member that is the integer one, as it comes of an enumeration of integers. -/
def lowLevel : Value :=
  .member { text := "Level.LOW" } "<Level.LOW: 1>" (some (.int 1)) (.int 1)

/-- **The label of a member need not be a literal**, although the member is an integer. -/
theorem label_is_no_literal :
    lowLevel.int? = some 1 ∧ defaultOf lowLevel = .ok "Level.LOW" ∧
      Literal.readTerm? "Level.LOW" = none := by
  refine ⟨rfl, rfl, ?_⟩
  have hquote : Literal.read "Level.LOW".toList = none := rfl
  have hnumber : Literal.readNumber? "Level.LOW".toList = none := rfl
  have hnull : ¬"Level.LOW".toList.map Char.toUpper = ['N', 'U', 'L', 'L'] := by decide
  unfold Literal.readTerm?
  rw [hquote, hnumber]
  exact if_neg hnull

end TableDdl
