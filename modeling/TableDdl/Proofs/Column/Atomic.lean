import Mathlib.Data.Set.List
import TableDdl.Column.Edit
import TableDdl.Proofs.Literal.Default
import TableDdl.Proofs.Result
import TableDdl.Proofs.Table.Failure

/-!
# Calls are all or nothing

A call is refused for its arguments, or because the foreign key that it speaks of has not been
started. `Column.Refuses` says when, and with which reason, without carrying the call out. Where an
integer with too many digits has to be written, in a literal, in a type or in the message of another
refusal, the reason is that it cannot be (`ColumnError.unwritable`).

Some calls are made of others: the shortcuts `pk`, `fk`, `ip` and `uuid`, and an `enum` without a
native type, which is text with a check. `Column.execute` carries the parts out one after the other
and keeps the changes made before a refusal. It leaves no trace of a refused call all the same, since
only the first part of a call is refused. The exception is an enumeration for whose check the name of
the column is too long (`Column.FailsHalfway`).

* `lengthOf_eq_error_iff` and its like: what each kind of argument has to be;
* `apply_eq_error_iff`: a call is refused exactly as `Refuses` says;
* `execute_acts`: the parts of a call come to what the call as a whole comes to;
* `call_all_or_nothing`: so a call is carried out as a whole, or refused for one of these reasons and
  the column is what it was. An unwritable name breaks this (`endless_name_leaves_type`).
-/

namespace TableDdl

/-! ## Arguments -/

namespace Value

/-- A whole number from zero up to a maximum. A flag is no number. -/
def IsLength (v : Value) (maximum : Nat) : Prop := ∃ n : Nat, v.int? = some (n : Int) ∧ n ≤ maximum

def IsText (v : Value) : Prop := ∃ t : Text, v = t.toValue

def IsAction (v : Value) : Prop := ∃ a : ReferentialAction, v = .action a

theorem exists_fullText?_iff {v : Value} : (∃ t, v.fullText? = some t) ↔ v.IsFull := by
  simp only [fullText?_eq_some_iff, IsFull]

theorem fullText?_eq_none_iff {v : Value} : v.fullText? = .none ↔ ¬v.IsFull := by
  rw [← exists_fullText?_iff, Option.eq_none_iff_forall_ne_some, not_exists]

end Value

/-- Digits in all, and no more of them after the point. -/
def IsPrecision (total places : Value) : Prop :=
  ∃ t p : Nat, total.int? = some (t : Int) ∧ places.int? = some (p : Int) ∧ p ≤ t

/-- The digits have to be written and are too many. -/
def Dialect.Overflows (d : Dialect) (total places : Value) : Prop :=
  d.writesDigits = true ∧ (total.display? = none ∨ places.display? = none)

/-- At least one value, and nothing but texts. -/
def AreMembers (values : List Value) : Prop := values ≠ [] ∧ ∀ v ∈ values, v.IsText

theorem lengthOf_eq_error_iff {maximum : Nat} {v : Value} {e : ColumnError} :
    lengthOf maximum v = .error e ↔
      ¬v.IsLength maximum ∧ e = (ColumnError.invalidLength v maximum).raised := by
  unfold lengthOf
  split
  · rename_i n hn
    split
    · rename_i hrange
      have hlength : v.IsLength maximum :=
        ⟨n.toNat, by rw [hn, Int.toNat_of_nonneg hrange.1], by omega⟩
      exact ok_eq_error_iff hlength
    · rename_i hrange
      have hlength : ¬v.IsLength maximum := by
        rintro ⟨k, hk, hle⟩
        obtain rfl : n = k := Option.some.inj (hn.symm.trans hk)
        omega
      exact error_eq_error_iff hlength
  · rename_i hnone
    have hlength : ¬v.IsLength maximum := by
      rintro ⟨k, hk, -⟩
      rw [hnone] at hk
      cases hk
    exact error_eq_error_iff hlength

theorem isPrecision_iff {total places : Value} {t p : Int} (ht : total.int? = some t)
    (hp : places.int? = some p) : IsPrecision total places ↔ 0 ≤ t ∧ 0 ≤ p ∧ p ≤ t := by
  constructor
  · rintro ⟨k, l, hk, hl, hle⟩
    obtain rfl : t = k := Option.some.inj (ht.symm.trans hk)
    obtain rfl : p = l := Option.some.inj (hp.symm.trans hl)
    omega
  · rintro ⟨ht0, hp0, hle⟩
    exact ⟨t.toNat, p.toNat, by rw [ht, Int.toNat_of_nonneg ht0],
      by rw [hp, Int.toNat_of_nonneg hp0], by omega⟩

theorem overflows_iff (d : Dialect) (total places : Value) : d.Overflows total places ↔
    (d.writesDigits && !(total.display?.isSome && places.display?.isSome)) = true := by
  unfold Dialect.Overflows
  cases total.display? <;> cases places.display? <;> simp

/-- The digits are looked at before they are written. -/
theorem decimalOf_eq_error_iff {d : Dialect} {total places : Value} {e : ColumnError} :
    decimalOf d total places = .error e ↔
      ¬IsPrecision total places ∧ e = (ColumnError.invalidDecimal total places).raised ∨
      IsPrecision total places ∧ d.Overflows total places ∧ e = .unwritable := by
  unfold decimalOf
  split
  · rename_i t p ht hp
    have hiff := isPrecision_iff ht hp
    split
    · rename_i hrange
      have hprecision := hiff.2 hrange
      split
      · rename_i hdigits
        have hover := (overflows_iff d total places).2 hdigits
        simp [hprecision, hover, eq_comm]
      · rename_i hdigits
        have hover := mt (overflows_iff d total places).1 hdigits
        simp [hprecision, hover]
    · rename_i hrange
      have hprecision := mt hiff.1 hrange
      simp [hprecision, eq_comm]
  · rename_i hnone
    have hprecision : ¬IsPrecision total places := by
      rintro ⟨k, l, hk, hl, -⟩
      exact hnone k l hk hl
    simp [hprecision, eq_comm]

theorem areMembers_iff {values : List Value} :
    AreMembers values ↔ ∃ texts : List Text, texts ≠ [] ∧ values = texts.map Text.toValue := by
  constructor
  · rintro ⟨hne, hall⟩
    have hrange : values ∈ Set.range (List.map Text.toValue) := by
      rw [Set.range_list_map]
      intro v hv
      obtain ⟨t, rfl⟩ := hall v hv
      exact ⟨t, rfl⟩
    obtain ⟨texts, rfl⟩ := hrange
    exact ⟨texts, by simpa using hne, rfl⟩
  · rintro ⟨texts, hne, rfl⟩
    refine ⟨by simpa using hne, fun v hv => ?_⟩
    obtain ⟨t, -, rfl⟩ := List.mem_map.1 hv
    exact ⟨t, rfl⟩

theorem enumOf_eq_error_iff {values : List Value} {e : ColumnError} :
    enumOf values = .error e ↔
      ¬AreMembers values ∧ e = (ColumnError.invalidEnum values).raised := by
  unfold enumOf
  split
  · rename_i hnil
    have hmembers : ¬AreMembers values := by
      rintro ⟨hne, -⟩
      exact hne (Value.mapM_text?_eq_some_iff.1 hnil)
    exact error_eq_error_iff hmembers
  · rename_i texts hne htexts
    have hmembers : AreMembers values :=
      areMembers_iff.2 ⟨texts, hne, Value.mapM_text?_eq_some_iff.1 htexts⟩
    exact ok_eq_error_iff hmembers
  · rename_i hnone
    have hmembers : ¬AreMembers values := by
      intro h
      obtain ⟨texts, -, htexts⟩ := areMembers_iff.1 h
      rw [Value.mapM_text?_eq_some_iff.2 htexts] at hnone
      cases hnone
    exact error_eq_error_iff hmembers

theorem exists_enumOf_iff {values : List Value} :
    (∃ texts, enumOf values = .ok texts) ↔ AreMembers values := by
  rw [exists_eq_ok_iff]
  constructor
  · intro h
    by_contra hnot
    exact h _ (enumOf_eq_error_iff.2 ⟨hnot, rfl⟩)
  · intro h e he
    exact (enumOf_eq_error_iff.1 he).1 h

theorem defaultOf_eq_error_iff {v : Value} {e : ColumnError} :
    defaultOf v = .error e ↔
      ¬v.HasLiteral ∧ e = (ColumnError.invalidDefault v).raised ∨
      v.HasLiteral ∧ v.display? = none ∧ e = .unwritable := by
  unfold defaultOf
  split
  · rename_i text htext
    have hliteral := Literal.exists_defaultText?_iff.1 ⟨text, htext⟩
    cases v.display? <;> simp [hliteral, eq_comm]
  · rename_i hnone
    have hliteral : ¬v.HasLiteral := by
      intro h
      obtain ⟨text, htext⟩ := Literal.exists_defaultText?_iff.2 h
      rw [hnone] at htext
      cases htext
    simp [hliteral, eq_comm]

theorem checkOf_eq_error_iff {v : Value} {e : ColumnError} :
    checkOf v = .error e ↔ ¬v.IsFull ∧ e = (ColumnError.invalidCheck v).raised := by
  unfold checkOf
  split
  · rename_i t ht
    exact ok_eq_error_iff (Value.exists_fullText?_iff.1 ⟨t, ht⟩)
  · rename_i hnone
    exact error_eq_error_iff (Value.fullText?_eq_none_iff.1 hnone)

/-- The table is looked at before the column. -/
theorem referenceOf_eq_error_iff {table column : Value} {e : ColumnError} :
    referenceOf table column = .error e ↔
      ¬table.IsFull ∧ e = (ColumnError.invalidReferenceTable table).raised ∨
      table.IsFull ∧ ¬column.IsFull ∧ e = (ColumnError.invalidReferenceColumn column).raised := by
  unfold referenceOf
  split
  · rename_i htable
    have ht := Value.fullText?_eq_none_iff.1 htable
    rw [error_eq_error_iff ht]
    exact (or_iff_left fun h => ht h.1).symm
  · rename_i t htable hcolumn
    have ht : table.IsFull := Value.exists_fullText?_iff.1 ⟨t, htable⟩
    rw [error_eq_error_iff (Value.fullText?_eq_none_iff.1 hcolumn)]
    simp [ht]
  · rename_i t c htable hcolumn
    have ht : table.IsFull := Value.exists_fullText?_iff.1 ⟨t, htable⟩
    have hc : column.IsFull := Value.exists_fullText?_iff.1 ⟨c, hcolumn⟩
    simp [ht, hc]

theorem actionOf_eq_error_iff {v : Value} {e : ColumnError} :
    actionOf v = .error e ↔ ¬v.IsAction ∧ e = (ColumnError.invalidAction v).raised := by
  unfold actionOf
  split
  · rename_i a
    exact ok_eq_error_iff ⟨a, rfl⟩
  · rename_i hnot
    have haction : ¬v.IsAction := by
      rintro ⟨a, rfl⟩
      exact hnot a rfl
    exact error_eq_error_iff haction

theorem exists_referenceOf_iff {table column : Value} :
    (∃ r, referenceOf table column = .ok r) ↔ table.IsFull ∧ column.IsFull := by
  rw [exists_eq_ok_iff]
  constructor
  · intro h
    have ht : table.IsFull := by
      by_contra ht
      exact h _ (referenceOf_eq_error_iff.2 (.inl ⟨ht, rfl⟩))
    have hc : column.IsFull := by
      by_contra hc
      exact h _ (referenceOf_eq_error_iff.2 (.inr ⟨ht, hc, rfl⟩))
    exact ⟨ht, hc⟩
  · rintro ⟨ht, hc⟩ e he
    rcases referenceOf_eq_error_iff.1 he with ⟨hnot, -⟩ | ⟨-, hnot, -⟩
    · exact hnot ht
    · exact hnot hc

theorem exists_actionOf_iff {v : Value} : (∃ a, actionOf v = .ok a) ↔ v.IsAction := by
  rw [exists_eq_ok_iff]
  constructor
  · intro h
    by_contra hnot
    exact h _ (actionOf_eq_error_iff.2 ⟨hnot, rfl⟩)
  · intro h e he
    exact (actionOf_eq_error_iff.1 he).1 h

/-! ## Refusals -/

namespace Column

theorem updateForeignKey_eq_error_iff {c : Column} {f : ForeignKey → ForeignKey} {e : ColumnError} :
    c.updateForeignKey f = .error e ↔
      c.constraints.foreignKey = none ∧ e = .undefinedForeignKey := by
  unfold updateForeignKey
  cases c.constraints.foreignKey with
  | none => exact ⟨fun h => ⟨rfl, (Except.error.inj h).symm⟩, fun h => h.2 ▸ rfl⟩
  | some key => exact iff_of_false nofun nofun

/-- What is said of a foreign key is looked at first, and then the key has to be there. -/
theorem bind_updateForeignKey_eq_error_iff {α : Type} {x : Except ColumnError α} {c : Column}
    {f : α → ForeignKey → ForeignKey} {e : ColumnError} :
    (x >>= fun a => c.updateForeignKey (f a)) = .error e ↔
      x = .error e ∨
      (∃ a, x = .ok a) ∧ c.constraints.foreignKey = none ∧ e = .undefinedForeignKey := by
  rw [bind_eq_error_iff]
  simp only [updateForeignKey_eq_error_iff, exists_and_right]

/-- **When a call is refused, and why.** Arguments are looked at before the foreign key, and a reason
has to be written. -/
inductive Refuses (c : Column) : Call → ColumnError → Prop where
  | decimal {total places : Value} (h : ¬IsPrecision total places) :
      Refuses c (.decimal total places) (ColumnError.invalidDecimal total places).raised
  | char {length : Value} (h : ¬length.IsLength 255) :
      Refuses c (.char length) (ColumnError.invalidLength length 255).raised
  | varchar {length : Value} (h : ¬length.IsLength 65535) :
      Refuses c (.varchar length) (ColumnError.invalidLength length 65535).raised
  | enum {values : List Value} (h : ¬AreMembers values) :
      Refuses c (.enum values) (ColumnError.invalidEnum values).raised
  | default {value : Value} (h : ¬value.HasLiteral) :
      Refuses c (.default value) (ColumnError.invalidDefault value).raised
  | check {condition : Value} (h : ¬condition.IsFull) :
      Refuses c (.check condition) (ColumnError.invalidCheck condition).raised
  | table {table column : Value} (h : ¬table.IsFull) :
      Refuses c (.references table column) (ColumnError.invalidReferenceTable table).raised
  | column {table column : Value} (ht : table.IsFull) (hc : ¬column.IsFull) :
      Refuses c (.references table column) (ColumnError.invalidReferenceColumn column).raised
  | onUpdate {action : Value} (h : ¬action.IsAction) :
      Refuses c (.onUpdate action) (ColumnError.invalidAction action).raised
  | onDelete {action : Value} (h : ¬action.IsAction) :
      Refuses c (.onDelete action) (ColumnError.invalidAction action).raised
  | referencesNoKey {table column : Value} (ht : table.IsFull) (hc : column.IsFull)
      (hkey : c.constraints.foreignKey = none) :
      Refuses c (.references table column) .undefinedForeignKey
  | onUpdateNoKey {action : Value} (h : action.IsAction) (hkey : c.constraints.foreignKey = none) :
      Refuses c (.onUpdate action) .undefinedForeignKey
  | onDeleteNoKey {action : Value} (h : action.IsAction) (hkey : c.constraints.foreignKey = none) :
      Refuses c (.onDelete action) .undefinedForeignKey
  | endlessDecimal {total places : Value} (h : IsPrecision total places)
      (hdigits : c.dialect.Overflows total places) : Refuses c (.decimal total places) .unwritable
  | endlessDefault {value : Value} (h : value.HasLiteral) (hdigits : value.display? = none) :
      Refuses c (.default value) .unwritable
  | endlessName {values : List Value} (h : AreMembers values)
      (hcheck : c.dialect.nativeEnum = false) (hname : c.name.display? = none) :
      Refuses c (.enum values) .unwritable

theorem apply_eq_error_iff {c : Column} {call : Call} {e : ColumnError} :
    c.apply call = .error e ↔ c.Refuses call e := by
  cases call with
  | decimal total places =>
    show (decimalOf c.dialect total places >>= fun x => pure _) = _ ↔ _
    rw [bind_pure_eq_error_iff, decimalOf_eq_error_iff]
    constructor
    · rintro (⟨h, rfl⟩ | ⟨h, hdigits, rfl⟩)
      · exact .decimal h
      · exact .endlessDecimal h hdigits
    · intro hr
      cases hr with
      | decimal h => exact .inl ⟨h, rfl⟩
      | endlessDecimal h hdigits => exact .inr ⟨h, hdigits, rfl⟩
  | char length =>
    show (lengthOf 255 length >>= fun x => pure _) = _ ↔ _
    rw [bind_pure_eq_error_iff, lengthOf_eq_error_iff]
    constructor
    · rintro ⟨h, rfl⟩
      exact .char h
    · intro hr
      cases hr with
      | char h => exact ⟨h, rfl⟩
  | varchar length =>
    show (lengthOf 65535 length >>= fun x => pure _) = _ ↔ _
    rw [bind_pure_eq_error_iff, lengthOf_eq_error_iff]
    constructor
    · rintro ⟨h, rfl⟩
      exact .varchar h
    · intro hr
      cases hr with
      | varchar h => exact ⟨h, rfl⟩
  | enum values =>
    show (enumOf values >>= c.withEnum) = _ ↔ _
    rw [bind_eq_error_iff, enumOf_eq_error_iff]
    simp only [withEnum_eq_error_iff, exists_and_right, exists_enumOf_iff]
    constructor
    · rintro (⟨h, rfl⟩ | ⟨h, hcheck, hname, rfl⟩)
      · exact .enum h
      · exact .endlessName h hcheck hname
    · intro hr
      cases hr with
      | enum h => exact .inl ⟨h, rfl⟩
      | endlessName h hcheck hname => exact .inr ⟨h, hcheck, hname, rfl⟩
  | default value =>
    show (defaultOf value >>= fun x => pure _) = _ ↔ _
    rw [bind_pure_eq_error_iff, defaultOf_eq_error_iff]
    constructor
    · rintro (⟨h, rfl⟩ | ⟨h, hdigits, rfl⟩)
      · exact .default h
      · exact .endlessDefault h hdigits
    · intro hr
      cases hr with
      | default h => exact .inl ⟨h, rfl⟩
      | endlessDefault h hdigits => exact .inr ⟨h, hdigits, rfl⟩
  | check condition =>
    show (checkOf condition >>= fun x => pure _) = _ ↔ _
    rw [bind_pure_eq_error_iff, checkOf_eq_error_iff]
    constructor
    · rintro ⟨h, rfl⟩
      exact .check h
    · intro hr
      cases hr with
      | check h => exact ⟨h, rfl⟩
  | references table column =>
    show (referenceOf table column >>= fun r => c.updateForeignKey _) = _ ↔ _
    rw [bind_updateForeignKey_eq_error_iff, exists_referenceOf_iff, referenceOf_eq_error_iff]
    constructor
    · rintro ((⟨ht, rfl⟩ | ⟨ht, hc, rfl⟩) | ⟨⟨ht, hc⟩, hkey, rfl⟩)
      · exact .table ht
      · exact .column ht hc
      · exact .referencesNoKey ht hc hkey
    · intro hr
      cases hr with
      | table ht => exact .inl (.inl ⟨ht, rfl⟩)
      | column ht hc => exact .inl (.inr ⟨ht, hc, rfl⟩)
      | referencesNoKey ht hc hkey => exact .inr ⟨⟨ht, hc⟩, hkey, rfl⟩
  | onUpdate action =>
    show (actionOf action >>= fun a => c.updateForeignKey _) = _ ↔ _
    rw [bind_updateForeignKey_eq_error_iff, exists_actionOf_iff, actionOf_eq_error_iff]
    constructor
    · rintro (⟨h, rfl⟩ | ⟨h, hkey, rfl⟩)
      · exact .onUpdate h
      · exact .onUpdateNoKey h hkey
    · intro hr
      cases hr with
      | onUpdate h => exact .inl ⟨h, rfl⟩
      | onUpdateNoKey h hkey => exact .inr ⟨h, hkey, rfl⟩
  | onDelete action =>
    show (actionOf action >>= fun a => c.updateForeignKey _) = _ ↔ _
    rw [bind_updateForeignKey_eq_error_iff, exists_actionOf_iff, actionOf_eq_error_iff]
    constructor
    · rintro (⟨h, rfl⟩ | ⟨h, hkey, rfl⟩)
      · exact .onDelete h
      · exact .onDeleteNoKey h hkey
    · intro hr
      cases hr with
      | onDelete h => exact .inl ⟨h, rfl⟩
      | onDeleteNoKey h hkey => exact .inr ⟨h, hkey, rfl⟩
  | _ => exact iff_of_false nofun nofun

/-! ## Parts of a call -/

/-- One change of a column, or the reason for which it is not made. -/
abbrev Act := Column → Except ColumnError Column

/-- **Makes changes one after the other, up to the first that is refused.** Those before it stay. -/
def execute (c : Column) : List Act → Column × Option ColumnError
  | [] => (c, none)
  | act :: acts =>
    match act c with
    | .ok next => next.execute acts
    | .error e => (c, some e)

theorem execute_cons_of_ok {c next : Column} {act : Act} {acts : List Act} (h : act c = .ok next) :
    c.execute (act :: acts) = next.execute acts := by
  rw [execute, h]

theorem execute_singleton (c : Column) (act : Act) :
    c.execute [act] = match act c with
      | .ok next => (next, none)
      | .error e => (c, some e) := by
  unfold execute
  cases act c <;> rfl

/-- The type of an enum is written before its check is added. -/
def writeEnumType (values : List Text) : Act := fun c => .ok (c.withEnumType values)

/-- The check of an enum is written, and then it goes through the same door as any other. -/
def addEnumCheck (values : List Text) : Act := fun c =>
  if c.dialect.nativeEnum then .ok c
  else do
    let condition ← c.membershipCheck values
    c.apply (.check condition.toValue)

end Column

/-- **The changes that a call is made of**, in their order. -/
def Call.acts : Call → List Column.Act
  | .enum values =>
    match enumOf values with
    | .error e => [fun _ => .error e]
    | .ok texts => [Column.writeEnumType texts, Column.addEnumCheck texts]
  | .pk => [(·.apply (.simple .bigInt)), (·.apply .unsigned), (·.apply .autoIncrement),
      (·.apply .primaryKey)]
  | .fk => [(·.apply (.simple .bigInt)), (·.apply .unsigned), (·.apply .foreignKey)]
  | .ip => [(·.apply (.varchar (.int 39)))]
  | .uuid => [(·.apply (.varchar (.int 36)))]
  | call => [(·.apply call)]

namespace Column

/-- **The check of an enum is never refused once it is written**, since it is not empty. -/
theorem addEnumCheck_eq (c : Column) (values : List Text) :
    addEnumCheck values c = if c.dialect.nativeEnum then .ok c
      else (c.membershipCheck values).map c.withCheck := by
  unfold addEnumCheck membershipCheck
  cases c.dialect.nativeEnum with
  | true => rfl
  | false =>
    cases c.name.display? with
    | none => rfl
    | some name =>
      have hfull : (Text.plain (name ++ " IN (" ++ Literal.quoteAll (values.map Text.content)
          ++ ")")).content ≠ "" := by
        intro hempty
        have hchars : (name ++ " IN (" ++ Literal.quoteAll (values.map Text.content)
            ++ ")").toList = [] := congrArg String.toList hempty
        simp only [String.toList_append, List.append_eq_nil_iff] at hchars
        exact absurd hchars.2 (by decide)
      show (checkOf _ >>= fun condition => pure (c.withCheck condition)) = _
      rw [checkOf, Value.fullText?_eq_some_iff.2 ⟨rfl, hfull⟩]
      rfl

theorem acts_enum_of_ok {values : List Value} {texts : List Text} (h : enumOf values = .ok texts) :
    (Call.enum values).acts = [writeEnumType texts, addEnumCheck texts] := by
  rw [Call.acts, h]

/-- The type of an enum is there when its check is written. -/
theorem execute_acts_enum (c : Column) {values : List Value} {texts : List Text}
    (h : enumOf values = .ok texts) :
    c.execute (Call.enum values).acts =
      match c.withEnum texts with
      | .ok next => (next, none)
      | .error e => (c.withEnumType texts, some e) := by
  have htype : writeEnumType texts c = .ok (c.withEnumType texts) := rfl
  have hcheck : addEnumCheck texts (c.withEnumType texts) = c.withEnum texts := by
    rw [addEnumCheck_eq]
    unfold withEnum
    show (if c.dialect.nativeEnum then _ else (c.membershipCheck texts).map _) = _
    cases c.dialect.nativeEnum <;> rfl
  rw [acts_enum_of_ok h, execute_cons_of_ok htype, execute_singleton, hcheck]

/-- **The parts of a call come to the call.** A refused call leaves no more than is left half-way. -/
theorem execute_acts (c : Column) (call : Call) :
    c.execute call.acts =
      match c.apply call with
      | .ok next => (next, none)
      | .error e => ((c.halfway? call).getD c, some e) := by
  cases call with
  | enum values =>
    cases htexts : enumOf values with
    | error e =>
      have hacts : (Call.enum values).acts = [fun _ => .error e] := by rw [Call.acts, htexts]
      rw [hacts]
      simp only [apply, halfway?, htexts]
      rfl
    | ok texts =>
      rw [c.execute_acts_enum htexts]
      simp only [halfway?, c.apply_enum htexts, htexts]
      cases c.withEnum texts <;> rfl
  | pk | fk | ip | uuid => rfl
  | _ => exact c.execute_singleton (·.apply _)

/-- **A call that fails half-way**: an enumeration that needs a check, on a column whose name is too
long to be written in it. The type has been chosen. -/
inductive FailsHalfway (c : Column) : Call → Column → Prop where
  | enum {values : List Value} {texts : List Text} (h : enumOf values = .ok texts)
      (hcheck : c.dialect.nativeEnum = false) (hname : c.name.display? = none) :
      FailsHalfway c (.enum values) (c.withEnumType texts)

theorem halfway?_eq_some_iff {c left : Column} {call : Call} :
    c.halfway? call = some left ↔ c.FailsHalfway call left := by
  constructor
  · intro h
    cases call with
    | enum values =>
      simp only [halfway?] at h
      split at h
      · rename_i texts e htexts he
        cases h
        rw [c.apply_enum htexts] at he
        obtain ⟨hcheck, hname, -⟩ := withEnum_eq_error_iff.1 he
        exact .enum htexts hcheck hname
      · cases h
    | _ => cases h
  · intro h
    cases h with
    | @enum values texts htexts hcheck hname =>
      have hfails : c.withEnum texts = .error .unwritable :=
        withEnum_eq_error_iff.2 ⟨hcheck, hname, rfl⟩
      simp only [halfway?, htexts, c.apply_enum htexts, hfails]

/-- **Calls are all or nothing.** A call is refused exactly outside of its domain, and then the
column is what it was, although the parts of the call are carried out one after the other. Only a name
that is too long for a check lets a call fail half-way. -/
theorem call_all_or_nothing (c : Column) {method : String} {arguments : List Value} {call : Call}
    (h : Call.ofMethod method arguments = .ok call) :
    (∀ e, (c.execute call.acts).2 = some e ↔ c.Refuses call e) ∧
    ((c.execute call.acts).2 ≠ none → (∀ left, ¬c.FailsHalfway call left) →
      (c.execute call.acts).1 = c) ∧
    (∀ left, c.FailsHalfway call left → c.execute call.acts = (left, some .unwritable)) ∧
    c.editOrKeep (.call method arguments) =
      ((c.execute call.acts).1, (c.execute call.acts).2.map .ofColumn) := by
  have hedit : c.edit (.call method arguments) = (c.apply call).mapError .ofColumn := by
    simp only [edit, h]
  have hhalfway : c.editHalfway? (.call method arguments) = c.halfway? call := by
    simp only [editHalfway?, h]
    rfl
  unfold editOrKeep
  rw [hedit, hhalfway, execute_acts]
  refine ⟨fun e => ?_, fun hrefused hwhole => ?_, fun left hleft => ?_, ?_⟩
  · rw [← apply_eq_error_iff]
    cases c.apply call with
    | ok next => exact iff_of_false nofun nofun
    | error reason => simp
  · have hnone : c.halfway? call = none := by
      rw [Option.eq_none_iff_forall_ne_some]
      exact fun left hleft => hwhole left (halfway?_eq_some_iff.1 hleft)
    cases hcall : c.apply call with
    | ok next =>
      rw [hcall] at hrefused
      exact absurd rfl hrefused
    | error reason =>
      rw [hnone]
      rfl
  · have hsome := halfway?_eq_some_iff.2 hleft
    cases hleft with
    | enum htexts hcheck hname =>
      have hrefuses := apply_eq_error_iff.2
        (Refuses.endlessName (exists_enumOf_iff.1 ⟨_, htexts⟩) hcheck hname)
      rw [hrefuses, hsome]
      rfl
  · cases c.apply call <;> rfl

/-- The second value is no text, and neither the type nor the checks show that there was a first. -/
theorem enum_refused_unchanged :
    let c : Column := { dialect := .postgresql, name := .str "kind", type := .str "TEXT" }
    let values : List Value := [.str "a", .int 1]
    c.Refuses (.enum values) (.invalidEnum values) ∧
    c.editOrKeep (.call "enum" values) = (c, some (.column (.invalidEnum values))) := by
  intro c values
  have hcall : Call.ofMethod "enum" values = .ok (.enum values) := rfl
  obtain ⟨hrefused, hkept, -, hedit⟩ := c.call_all_or_nothing hcall
  have hmembers : ¬AreMembers values := by
    rintro ⟨-, hall⟩
    obtain ⟨t, ht⟩ := hall (.int 1) (by simp [values])
    cases t <;> cases ht
  have hraised : (ColumnError.invalidEnum values).raised = .invalidEnum values :=
    ColumnError.raised_of_isWritable rfl
  have hrefuses : c.Refuses (.enum values) (.invalidEnum values) := hraised ▸ .enum hmembers
  have herror : (c.execute (Call.enum values).acts).2 = some (.invalidEnum values) :=
    (hrefused _).2 hrefuses
  have hwhole : ∀ left, ¬c.FailsHalfway (.enum values) left := by
    rintro left ⟨h, -, -⟩
    exact hmembers (exists_enumOf_iff.1 ⟨_, h⟩)
  refine ⟨hrefuses, ?_⟩
  rw [hedit, hkept (by rw [herror]; exact Option.some_ne_none _) hwhole, herror]
  rfl

/-- The type of an enumeration stays behind on a column whose name is too long. -/
theorem enum_of_endless_name {name : Value} (hname : name.display? = none) :
    let c : Column := { dialect := .postgresql, name }
    c.apply (.enum [.str "a"]) = .error .unwritable ∧
      (c.editOrKeep (.call "enum" [.str "a"])).1 = { c with type := .str "VARCHAR" } := by
  intro c
  have hrefused : c.apply (.enum [.str "a"]) = .error .unwritable := by
    show c.withEnum [.plain "a"] = _
    exact withEnum_eq_error_iff.2 ⟨rfl, hname, rfl⟩
  have hhalfway : c.editHalfway? (.call "enum" [.str "a"]) = some (c.withEnumType [.plain "a"]) :=
    halfway?_eq_some_iff.2 (.enum rfl rfl hname)
  have hedit : c.edit (.call "enum" [.str "a"]) = .error .unwritable := by
    show (c.apply (.enum [.str "a"])).mapError Error.ofColumn = _
    rw [hrefused]
    rfl
  refine ⟨hrefused, ?_⟩
  unfold editOrKeep
  rw [hedit, hhalfway]
  rfl

/-- **An integer may be too long for a default**, and a name that is too long for a check leaves a type
behind. -/
theorem endless_name_leaves_type :
    let c : Column := { dialect := .postgresql, name := .tooLong }
    c.apply (.default .tooLong) = .error .unwritable ∧
      c.apply (.enum [.str "a"]) = .error .unwritable ∧
      (c.editOrKeep (.call "enum" [.str "a"])).1 = { c with type := .str "VARCHAR" } := by
  have hliteral : Value.tooLong.HasLiteral := by
    rw [Value.tooLong]
    exact .int _
  exact ⟨apply_eq_error_iff.2 (.endlessDefault hliteral Value.display?_tooLong),
    enum_of_endless_name Value.display?_tooLong⟩

end Column

end TableDdl
