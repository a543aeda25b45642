import TableDdl.Table.Error
import TableDdl.Unicode.Case

/-!
# Dialects by name

Model of `Dialect.from_name`, and of what `rules_for` and `column_class_for` make of a value that is no
dialect.

An engine's name selects a dialect, whatever its case. MariaDB goes by MySQL's rules. A value that is
to be a dialect itself need not be one (`Dialect.ofValue`).
-/

namespace TableDdl

/-- The dialect of an engine, by the lower-case name of the engine. -/
def Dialect.ofEngine? (name : String) : Option Dialect :=
  if name = "mariadb" then some .mysql else Dialect.all.find? (·.name == name)

/-- A dialect that is given as a value, to `rules_for` or `column_class_for`. Any other value is
described in the error. -/
def Dialect.ofValue : Value → Except Error Dialect
  | .dialect d => .ok d
  | v =>
    match v.describe? with
    | some description => .error (.ofFault (.notADialect description))
    | none => .error .unwritable

/-- The dialect that a value names, `Dialect.from_name`. Its text counts, so the dialect `mysql`
itself, which is written `Dialect.MYSQL`, names no engine. -/
def Dialect.ofName (name : Value) : Except Error Dialect :=
  match name.display? with
  | some text =>
    match Dialect.ofEngine? (Unicode.lower text) with
    | some d => .ok d
    | none => .error (.ofFault (.unsupportedDialect text))
  | none => .error .unwritable

theorem Dialect.ofValue_dialect (d : Dialect) : Dialect.ofValue (.dialect d) = .ok d := rfl

/-- Only dialects are taken for dialects. -/
theorem Dialect.ofValue_eq_ok_iff {v : Value} {d : Dialect} :
    Dialect.ofValue v = .ok d ↔ v = .dialect d := by
  constructor
  · intro h
    unfold Dialect.ofValue at h
    split at h
    · rw [Except.ok.inj h]
    · split at h <;> cases h
  · rintro rfl
    exact Dialect.ofValue_dialect d

/-- A value that is no dialect is refused, as it can be described or not. -/
theorem Dialect.ofValue_of_not_dialect {v : Value} (h : ∀ d, v ≠ .dialect d) (report : Error) :
    (Dialect.ofValue v).mapError (.reportedAs report) =
      .error (if v.isWritable then report else .unwritable) := by
  unfold Dialect.ofValue
  split
  next d => exact absurd rfl (h d)
  next => cases hw : v.isWritable <;> simp [Value.describe?, hw] <;> rfl

end TableDdl
