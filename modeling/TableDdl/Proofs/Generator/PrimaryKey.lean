import TableDdl.Generator
import TableDdl.Proofs.Result

/-!
# Primary keys by name

A generator makes a primary key in one step, or a column that is made the primary key afterwards
(`Generator.keyedColumn`). The first is the second with another name where the name counts as absent
(`Generator.primaryKey_eq_keyedColumn`), and such a name is never an identifier
(`Value.isIdentifier_of_falsy`).

Results:
* `Generator.maker_cases`, `Generator.keyedColumn_of_makesIn`: what a generator makes columns in, and
  what a column of the name comes to in a dialect;
* `Generator.primaryKey_outcomes`: **the two agree in the same column or the same error, except for
  the names that count as absent**. Where columns can be made at all, each of these names is refused
  for a column and is taken for `id` by a primary key;
* `Generator.empty_name_replaced`: a name that is lost in this way.
-/

namespace TableDdl

/-- A name that counts as absent, zero or empty is no identifier. -/
theorem Value.isIdentifier_of_falsy {v : Value} (h : v.truthy = false) : v.isIdentifier = false := by
  cases v with
  | str s =>
    have hs : s = "" := by simpa [Value.truthy] using h
    subst hs
    rfl
  | dialect d => cases h
  | none | bool | int | float | bytes | list | tuple | dict | action | reference | foreignKey
  | member | object => rfl

/-- An auto-incrementing primary key without further constraints. -/
def Column.key (d : Dialect) (name : Value) : Column where
  dialect := d
  name := name
  type := .str (d.simpleType .bigInt)
  constraints := { unsigned := true, autoIncrement := true, primaryKey := true }

namespace Generator

variable {g : Generator} {d : Dialect} {e : Executor} {name : Value}

/-- A column of the name, which is made the primary key. -/
def keyedColumn (g : Generator) (name : Value) : Except Error Column := do
  let c ← g.column name
  (c.apply .pk).mapError .ofColumn

/-- The error of a name that is refused. -/
def badName (name : Value) : Error := .ofColumn (ColumnError.invalidName name).raised

/-- The error of a value that is no dialect. It has no message if the value cannot be described. -/
def badDialect (g : Generator) (dialect : Value) : Error :=
  if dialect.isWritable then g.fail .invalidDialect else .unwritable

/-- The generator's columns are of the dialect. -/
def MakesIn (g : Generator) (d : Dialect) : Prop :=
  ∃ e, g.candidate.executor? = some e ∧ e.dialect = .dialect d

theorem primaryKey_eq_keyedColumn (g : Generator) (name : Value) :
    g.primaryKey name = g.keyedColumn (if name.truthy then name else .str "id") := rfl

/-! ## What columns are made in -/

/-- **A generator lacks an executor, or a dialect, or has one to make columns in.** -/
theorem maker_cases (g : Generator) :
    g.candidate.executor? = none ∨
      (∃ e, g.candidate.executor? = some e ∧ ∀ d, e.dialect ≠ .dialect d) ∨ ∃ d, g.MakesIn d := by
  cases he : g.candidate.executor? with
  | none => exact .inl rfl
  | some e =>
    right
    by_cases hd : ∃ d, e.dialect = .dialect d
    · obtain ⟨d, hd⟩ := hd
      exact .inr ⟨d, e, he, hd⟩
    · exact .inl ⟨e, rfl, fun d h => hd ⟨d, h⟩⟩

theorem keyedColumn_of_noExecutor (h : g.candidate.executor? = none) (name : Value) :
    g.keyedColumn name = .error (g.fail .invalidExecutor) := by
  have hexecutor : g.executor = .error (g.fail .invalidExecutor) := by rw [executor, h]
  rw [keyedColumn, column, hexecutor]
  rfl

theorem column_of_executor (he : g.candidate.executor? = some e) (name : Value) :
    g.column name = (do
      let d ← (Dialect.ofValue e.dialect).mapError (.reportedAs (g.fail .invalidDialect))
      (Column.new d name).mapError .ofColumn) := by
  have hexecutor : g.executor = .ok e := by rw [executor, he]
  rw [column, hexecutor]
  rfl

/-- The error of a column that cannot be made does not depend on its name. -/
theorem keyedColumn_of_noDialect (he : g.candidate.executor? = some e)
    (hd : ∀ d, e.dialect ≠ .dialect d) (name : Value) :
    g.keyedColumn name = .error (g.badDialect e.dialect) := by
  have hcolumn : g.column name = .error (g.badDialect e.dialect) := by
    rw [column_of_executor he, Dialect.ofValue_of_not_dialect hd]
    rfl
  rw [keyedColumn, hcolumn]
  rfl

/-- **In a dialect it is the name alone that decides.** -/
theorem keyedColumn_of_makesIn (h : g.MakesIn d) (name : Value) :
    g.keyedColumn name =
      if name.isIdentifier then .ok (.key d name) else .error (badName name) := by
  obtain ⟨e, he, hd⟩ := h
  have hcolumn : g.column name = (Column.new d name).mapError .ofColumn := by
    rw [column_of_executor he, hd]
    rfl
  rw [keyedColumn, hcolumn, Column.new]
  split
  · rfl
  · rfl

/-! ## The two ways beside each other -/

/-- **What becomes of a name in a primary key, and in a column that is made one.** -/
structure KeyOutcomes (g : Generator) (name : Value) : Prop where
  /-- Without an executor both are refused for want of one. -/
  without_executor : g.candidate.executor? = none →
    g.primaryKey name = .error (g.fail .invalidExecutor) ∧
      g.keyedColumn name = .error (g.fail .invalidExecutor)
  /-- With an executor of no dialect both are refused for this. -/
  without_dialect : ∀ e, g.candidate.executor? = some e → (∀ d, e.dialect ≠ .dialect d) →
    g.primaryKey name = .error (g.badDialect e.dialect) ∧
      g.keyedColumn name = .error (g.badDialect e.dialect)
  /-- An identifier names the same key in both. -/
  identifier : ∀ d, g.MakesIn d → name.isIdentifier = true →
    g.primaryKey name = .ok (.key d name) ∧ g.keyedColumn name = .ok (.key d name)
  /-- Another name that does not count as absent is refused by both. -/
  refused : ∀ d, g.MakesIn d → name.truthy = true → name.isIdentifier = false →
    g.primaryKey name = .error (badName name) ∧ g.keyedColumn name = .error (badName name)
  /-- A name that counts as absent is refused for a column and replaced in a primary key. -/
  replaced : ∀ d, g.MakesIn d → name.truthy = false →
    g.primaryKey name = .ok (.key d (.str "id")) ∧ g.keyedColumn name = .error (badName name)
  /-- So the two agree unless the name counts as absent and columns can be made. -/
  agree_iff : g.primaryKey name = g.keyedColumn name ↔
    name.truthy = true ∨ ¬∃ d, g.MakesIn d

/-- A name that does not count as absent is used as it is. -/
theorem primaryKey_of_truthy (h : name.truthy = true) : g.primaryKey name = g.keyedColumn name := by
  rw [primaryKey_eq_keyedColumn, if_pos h]

/-- Any other is replaced, whether it is missing or only empty. -/
theorem primaryKey_of_falsy (h : name.truthy = false) :
    g.primaryKey name = g.keyedColumn (.str "id") := by
  rw [primaryKey_eq_keyedColumn, h]
  rfl

theorem primaryKey_replaces (hg : g.MakesIn d) (h : name.truthy = false) :
    g.primaryKey name = .ok (.key d (.str "id")) ∧ g.keyedColumn name = .error (badName name) := by
  constructor
  · rw [primaryKey_of_falsy h, keyedColumn_of_makesIn hg]
    rfl
  · rw [keyedColumn_of_makesIn hg, Value.isIdentifier_of_falsy h]
    rfl

/-- **A primary key and a column that is made one agree unless the name counts as absent.** -/
theorem primaryKey_eq_keyedColumn_iff (g : Generator) (name : Value) :
    g.primaryKey name = g.keyedColumn name ↔ name.truthy = true ∨ ¬∃ d, g.MakesIn d := by
  cases h : name.truthy with
  | true => exact iff_of_true (primaryKey_of_truthy h) (.inl rfl)
  | false =>
    rcases maker_cases g with he | ⟨e, he, hd⟩ | ⟨d, hg⟩
    · refine iff_of_true ?_ (.inr ?_)
      · rw [primaryKey_of_falsy h, keyedColumn_of_noExecutor he, keyedColumn_of_noExecutor he]
      · rintro ⟨d, e, he', -⟩
        rw [he] at he'
        cases he'
    · refine iff_of_true ?_ (.inr ?_)
      · rw [primaryKey_of_falsy h, keyedColumn_of_noDialect he hd, keyedColumn_of_noDialect he hd]
      · rintro ⟨d, e', he', hd'⟩
        obtain rfl : e = e' := Option.some.inj (he.symm.trans he')
        exact hd d hd'
    · refine iff_of_false (fun hsame => ?_) (fun hor => ?_)
      · obtain ⟨hkey, hcolumn⟩ := primaryKey_replaces hg h
        rw [hkey, hcolumn] at hsame
        cases hsame
      · rcases hor with htrue | hnone
        · cases htrue
        · exact hnone ⟨d, hg⟩

/-- **A name comes to the same in a primary key as in a column that is made one, with one exception**:
where columns can be made, the names that count as absent are replaced rather than refused. -/
theorem primaryKey_outcomes (g : Generator) (name : Value) : g.KeyOutcomes name where
  without_executor he := by
    rw [primaryKey_eq_keyedColumn]
    exact ⟨keyedColumn_of_noExecutor he _, keyedColumn_of_noExecutor he _⟩
  without_dialect e he hd := by
    rw [primaryKey_eq_keyedColumn]
    exact ⟨keyedColumn_of_noDialect he hd _, keyedColumn_of_noDialect he hd _⟩
  identifier d hg hname := by
    have htruthy : name.truthy = true := by
      cases h : name.truthy with
      | true => rfl
      | false => rw [Value.isIdentifier_of_falsy h] at hname; cases hname
    rw [primaryKey_of_truthy htruthy, keyedColumn_of_makesIn hg, if_pos hname]
    exact ⟨rfl, rfl⟩
  refused d hg htruthy hname := by
    rw [primaryKey_of_truthy htruthy, keyedColumn_of_makesIn hg, hname]
    exact ⟨rfl, rfl⟩
  replaced d hg hname := primaryKey_replaces hg hname
  agree_iff := primaryKey_eq_keyedColumn_iff g name

/-- **An empty name is lost**: for a column it is an error, and a primary key is called `id`. -/
theorem empty_name_replaced :
    let g : Generator := { candidate := ⟨some (.dialect .mysql), some { transactional := false }⟩ }
    g.primaryKey (.str "") = .ok (.key .mysql (.str "id")) ∧
      g.keyedColumn (.str "") = .error (.column (.invalidName (.str ""))) ∧
      g.primaryKey (.str "") ≠ g.keyedColumn (.str "") :=
  ⟨rfl, rfl, nofun⟩

end Generator

end TableDdl
