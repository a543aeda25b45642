import TableDdl.Proofs.Column.Reachable
import TableDdl.Proofs.Table.Layout

/-!
# Columns that increment

A column that increments is written in another way for each engine: MySQL has a word for it,
PostgreSQL a type, and SQLite needs neither, since an `INTEGER` that is the primary key increments by
itself.

* `declarationText_of_autoIncrement`: the declaration of such a column in each dialect;
* `Reachable.type_eq`: the type of a column is the last one that was chosen (`lastType?`), and for
  SQLite it is `INTEGER` iff that is an integer (`text_sqlite_eq_integer_iff`);
* `autoIncrement_declared`: so in every table that has statements the column has its `PRIMARY KEY`
  clause, and MySQL and PostgreSQL increment it whatever its type is. SQLite does iff the type that
  was chosen last is an integer, which nothing makes sure of (`increment_without_integer`).
-/

namespace TableDdl

/-! ## Integers -/

/-- The types that are integers for SQLite. -/
def LogicalType.isInteger : LogicalType → Bool
  | .simple t => [.tinyInt, .smallInt, .mediumInt, .int, .bigInt, .boolean, .year].contains t
  | _ => false

theorem LogicalType.text_sqlite_eq_integer_iff (t : LogicalType) :
    t.text .sqlite = "INTEGER" ↔ t.isInteger = true := by
  cases t with
  | simple t => cases t <;> decide
  | decimal total places => exact show "NUMERIC" = "INTEGER" ↔ false = true by decide
  | char length | varchar length | enum values =>
    exact show "TEXT" = "INTEGER" ↔ false = true by decide

/-- The last type that calls choose in a dialect. -/
def lastType? (d : Dialect) (calls : List (String × List Value)) : Option LogicalType :=
  ((Call.understood calls).filterMap (Call.type? d)).getLast?

theorem Reachable.type_eq {d : Dialect} {name : Value} {calls : List (String × List Value)}
    {c : Column} (h : Reachable d name calls c) :
    c.type = (lastType? d calls).elim .none fun t => .str (t.text d) := by
  rw [h.eq_foldl, Column.type_foldl_write]
  rfl

/-- A column with a type has the last one that was chosen. -/
theorem Reachable.exists_lastType {d : Dialect} {name : Value}
    {calls : List (String × List Value)} {c : Column} (h : Reachable d name calls c)
    (htyped : c.type.content ≠ "") :
    ∃ t, lastType? d calls = some t ∧ c.type.content = t.text d := by
  rw [h.type_eq] at htyped ⊢
  cases htype : lastType? d calls with
  | none =>
    rw [htype] at htyped
    exact absurd rfl htyped
  | some t => exact ⟨t, rfl, rfl⟩

/-! ## Declarations -/

/-- What stands between the name and the suffix of a column that increments, if the type is the
given one. -/
def incrementText (d : Dialect) (type : String) (unsigned : Bool) : String :=
  match d with
  | .mysql => type ++ (if unsigned then " UNSIGNED" else "") ++ " AUTO_INCREMENT"
  | .postgresql => "BIGSERIAL"
  | .sqlite => type

theorem declarationText_of_autoIncrement {c : Column} (h : c.constraints.autoIncrement = true)
    (d : Dialect) : c.declarationText d.rules =
      c.name.content ++ " " ++ incrementText d c.type.content c.constraints.unsigned
        ++ c.constraints.suffix := by
  have htype : c.typeText d.rules =
      incrementText d c.type.content c.constraints.unsigned := by
    unfold Column.typeText incrementText
    rw [h]
    cases d with
    | mysql => cases c.constraints.unsigned <;> rfl
    | postgresql | sqlite => simp [Dialect.rules]
  unfold Column.declarationText
  rw [htype]
  rfl

/-- A primary key has its clause in the block of its column. -/
theorem primaryKey_mem_clauseTexts {k : ColumnConstraints} (h : k.primaryKey = true)
    (table name : String) (conditions : List String) :
    s!"CONSTRAINT pk_{table}_{name} PRIMARY KEY ({name})" ∈ k.clauseTexts table name conditions := by
  unfold ColumnConstraints.clauseTexts
  simp [h]

/-! ## Tables -/

/-- **What an accepted column that increments is written as.** If a table has statements, each of its
columns that increments has its `PRIMARY KEY` clause in them. The declaration of a column that was
built for the dialect of the table has, after the last type that was chosen, the word
`AUTO_INCREMENT` in MySQL, and the type `BIGSERIAL` in its place in PostgreSQL. In SQLite it has that
type, which is `INTEGER` iff an integer was chosen last. -/
theorem autoIncrement_declared {generator : String} {table : Value} {d : Dialect}
    {columns : List Column} {sql : List String}
    (h : (TableDefinition.mk generator table (.dialect d)
      (columns.map Column.snapshot)).statements = .ok sql) :
    sql = createText table.display (columns.map (·.declarationText d.rules))
        (columns.flatMap fun c =>
          c.constraints.clauseTexts table.display c.name.display (c.conditions d.rules))
      :: (columns.flatMap fun c => c.constraints.indexTexts table.display c.name.display) ∧
    ∀ c ∈ columns, c.constraints.autoIncrement = true →
      s!"CONSTRAINT pk_{table.display}_{c.name.display} PRIMARY KEY ({c.name.display})" ∈
        c.constraints.clauseTexts table.display c.name.display (c.conditions d.rules) ∧
      ∀ name calls, Reachable d name calls c → ∃ t, lastType? d calls = some t ∧
        c.declarationText d.rules = c.name.content ++ " "
          ++ incrementText d (t.text d) c.constraints.unsigned ++ c.constraints.suffix ∧
        (d = .sqlite → (t.text d = "INTEGER" ↔ t.isInteger = true)) := by
  obtain ⟨hsound, hlayout⟩ := layout_of_statements h
  refine ⟨hlayout, fun c hc hincrement => ⟨?_, fun name calls hreachable => ?_⟩⟩
  · exact primaryKey_mem_clauseTexts ((hsound c hc).keyed hincrement) _ _ _
  · obtain ⟨t, hlast, htype⟩ := hreachable.exists_lastType (hsound c hc).typed
    refine ⟨t, hlast, ?_, ?_⟩
    · rw [declarationText_of_autoIncrement hincrement, htype]
    · rintro rfl
      exact t.text_sqlite_eq_integer_iff

/-- A type is chosen before the key, which then chooses another. -/
theorem autoIncrement_declared_textFirst :
    let base : Column := { dialect := .sqlite, name := .str "id" }
    let c : Column := base.afterCalls [("text", []), ("pk", [])]
    let sql := ["CREATE TABLE users (id INTEGER, CONSTRAINT pk_users_id PRIMARY KEY (id));"]
    (TableDefinition.mk "Users" (.str "users") (.dialect .sqlite)
        ([c].map Column.snapshot)).statements = .ok sql ∧
      c.declarationText Dialect.sqlite.rules = "id INTEGER" ∧
      "CONSTRAINT pk_users_id PRIMARY KEY (id)" ∈
        c.constraints.clauseTexts "users" "id" (c.conditions Dialect.sqlite.rules) := by
  intro base c sql
  have hsql : (TableDefinition.mk "Users" (.str "users") (.dialect .sqlite)
      ([c].map Column.snapshot)).statements = .ok sql := rfl
  have hreachable : Reachable .sqlite (.str "id") [("text", []), ("pk", [])] c :=
    Reachable.append (.new rfl) _
  obtain ⟨hkey, hdeclared⟩ := (autoIncrement_declared hsql).2 c List.mem_cons_self rfl
  obtain ⟨t, hlast, htext, -⟩ := hdeclared _ _ hreachable
  cases hlast
  exact ⟨hsql, htext, hkey⟩

/-- **A key that is no integer**: a type is chosen after the key. The column is accepted as one that
increments, and SQLite does not increment it. -/
theorem increment_without_integer :
    let base : Column := { dialect := .sqlite, name := .str "id" }
    let c : Column := base.afterCalls [("pk", []), ("text", [])]
    Reachable .sqlite (.str "id") [("pk", []), ("text", [])] c ∧
      c.constraints.autoIncrement = true ∧ c.type = .str "TEXT" ∧
      (TableDefinition.mk "Users" (.str "users") (.dialect .sqlite) [c.snapshot]).statements =
        .ok ["CREATE TABLE users (id TEXT, CONSTRAINT pk_users_id PRIMARY KEY (id));"] :=
  ⟨Reachable.append (.new rfl) _, rfl, rfl, rfl⟩

end TableDdl
