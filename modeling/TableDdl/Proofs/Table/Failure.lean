import Mathlib.Logic.Basic
import TableDdl.Proofs.Table.Defect

/-!
# When a table has no statements

The statements of a table fail for its dialect or for one of its columns. `Column.Has` says what can
be wrong with a column, in terms of its name, its type and its constraints, and `Column.FirstFlaw`
which flaw of a column counts.

* `FirstFlaw.defect?`, `flawed_iff`: the defect that is found in a column is its first flaw;
* `findSome?_defect?_of_firstFlaw`: among columns it is the first flaw of the first flawed column;
* `statements_failure`: a value that is no dialect is refused whatever the columns are. In a dialect
  there are statements iff no column is flawed, and otherwise the error is that of the first flaw of
  the first flawed column. It names the generator, the table and, unless the name itself is the
  flaw, the column.

A refused dialect is described before it is reported. So one with too many digits leads to an error
of another kind (`endless_dialect_unwritable`).
-/

namespace TableDdl

/-! ## Flaws -/

/-- A text with at least one character. -/
def Value.IsFull (v : Value) : Prop := ∃ t : Text, v = t.toValue ∧ t.content ≠ ""

theorem Value.not_isFull_iff {v : Value} : ¬v.IsFull ↔ v.content = "" := by
  rcases v.fullText?_cases with ⟨he, -⟩ | ⟨t, ht, rfl, -⟩
  · refine ⟨fun _ => he, ?_⟩
    rintro - ⟨t, rfl, ht⟩
    rw [Value.content_toValue] at he
    exact ht he
  · have hfull : t.toValue.IsFull := ⟨t, rfl, by rwa [Value.content_toValue] at ht⟩
    exact ⟨fun h => absurd hfull h, fun h => absurd h ht⟩

/-- The part of a column that is wrong. -/
inductive Flaw where
  | name
  | type
  | key
  | reference
  deriving DecidableEq, Repr

namespace Flaw

/-- The flaws that are looked for before. -/
def earlier : Flaw → List Flaw
  | .name => []
  | .type => [.name]
  | .key => [.name, .type]
  | .reference => [.name, .type, .key]

/-- What is said of a flaw of the given column. -/
def summary (column : String) : Flaw → String
  | .name => "Undefined column name"
  | .type => s!"Undefined column type for '{column}'"
  | .key => s!"Your auto-increment column '{column}' must be a primary key"
  | .reference => s!"Undefined foreign key reference for '{column}'"

def fault (column : Text) : Flaw → TableFault
  | .name => .unnamedColumn
  | .type => .untypedColumn column
  | .key => .autoIncrementWithoutKey column
  | .reference => .openForeignKey column

theorem summary_fault (column : Text) (f : Flaw) :
    (f.fault column).summary = f.summary column.display := by
  cases f <;> rfl

theorem kind_fault (column : Text) (f : Flaw) : (f.fault column).kind = .schema := by
  cases f <;> rfl

end Flaw

namespace Column

/-- **What is wrong with a column**: its name or its type is no text or empty, it increments without
being a primary key, or it has a foreign key without a reference. -/
def Has (c : Column) : Flaw → Prop
  | .name => ¬c.name.IsFull
  | .type => ¬c.type.IsFull
  | .key => c.constraints.autoIncrement = true ∧ c.constraints.primaryKey = false
  | .reference => ∃ k, c.constraints.foreignKey = some k ∧ k.reference = none

def Flawed (c : Column) : Prop := ∃ f, c.Has f

/-- No flaw that is looked for before is there. -/
structure FirstFlaw (c : Column) (f : Flaw) : Prop where
  has : c.Has f
  first : ∀ g ∈ f.earlier, ¬c.Has g

section
variable {c : Column}

theorem has_name_iff : c.Has .name ↔ c.name.content = "" := Value.not_isFull_iff

theorem has_type_iff : c.Has .type ↔ c.type.content = "" := Value.not_isFull_iff

theorem has_key_iff :
    c.Has .key ↔ c.constraints.autoIncrement = true ∧ c.constraints.primaryKey = false := Iff.rfl

theorem has_reference_iff :
    c.Has .reference ↔ c.constraints.foreignKey.any (·.reference.isNone) = true := by
  show (∃ k, _ ∧ _) ↔ _
  cases c.constraints.foreignKey <;> simp

/-! ## The defect that is found -/

/-- **The first flaw is the defect of a column.** -/
theorem FirstFlaw.defect? {f : Flaw} (h : c.FirstFlaw f) :
    c.defect? = some (f.fault c.nameText) := by
  obtain ⟨has, first⟩ := h
  unfold Column.defect?
  cases f with
  | name =>
    rw [if_pos (has_name_iff.1 has)]
    rfl
  | type =>
    have hn : ¬c.Has .name := first _ (by simp [Flaw.earlier])
    rw [if_neg (mt has_name_iff.2 hn), if_pos (has_type_iff.1 has)]
    rfl
  | key =>
    have hn : ¬c.Has .name := first _ (by simp [Flaw.earlier])
    have ht : ¬c.Has .type := first _ (by simp [Flaw.earlier])
    rw [if_neg (mt has_name_iff.2 hn), if_neg (mt has_type_iff.2 ht), if_pos (has_key_iff.1 has)]
    rfl
  | reference =>
    have hn : ¬c.Has .name := first _ (by simp [Flaw.earlier])
    have ht : ¬c.Has .type := first _ (by simp [Flaw.earlier])
    have hk : ¬c.Has .key := first _ (by simp [Flaw.earlier])
    rw [if_neg (mt has_name_iff.2 hn), if_neg (mt has_type_iff.2 ht), if_neg (mt has_key_iff.2 hk),
      if_pos (has_reference_iff.1 has)]
    rfl

theorem exists_firstFlaw (h : c.Flawed) : ∃ f, c.FirstFlaw f := by
  by_cases hn : c.Has .name
  · exact ⟨.name, hn, by simp [Flaw.earlier]⟩
  by_cases ht : c.Has .type
  · exact ⟨.type, ht, by simp [Flaw.earlier, hn]⟩
  by_cases hk : c.Has .key
  · exact ⟨.key, hk, by simp [Flaw.earlier, hn, ht]⟩
  obtain ⟨f, hf⟩ := h
  have hr : c.Has .reference := by
    cases f with
    | name => exact absurd hf hn
    | type => exact absurd hf ht
    | key => exact absurd hf hk
    | reference => exact hf
  exact ⟨.reference, hr, by simp [Flaw.earlier, hn, ht, hk]⟩

theorem not_flawed_iff : ¬c.Flawed ↔ c.defect? = none := by
  constructor
  · intro h
    unfold Column.defect?
    rw [if_neg fun hn => h ⟨_, has_name_iff.2 hn⟩, if_neg fun ht => h ⟨_, has_type_iff.2 ht⟩,
      if_neg fun hk => h ⟨_, has_key_iff.2 hk⟩, if_neg fun hr => h ⟨_, has_reference_iff.2 hr⟩]
  · intro h hflawed
    obtain ⟨f, hf⟩ := exists_firstFlaw hflawed
    rw [hf.defect?] at h
    cases h

end

end Column

theorem findSome?_defect?_eq_none_iff_not_flawed {columns : List Column} :
    columns.findSome? Column.defect? = none ↔ ∀ c ∈ columns, ¬c.Flawed := by
  simp only [List.findSome?_eq_none_iff, Column.not_flawed_iff]

/-- **The first flaw of the first flawed column is found.** -/
theorem findSome?_defect?_of_firstFlaw {before after : List Column} {c : Column} {f : Flaw}
    (hbefore : ∀ b ∈ before, ¬b.Flawed) (hf : c.FirstFlaw f) :
    (before ++ c :: after).findSome? Column.defect? = some (f.fault c.nameText) := by
  rw [List.findSome?_append, findSome?_defect?_eq_none_iff_not_flawed.2 hbefore,
    List.findSome?_cons, hf.defect?]
  rfl

/-- Among columns of which some are flawed there is a first flawed one. -/
theorem exists_first_flawed {columns : List Column} (h : ∃ c ∈ columns, c.Flawed) :
    ∃ before c after, columns = before ++ c :: after ∧ (∀ b ∈ before, ¬b.Flawed) ∧ c.Flawed := by
  induction columns with
  | nil => simp at h
  | cons c cs ih =>
    by_cases hc : c.Flawed
    · exact ⟨[], c, cs, rfl, by simp, hc⟩
    have hcs : ∃ d ∈ cs, d.Flawed := by simpa [hc] using h
    obtain ⟨before, d, after, rfl, hbefore, hd⟩ := ih hcs
    exact ⟨c :: before, d, after, rfl, by simpa [hc] using hbefore, hd⟩

/-! ## The error of a table -/

namespace TableDefinition

/-- The error says that the dialect of the table is none. -/
structure RefusesDialect (t : TableDefinition) (e : TableError) : Prop where
  kind : e.kind = .configuration
  message : e.message = "Invalid dialect in: " ++ t.generator
  generator : e.generator = some t.generator
  table : e.table = t.name
  column : e.column = .none

/-- **The error reports a flaw of a column of the table.** -/
structure Reports (t : TableDefinition) (c : Column) (f : Flaw) (e : TableError) : Prop where
  kind : e.kind = .schema
  message : e.message = f.summary c.name.display ++ " in: " ++ t.generator
  generator : e.generator = some t.generator
  table : e.table = t.name
  column : e.column = if f = .name then .none else c.name

theorem refusesDialect_fail (t : TableDefinition) :
    t.RefusesDialect { fault := .invalidDialect, generator := some t.generator, table := t.name } where
  kind := rfl
  message := congrArg (· ++ t.generator)
    (show "Invalid dialect" ++ " in: " = "Invalid dialect in: " by decide)
  generator := rfl
  table := rfl
  column := rfl

/-- A flaw is reported with the name of its column, which is there unless it is itself the flaw. -/
theorem reports_fault (t : TableDefinition) {c : Column} {f : Flaw} (h : c.FirstFlaw f) :
    t.Reports c f { fault := f.fault c.nameText, generator := some t.generator, table := t.name } := by
  have hname : f ≠ .name → c.nameText.toValue = c.name := by
    intro hf
    have hn : ¬c.Has .name := h.first _ (by cases f <;> simp_all [Flaw.earlier])
    exact Column.nameText_toValue fun he => hn (Column.has_name_iff.2 he)
  have hsummary : f.summary c.nameText.display = f.summary c.name.display := by
    by_cases hf : f = .name
    · rw [hf]
      rfl
    · rw [← hname hf, Value.display_toValue]
  refine ⟨Flaw.kind_fault _ _, ?_, rfl, rfl, ?_⟩
  · show (f.fault c.nameText).summary ++ " in: " ++ t.generator = _
    rw [Flaw.summary_fault, hsummary]
  · show (f.fault c.nameText).column = _
    cases f with
    | name => rfl
    | type => exact hname (by decide)
    | key => exact hname (by decide)
    | reference => exact hname (by decide)

end TableDefinition

section
variable (generator : String) {name : Value} {table : String} (columns : List Column)

/-- The dialect is looked at first, so the columns do not matter if it is none. -/
theorem statements_of_not_dialect {t : TableDefinition} (h : ∀ d, t.dialect ≠ .dialect d) :
    t.statements = .error (if t.dialect.isWritable then t.fail .invalidDialect else .unwritable) := by
  unfold TableDefinition.statements
  rw [Dialect.ofValue_of_not_dialect h]
  rfl

/-- A table whose name can be written is never refused for it. -/
theorem statements_ne_unwritable (hname : name.display? = some table) (d : Dialect) :
    (TableDefinition.mk generator name (.dialect d) (columns.map Column.snapshot)).statements ≠
      .error .unwritable := by
  rw [statements_snapshots generator hname]
  intro h
  cases hdefect : columns.findSome? Column.defect? <;> rw [hdefect] at h <;> cases h

theorem statements_of_not_flawed {d : Dialect} (h : ∀ c ∈ columns, ¬c.Flawed)
    (hwritable : (TableDefinition.mk generator name (.dialect d)
      (columns.map Column.snapshot)).statements ≠ .error .unwritable) :
    (TableDefinition.mk generator name (.dialect d) (columns.map Column.snapshot)).statements =
      .ok (statementsFor d.rules name.display (columns.map Column.declaration)) := by
  rw [(statements_ne_unwritable_iff generator name d columns).1 hwritable,
    findSome?_defect?_eq_none_iff_not_flawed.2 h]

/-- **The first flaw of the first flawed column is reported.** -/
theorem statements_of_firstFlaw {d : Dialect} {before after : List Column} {c : Column} {f : Flaw}
    (hbefore : ∀ b ∈ before, ¬b.Flawed) (hf : c.FirstFlaw f) :
    let t : TableDefinition :=
      ⟨generator, name, .dialect d, (before ++ c :: after).map Column.snapshot⟩
    t.statements ≠ .error .unwritable →
    ∃ e, t.statements = .error (.table e) ∧ t.Reports c f e := by
  intro t hwritable
  refine ⟨_, ?_, t.reports_fault hf⟩
  rw [(statements_ne_unwritable_iff generator name d _).1 hwritable,
    findSome?_defect?_of_firstFlaw hbefore hf]

theorem statements_of_flawed {d : Dialect} (h : ∃ c ∈ columns, c.Flawed)
    (hwritable : (TableDefinition.mk generator name (.dialect d)
      (columns.map Column.snapshot)).statements ≠ .error .unwritable) :
    ∃ e, (TableDefinition.mk generator name (.dialect d) (columns.map Column.snapshot)).statements =
      .error (.table e) ∧ e.kind = .schema := by
  obtain ⟨before, c, after, rfl, hbefore, hc⟩ := exists_first_flawed h
  obtain ⟨f, hf⟩ := Column.exists_firstFlaw hc
  obtain ⟨e, he, hreports⟩ := statements_of_firstFlaw generator hbefore hf hwritable
  exact ⟨e, he, hreports.kind⟩

/-- In a dialect there are no other faults than those of columns, whatever the table is called. -/
theorem kind_of_statements {d : Dialect} {e : TableError}
    (h : (TableDefinition.mk generator name (.dialect d) (columns.map Column.snapshot)).statements =
      .error (.table e)) : e.kind = .schema := by
  have hwritable : (TableDefinition.mk generator name (.dialect d)
      (columns.map Column.snapshot)).statements ≠ .error .unwritable := by
    rw [h]
    exact nofun
  by_cases hflawed : ∃ c ∈ columns, c.Flawed
  · obtain ⟨e', he', hkind⟩ := statements_of_flawed generator columns hflawed hwritable
    cases h.symm.trans he'
    exact hkind
  · have hnone : ∀ c ∈ columns, ¬c.Flawed := fun c hc hflaw => hflawed ⟨c, hc, hflaw⟩
    cases h.symm.trans (statements_of_not_flawed generator columns hnone hwritable)

end

/-- **When and how the statements of a table fail.** A value that is no dialect is refused, whatever
the columns are, with a report of it if it can be described. In a dialect, and for a name that can be
written,

* there are statements iff no column is flawed;
* there is an error of the schema iff some column is;
* this error reports the first flaw of the first flawed column. -/
theorem statements_failure (generator : String) (name dialect : Value) (columns : List Column) :
    let t : TableDefinition := ⟨generator, name, dialect, columns.map Column.snapshot⟩
    ((∃ e, t.statements = .error (.table e) ∧ t.RefusesDialect e) ↔
        (∀ d, dialect ≠ .dialect d) ∧ dialect.isWritable = true) ∧
      ((∀ d, dialect ≠ .dialect d) → dialect.isWritable = false →
        t.statements = .error .unwritable) ∧
      ∀ d table, dialect = .dialect d → name.display? = some table →
        ((∃ out, t.statements = .ok out) ↔ ∀ c ∈ columns, ¬c.Flawed) ∧
        ((∃ e, t.statements = .error (.table e) ∧ e.kind = .schema) ↔ ∃ c ∈ columns, c.Flawed) ∧
        ∀ before c after f, columns = before ++ c :: after → (∀ b ∈ before, ¬b.Flawed) →
          c.FirstFlaw f → ∃ e, t.statements = .error (.table e) ∧ t.Reports c f e := by
  intro t
  -- Statements and the two kinds of errors exclude each other, so one direction gives the other.
  refine ⟨⟨?_, ?_⟩, ?_, ?_⟩
  · rintro ⟨e, he, hrefuses⟩
    have hnot : ∀ d, dialect ≠ .dialect d := by
      rintro d rfl
      cases hrefuses.kind.symm.trans (kind_of_statements generator columns he)
    refine ⟨hnot, Classical.byContradiction fun hwritable => ?_⟩
    rw [statements_of_not_dialect (t := t) hnot, if_neg hwritable] at he
    cases he
  · rintro ⟨hnot, hwritable⟩
    refine ⟨_, ?_, t.refusesDialect_fail⟩
    rw [statements_of_not_dialect (t := t) hnot, if_pos hwritable]
    rfl
  · intro hnot hwritable
    rw [statements_of_not_dialect (t := t) hnot, if_neg (by simp [t, hwritable])]
  · rintro d table rfl hname
    have hwritable := statements_ne_unwritable generator columns hname d
    refine ⟨⟨?_, ?_⟩, ⟨?_, fun h => statements_of_flawed generator columns h hwritable⟩, ?_⟩
    · rintro ⟨out, hout⟩ c hc hflawed
      obtain ⟨e, he, -⟩ := statements_of_flawed generator columns ⟨c, hc, hflawed⟩ hwritable
      cases hout.symm.trans he
    · exact fun hnone => ⟨_, statements_of_not_flawed generator columns hnone hwritable⟩
    · rintro ⟨e, he, -⟩
      by_cases hflawed : ∃ c ∈ columns, c.Flawed
      · exact hflawed
      · have hnone : ∀ c ∈ columns, ¬c.Flawed := fun c hc h => hflawed ⟨c, hc, h⟩
        cases he.symm.trans (statements_of_not_flawed generator columns hnone hwritable)
    · rintro before c after f rfl hbefore hf
      exact statements_of_firstFlaw generator hbefore hf hwritable

/-- **A dialect with too many digits is not reported.** -/
theorem endless_dialect_unwritable :
    let t : TableDefinition := ⟨"Shops", .str "shops", .tooLong, []⟩
    (∀ d, t.dialect ≠ .dialect d) ∧ t.statements = .error .unwritable ∧
      ¬∃ e, t.statements = .error (.table e) ∧ t.RefusesDialect e := by
  intro t
  have hnot : ∀ d, t.dialect ≠ .dialect d := nofun
  have hfails : t.statements = .error .unwritable := by
    rw [statements_of_not_dialect hnot, if_neg (by simp [t, Value.isWritable_tooLong])]
  refine ⟨hnot, hfails, ?_⟩
  rintro ⟨e, he, -⟩
  cases hfails.symm.trans he

/-- A sound column before does not help, and of two flaws the missing key counts. -/
example :
    let id : Column := { dialect := .mysql, name := .str "id", type := .str "BIGINT" }
    let owner : Column := { id with
      name := .str "owner", constraints := { autoIncrement := true, foreignKey := some {} } }
    (TableDefinition.mk "Shops" (.str "shops") (.dialect .mysql) [id.snapshot, owner.snapshot]).statements
      = .error (.table {
          fault := .autoIncrementWithoutKey (.plain "owner"), generator := some "Shops"
          table := .str "shops" }) := rfl

end TableDdl
