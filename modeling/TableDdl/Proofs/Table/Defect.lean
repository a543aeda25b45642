import TableDdl.Proofs.Result
import TableDdl.Table.Statement

/-!
# The defects of columns

What keeps a column out of a table, read off the column itself. A column is `Sound` if it has a name
and a type, is a primary key if it increments, and has a reference if it has a foreign key.
`Column.defect?` is the first of these that it misses.

* `declare_snapshot`: the snapshot of a column is declared iff the column has no defect, and the
  first defect is the one that is reported.
* `declarations_snapshots`: for a list of columns this is the first defect of the first column that
  has one; otherwise every column is declared.
* `statements_snapshots`: so the statements of a table whose name can be written are those of its
  declared columns, or the error of that defect;
* `display?_of_statements`: no other table has statements.

Columns are taken as they come: their names and types are any values, and they need not have been
built for the dialect that they are declared in.
-/

namespace TableDdl

/-! ## Full texts -/

/-- The characters of a text; a value that is no text has none. -/
def Value.content (v : Value) : String := (v.text?.map Text.content).getD ""

theorem Value.content_toValue (t : Text) : t.toValue.content = t.content := by
  simp [Value.content]

/-- A value is a full text if it has characters. -/
theorem Value.fullText?_cases (v : Value) :
    (v.content = "" ∧ v.fullText? = Option.none) ∨
      ∃ t : Text, v.content ≠ "" ∧ v = t.toValue ∧ v.fullText? = some t := by
  cases ht : v.text? with
  | none =>
    left
    constructor
    · simp [Value.content, ht]
    · simp [Value.fullText?, ht]
  | some t =>
    obtain rfl := Value.text?_eq_some_iff.1 ht
    by_cases hc : t.content = ""
    · left
      exact ⟨by rw [Value.content_toValue, hc], by simp [Value.fullText?, Text.isEmpty, hc]⟩
    · right
      refine ⟨t, ?_, rfl, Value.fullText?_eq_some_iff.2 ⟨rfl, hc⟩⟩
      rwa [Value.content_toValue]

/-! ## Sound columns -/

namespace Column

/-- The name of a column as a text; one that is no text counts as empty. -/
def nameText (c : Column) : Text := c.name.text?.getD (.plain "")

theorem nameText_toValue {c : Column} (h : c.name.content ≠ "") : c.nameText.toValue = c.name := by
  rcases c.name.fullText?_cases with ⟨he, -⟩ | ⟨name, -, hname, -⟩
  · exact absurd he h
  · simp [nameText, hname]

/-- **A column that can go into a table.** -/
structure Sound (c : Column) : Prop where
  named : c.name.content ≠ ""
  typed : c.type.content ≠ ""
  keyed : c.constraints.autoIncrement = true → c.constraints.primaryKey = true
  referred : ∀ k, c.constraints.foreignKey = some k → k.reference.isSome = true

/-- The first defect of a column, in the order in which they are looked for. -/
def defect? (c : Column) : Option TableFault :=
  if c.name.content = "" then some .unnamedColumn
  else if c.type.content = "" then some (.untypedColumn c.nameText)
  else if c.constraints.autoIncrement = true ∧ c.constraints.primaryKey = false then
    some (.autoIncrementWithoutKey c.nameText)
  else if c.constraints.foreignKey.any (·.reference.isNone) then some (.openForeignKey c.nameText)
  else none

theorem defect?_eq_none_iff {c : Column} : c.defect? = none ↔ c.Sound := by
  constructor
  · intro h
    unfold defect? at h
    split at h
    · cases h
    split at h
    · cases h
    split at h
    · cases h
    split at h
    · cases h
    rename_i hn ht hk hr
    refine ⟨hn, ht, fun ha => ?_, fun k hf => ?_⟩
    · cases hp : c.constraints.primaryKey with
      | true => rfl
      | false => exact absurd ⟨ha, hp⟩ hk
    · cases hk : k.reference with
      | some r => rfl
      | none => exact absurd (by simp [hf, hk]) hr
  · rintro ⟨hn, ht, hk, hr⟩
    have hk' : ¬(c.constraints.autoIncrement = true ∧ c.constraints.primaryKey = false) := by
      rintro ⟨ha, hp⟩
      rw [hk ha] at hp
      cases hp
    have hr' : c.constraints.foreignKey.any (·.reference.isNone) = false := by
      cases hf : c.constraints.foreignKey with
      | none => rfl
      | some k => simp [hr k hf]
    simp [defect?, hn, ht, hk', hr']

end Column

/-- The foreign key as it is written, once it has a reference. -/
def ForeignKey.referral? (k : ForeignKey) : Option Referral :=
  k.reference.map fun r => ⟨r.table.display, r.column.display, k.onDelete, k.onUpdate⟩

/-- The declaration of a column, which stands for it in its table if it is sound. -/
def Column.declaration (c : Column) : Declaration where
  name := c.nameText
  type := c.type.content
  unsigned := c.constraints.unsigned
  notNull := c.constraints.notNull
  autoIncrement := c.constraints.autoIncrement
  default := c.constraints.default
  unique := c.constraints.unique
  primaryKey := c.constraints.primaryKey
  referral := c.constraints.foreignKey.bind ForeignKey.referral?
  checks := c.constraints.checks.map Text.display
  index := c.constraints.index

/-! ## Declaring a column -/

@[simp] theorem Value.written_toValue (t : Text) : t.toValue.written = .ok t.display := by
  rw [Value.written, Value.display?_toValue]

/-- A foreign key that a column collected is never malformed: at most its reference is missing. -/
theorem referralOf_toValue (name : Text) (k : Option ForeignKey) :
    referralOf name ((k.map ForeignKey.toValue).getD .none) =
      if k.any (·.reference.isNone) then .error (.fault (.openForeignKey name))
      else .ok (k.bind ForeignKey.referral?) := by
  have hact : ∀ a : Option ReferentialAction, referralAction ((a.map .action).getD .none) = .ok a := by
    intro a
    cases a <;> rfl
  cases k with
  | none => rfl
  | some k =>
    obtain ⟨reference, onDelete, onUpdate⟩ := k
    cases reference with
    | none => rfl
    | some r =>
      simp only [Option.map_some, Option.getD_some, ForeignKey.toValue, Reference.toValue, referralOf,
        hact, Value.written_toValue]
      rfl

/-- The conditions of a column are written one by one. -/
theorem checks_toSet (k : ColumnConstraints) :
    (k.toSet.checks.getD []).mapM Value.written = .ok (k.checks.map Text.display) := by
  have htexts (ts : List Text) :
      (ts.map Text.toValue).mapM Value.written = .ok (ts.map Text.display) := by
    induction ts with
    | nil => rfl
    | cons t ts ih =>
      rw [List.map_cons, List.mapM_cons, Value.written_toValue, ih]
      rfl
  unfold ColumnConstraints.toSet
  cases k.checks with
  | nil => rfl
  | cons t ts => exact htexts (t :: ts)

theorem default_toSet (k : ColumnConstraints) : defaultLiteral k.toSet.default = .ok k.default := by
  unfold ColumnConstraints.toSet
  cases k.default <;> rfl

/-- **A column is declared iff it has no defect**, and its first defect is reported otherwise. -/
theorem declare_snapshot (c : Column) :
    c.snapshot.declare =
      match c.defect? with
      | some fault => .error (.fault fault)
      | none => .ok c.declaration := by
  unfold Snapshot.declare Column.defect? Column.snapshot
  rcases c.name.fullText?_cases with ⟨hn, hfull⟩ | ⟨name, hn, hname, hfull⟩
  · simp [hn, hfull]
  have hnt : c.nameText = name := by simp [Column.nameText, hname]
  rw [if_neg hn, hnt]
  simp only [hfull]
  rcases c.type.fullText?_cases with ⟨ht, hfull⟩ | ⟨type, ht, htype, hfull⟩
  · simp [ht, hfull]
  have hct : c.type.content = type.content := by rw [htype, Value.content_toValue]
  rw [if_neg ht]
  simp only [hfull, checks_toSet, default_toSet]
  simp only [ColumnConstraints.toSet, truthy_flagValue, referralOf_toValue]
  by_cases hk : c.constraints.autoIncrement = true ∧ c.constraints.primaryKey = false
  · simp [hk]
  have hk' : (c.constraints.autoIncrement && !c.constraints.primaryKey) = false := by
    cases ha : c.constraints.autoIncrement <;> cases hp : c.constraints.primaryKey <;> simp_all
  rw [if_neg hk, hk', if_neg Bool.false_ne_true]
  by_cases hr : c.constraints.foreignKey.any (·.reference.isNone) = true
  · rw [if_pos hr, if_pos hr]
    rfl
  · rw [if_neg hr, if_neg hr]
    show Except.ok _ = Except.ok _
    rw [Column.declaration, hnt, hct]

/-- **The first column with a defect decides.** -/
theorem declarations_snapshots (columns : List Column) :
    (columns.map Column.snapshot).mapM Snapshot.declare =
      match columns.findSome? Column.defect? with
      | some fault => .error (.fault fault)
      | none => .ok (columns.map Column.declaration) := by
  induction columns with
  | nil => rfl
  | cons c cs ih =>
    rw [List.map_cons, List.mapM_cons, declare_snapshot, ih, List.findSome?_cons]
    cases c.defect? with
    | some fault => rfl
    | none => cases cs.findSome? Column.defect? <;> rfl

/-- The statements of a table in a known dialect, if its name can be written. -/
theorem TableDefinition.statements_of_display? {t : TableDefinition} {d : Dialect} {table : String}
    (hd : t.dialect = .dialect d) (hname : t.name.display? = some table) :
    t.statements =
      match t.declarations with
      | .ok columns => .ok (statementsFor d.rules table columns)
      | .error defect => .error (t.failFor defect) := by
  unfold TableDefinition.statements
  rw [hd, hname, Value.display_of_display? hname]
  rfl

/-- The statements of a table whose columns are given as columns, in a known dialect. -/
theorem statements_snapshots (generator : String) {name : Value} {table : String}
    (hname : name.display? = some table) (d : Dialect) (columns : List Column) :
    (TableDefinition.mk generator name (.dialect d) (columns.map Column.snapshot)).statements =
      match columns.findSome? Column.defect? with
      | some fault => .error (.table { fault, generator := some generator, table := name })
      | none => .ok (statementsFor d.rules table (columns.map Column.declaration)) := by
  rw [TableDefinition.statements_of_display? rfl hname]
  simp only [TableDefinition.declarations, declarations_snapshots]
  cases columns.findSome? Column.defect? <;> rfl

/-- These statements are there or a defect is reported, unless the name of the table has to be written
and cannot be. -/
theorem statements_ne_unwritable_iff (generator : String) (name : Value) (d : Dialect)
    (columns : List Column) :
    let t : TableDefinition := ⟨generator, name, .dialect d, columns.map Column.snapshot⟩
    t.statements ≠ .error .unwritable ↔ t.statements =
      match columns.findSome? Column.defect? with
      | some fault => .error (.table { fault, generator := some generator, table := name })
      | none => .ok (statementsFor d.rules name.display (columns.map Column.declaration)) := by
  intro t
  constructor
  · intro h
    have hdefinition : t.statements = if name.display?.isNone && namesTable d.rules t.columns then
        .error .unwritable else match t.declarations with
      | .ok columns => .ok (statementsFor d.rules name.display columns)
      | .error defect => .error (t.failFor defect) := rfl
    rw [hdefinition] at h ⊢
    split at h
    · exact absurd rfl h
    · rename_i hnamed
      rw [if_neg hnamed]
      simp only [t, TableDefinition.declarations, declarations_snapshots]
      cases columns.findSome? Column.defect? <;> rfl
  · intro h hunwritable
    rw [hunwritable] at h
    cases hdefect : columns.findSome? Column.defect? <;> rw [hdefect] at h <;> cases h

/-- Unless a clause names the table, some column has a defect. -/
theorem exists_error_of_namesTable {r : Rules} {columns : List Snapshot}
    (h : namesTable r columns = false) : ∃ defect, columns.mapM Snapshot.declare = .error defect := by
  induction columns with
  | nil => cases h
  | cons s rest ih =>
    rw [List.mapM_cons]
    cases hs : s.declare with
    | error defect => exact ⟨defect, rfl⟩
    | ok c =>
      simp only [namesTable, hs, Bool.or_eq_false_iff] at h
      obtain ⟨defect, hrest⟩ := ih h.2
      exact ⟨defect, by rw [hrest]; rfl⟩

/-- **A table has statements only if its name can be written.** -/
theorem display?_of_statements {t : TableDefinition} {sql : List String}
    (h : t.statements = .ok sql) : t.name.display? = some t.name.display := by
  unfold TableDefinition.statements at h
  obtain ⟨d, -, h⟩ := bind_eq_ok h
  cases hname : t.name.display? with
  | some table => rw [Value.display_of_display? hname]
  | none =>
    rw [hname] at h
    cases hclause : namesTable d.rules t.columns with
    | true =>
      rw [hclause] at h
      cases h
    | false =>
      obtain ⟨defect, hdefect⟩ := exists_error_of_namesTable hclause
      simp only [hclause, TableDefinition.declarations, hdefect] at h
      cases h

theorem findSome?_defect?_eq_none_iff {columns : List Column} :
    columns.findSome? Column.defect? = none ↔ ∀ c ∈ columns, c.Sound := by
  simp [List.findSome?_eq_none_iff, Column.defect?_eq_none_iff]

/-- A table that has statements is one of sound columns, and these are its statements. -/
theorem sound_of_statements {generator : String} {name : Value} {d : Dialect}
    {columns : List Column} {sql : List String}
    (h : (TableDefinition.mk generator name (.dialect d)
      (columns.map Column.snapshot)).statements = .ok sql) :
    (∀ c ∈ columns, c.Sound) ∧
      sql = statementsFor d.rules name.display (columns.map Column.declaration) := by
  rw [statements_snapshots generator (display?_of_statements h)] at h
  cases hdefect : columns.findSome? Column.defect? with
  | some fault =>
    rw [hdefect] at h
    cases h
  | none =>
    rw [hdefect] at h
    exact ⟨findSome?_defect?_eq_none_iff.1 hdefect, (Except.ok.inj h).symm⟩

end TableDdl
