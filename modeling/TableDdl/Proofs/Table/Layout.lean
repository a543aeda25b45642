import Mathlib.Data.List.Basic
import TableDdl.Proofs.Table.Defect

/-!
# The layout of a table's statements

The statements of a table, written out from its columns. A column contributes the text of its
declaration, a block of constraint clauses and at most one index statement, each of them read off
that column, the rules of the dialect and the name of the table:

* `Column.declarationText`: name, type with the words that go with it, and the suffix, which does
  not depend on the dialect (`ColumnConstraints.suffix`);
* `ColumnConstraints.clauseTexts`: primary key, foreign key, checks, uniqueness. The checks are
  numbered as they are written (`checkTexts`), so that their positions have no gaps;
* `ColumnConstraints.indexTexts`.

`statements_eq_ok_iff` says that the statements exist iff all columns are sound, and that they are
then these texts joined. In it the declarations of all columns come before the blocks of all
columns, each in column order.
-/

namespace TableDdl

/-! ## The texts of one column -/

namespace ColumnConstraints

/-- What follows the type of a column in its declaration, whatever the dialect. -/
def suffix (k : ColumnConstraints) : String :=
  (if k.notNull then " NOT NULL" else "")
    ++ (match k.default with
      | none => ""
      | some literal => s!" DEFAULT {literal}")

/-- What happens on an event, where an action has been chosen for it. -/
def eventText (event : String) : Option ReferentialAction → String
  | none => ""
  | some a => s!" ON {event} {a.sql}"

/-- A foreign key of the column `name`, if it has a reference. -/
def foreignKeyText (table name : String) (k : ForeignKey) : Option String :=
  k.reference.map fun r =>
    s!"CONSTRAINT fk_{table}_{name} FOREIGN KEY ({name}) REFERENCES {r.table.display}({r.column.display})"
      ++ eventText "DELETE" k.onDelete ++ eventText "UPDATE" k.onUpdate

/-- Conditions on the column `name`, the first of them at the given position. -/
def checkTexts (table name : String) (position : Nat) : List String → List String
  | [] => []
  | condition :: rest =>
    s!"CONSTRAINT check_{table}_{name}_{position} CHECK ({condition})"
      :: checkTexts table name (position + 1) rest

/-- **The block of a column**: its constraint clauses, where `conditions` are its checks. -/
def clauseTexts (k : ColumnConstraints) (table name : String) (conditions : List String) :
    List String :=
  (if k.primaryKey then [s!"CONSTRAINT pk_{table}_{name} PRIMARY KEY ({name})"] else [])
    ++ (k.foreignKey.bind (foreignKeyText table name)).toList
    ++ checkTexts table name 0 conditions
    ++ (if k.unique then [s!"CONSTRAINT unique_{table}_{name} UNIQUE ({name})"] else [])

/-- The statement that indexes the column `name`, if it is indexed. -/
def indexTexts (k : ColumnConstraints) (table name : String) : List String :=
  if k.index then [s!"CREATE INDEX index_{table}_{name} ON {table}({name});"] else []

/-- Whether a check has to keep out negative values: the column is unsigned, the dialect has no
word for that, and the column does not increment. -/
def needsSignCheck (r : Rules) (k : ColumnConstraints) : Bool :=
  k.unsigned && !r.nativeUnsigned && !k.autoIncrement

end ColumnConstraints

namespace Column

/-- The type of a column with the words that go with it. -/
def typeText (r : Rules) (c : Column) : String :=
  (if c.constraints.autoIncrement then r.serialType.getD c.type.content else c.type.content)
    ++ (if c.constraints.unsigned && r.nativeUnsigned then " UNSIGNED" else "")
    ++ (match r.autoIncrementKeyword with
      | some word => if c.constraints.autoIncrement then s!" {word}" else ""
      | none => "")

def declarationText (r : Rules) (c : Column) : String :=
  s!"{c.name.content} {c.typeText r}{c.constraints.suffix}"

/-- The checks of a column: its own in the order of their insertion, then the one on its sign. -/
def conditions (r : Rules) (c : Column) : List String :=
  c.constraints.checks.map Text.display
    ++ (if c.constraints.needsSignCheck r then [s!"{c.name.display} >= 0"] else [])

end Column

/-- A `CREATE TABLE` of declarations and then constraints. -/
def createText (table : String) (declarations constraints : List String) : String :=
  let body := ", ".intercalate (declarations ++ constraints)
  s!"CREATE TABLE {table} ({body});"

/-! ## The texts of a declared column -/

theorem intercalate_blank (first : String) (rest : List String) :
    " ".intercalate (first :: rest) = first ++ String.join (rest.map (" " ++ ·)) := by
  induction rest generalizing first with
  | nil => simp
  | cons next rest ih =>
    rw [String.intercalate_cons_cons, ih, List.map_cons, String.join_cons]
    simp only [String.append_assoc]

theorem toString_text (s : String) : toString s = s := rfl

theorem toString_position (n : Nat) : toString n = n.repr := rfl

theorem checkText_eq (c : Declaration) (table : String) (position : Nat) (condition : String) :
    s!"CONSTRAINT check_{table}_{c.name.display}_{position} CHECK ({condition})"
      = c.checkClause table position condition := by
  unfold Declaration.checkClause Declaration.constraintName
  rw [show "CONSTRAINT check_" = "CONSTRAINT " ++ "check" ++ "_" from rfl]
  simp only [toString_text, toString_position, ← String.append_assoc]

theorem primaryKeyText_eq (c : Declaration) (table : String) :
    s!"CONSTRAINT pk_{table}_{c.name.display} PRIMARY KEY ({c.name.display})"
      = c.primaryKeyClause table := by
  unfold Declaration.primaryKeyClause Declaration.constraintName
  rw [show "CONSTRAINT pk_" = "CONSTRAINT " ++ "pk" ++ "_" from rfl]
  simp only [toString_text, ← String.append_assoc]

theorem uniqueText_eq (c : Declaration) (table : String) :
    s!"CONSTRAINT unique_{table}_{c.name.display} UNIQUE ({c.name.display})"
      = c.uniqueClause table := by
  unfold Declaration.uniqueClause Declaration.constraintName
  rw [show "CONSTRAINT unique_" = "CONSTRAINT " ++ "unique" ++ "_" from rfl]
  simp only [toString_text, ← String.append_assoc]

theorem indexText_eq (c : Declaration) (table : String) :
    s!"CREATE INDEX index_{table}_{c.name.display} ON {table}({c.name.display});"
      = c.indexStatement table := by
  unfold Declaration.indexStatement Declaration.constraintName
  rw [show "CREATE INDEX index_" = "CREATE INDEX " ++ "index" ++ "_" from rfl]
  simp only [toString_text, ← String.append_assoc]

theorem eventText_eq (event : String) (a : Option ReferentialAction) :
    ColumnConstraints.eventText event a = Declaration.actionClause event a := by
  cases a with
  | none => rfl
  | some a =>
    unfold ColumnConstraints.eventText Declaration.actionClause
    simp only [toString_text]

theorem foreignKeyText_eq (c : Declaration) (table : String) (k : ForeignKey) :
    ColumnConstraints.foreignKeyText table c.name.display k
      = k.referral?.map (c.foreignKeyClause table) := by
  unfold ColumnConstraints.foreignKeyText ForeignKey.referral?
  cases k.reference with
  | none => rfl
  | some r =>
    simp only [Option.map_some]
    unfold Declaration.foreignKeyClause Declaration.constraintName
    rw [show "CONSTRAINT fk_" = "CONSTRAINT " ++ "fk" ++ "_" from rfl]
    simp only [eventText_eq, toString_text, ← String.append_assoc]

theorem checkTexts_eq_mapIdx (c : Declaration) (table : String) (position : Nat)
    (conditions : List String) :
    ColumnConstraints.checkTexts table c.name.display position conditions =
      conditions.mapIdx fun i => c.checkClause table (position + i) := by
  induction conditions generalizing position with
  | nil => rfl
  | cons condition rest ih =>
    rw [List.mapIdx_cons, ColumnConstraints.checkTexts, ih, checkText_eq]
    simp only [Nat.add_assoc, Nat.add_comm 1, Nat.add_zero]

/-- A word with a blank before it, where it is wanted. -/
theorem join_if (wanted : Bool) (word : String) :
    String.join ((if wanted then [word] else []).map (" " ++ ·))
      = if wanted then " " ++ word else "" := by
  cases wanted <;> simp

/-- A declaration is its name and its type, followed by the words that are wanted. -/
theorem clause_eq (c : Declaration) (r : Rules) :
    c.clause r =
      c.name.content ++ " " ++ c.typeIn r
        ++ (if c.unsigned && r.nativeUnsigned then " " ++ "UNSIGNED" else "")
        ++ (match r.autoIncrementKeyword with
          | some word => if c.autoIncrement then " " ++ word else ""
          | none => "")
        ++ (if c.notNull then " " ++ "NOT NULL" else "")
        ++ (match c.default with
          | none => ""
          | some literal => " " ++ "DEFAULT " ++ literal) := by
  have hword : String.join ((if c.autoIncrement then r.autoIncrementKeyword.toList else []).map
      (" " ++ ·)) = (match r.autoIncrementKeyword with
      | some word => if c.autoIncrement then " " ++ word else ""
      | none => "") := by
    cases c.autoIncrement <;> cases r.autoIncrementKeyword <;> simp
  have hdefault : String.join ((c.default.map ("DEFAULT " ++ ·)).toList.map (" " ++ ·))
      = (match c.default with
        | none => ""
        | some literal => " " ++ "DEFAULT " ++ literal) := by
    cases c.default with
    | none => rfl
    | some literal =>
      simp only [Option.map_some, Option.toList_some, List.map_cons, List.map_nil, String.join_cons,
        String.join_nil, String.append_empty, String.append_assoc]
  unfold Declaration.clause Declaration.parts
  simp only [List.cons_append, List.nil_append, intercalate_blank, List.map_cons, List.map_append,
    String.join_cons, String.join_append, String.append_assoc, join_if, hword, hdefault]

/-- The declaration of a column is written as its text. -/
theorem clause_declaration {c : Column} (r : Rules) (h : c.name.content ≠ "") :
    c.declaration.clause r = c.declarationText r := by
  have hn : c.declaration.name.content = c.name.content := by
    rw [← c.nameText_toValue h, Value.content_toValue]
    rfl
  rw [clause_eq, hn]
  unfold Column.declarationText Column.typeText ColumnConstraints.suffix
  rw [show " DEFAULT " = " " ++ "DEFAULT " from rfl, show " UNSIGNED" = " " ++ "UNSIGNED" from rfl,
    show " NOT NULL" = " " ++ "NOT NULL" from rfl]
  simp only [toString_text, String.append_assoc]
  rfl

/-- A column's constraints are written as its block. -/
theorem constraints_declaration {c : Column} (r : Rules) (table : String)
    (h : c.name.content ≠ "") :
    c.declaration.constraints r table =
      c.constraints.clauseTexts table c.name.display (c.conditions r) := by
  have hn : c.name.display = c.declaration.name.display := by
    rw [← c.nameText_toValue h, Value.display_toValue]
    rfl
  have hreferral : c.constraints.foreignKey.bind
      (ColumnConstraints.foreignKeyText table c.declaration.name.display)
      = c.declaration.referral.map (c.declaration.foreignKeyClause table) := by
    show _ = (c.constraints.foreignKey.bind ForeignKey.referral?).map _
    cases c.constraints.foreignKey with
    | none => rfl
    | some k => exact foreignKeyText_eq c.declaration table k
  have hconditions : c.conditions r = c.declaration.conditions r := by
    unfold Column.conditions
    rw [hn]
    rfl
  unfold Declaration.constraints ColumnConstraints.clauseTexts
  rw [hn, hreferral, hconditions, primaryKeyText_eq, uniqueText_eq, checkTexts_eq_mapIdx]
  simp only [Nat.zero_add]
  rfl

/-- A column's index is written as its statement. -/
theorem indexes_declaration {c : Column} (table : String) (h : c.name.content ≠ "") :
    c.declaration.indexes table = c.constraints.indexTexts table c.name.display := by
  have hn : c.name.display = c.declaration.name.display := by
    rw [← c.nameText_toValue h, Value.display_toValue]
    rfl
  unfold Declaration.indexes ColumnConstraints.indexTexts
  rw [hn, indexText_eq]
  rfl

/-! ## The statements of a table -/

/-- All statements of a table, from its sound columns. -/
theorem statementsFor_declarations (r : Rules) (table : String) {columns : List Column}
    (h : ∀ c ∈ columns, c.Sound) :
    statementsFor r table (columns.map Column.declaration) =
      createText table (columns.map (·.declarationText r))
          (columns.flatMap fun c => c.constraints.clauseTexts table c.name.display (c.conditions r))
        :: columns.flatMap fun c => c.constraints.indexTexts table c.name.display := by
  have hd : (columns.map Column.declaration).map (·.clause r)
      = columns.map (·.declarationText r) := by
    rw [List.map_map]
    exact List.map_congr_left fun c hc => clause_declaration r (h c hc).named
  have hk : (columns.map Column.declaration).flatMap (·.constraints r table)
      = columns.flatMap fun c => c.constraints.clauseTexts table c.name.display (c.conditions r) := by
    rw [List.flatMap_map]
    exact List.flatMap_congr fun c hc => constraints_declaration r table (h c hc).named
  have hi : (columns.map Column.declaration).flatMap (·.indexes table)
      = columns.flatMap fun c => c.constraints.indexTexts table c.name.display := by
    rw [List.flatMap_map]
    exact List.flatMap_congr fun c hc => indexes_declaration table (h c hc).named
  unfold statementsFor createStatement bodyItems createText
  rw [hd, hk, hi]
  simp only [toString_text, String.append_assoc]

/-- The statements of a table, if it has any, are those of sound columns, written out. -/
theorem layout_of_statements {generator : String} {table : Value} {d : Dialect}
    {columns : List Column} {sql : List String}
    (h : (TableDefinition.mk generator table (.dialect d)
      (columns.map Column.snapshot)).statements = .ok sql) :
    (∀ c ∈ columns, c.Sound) ∧
      sql = createText table.display (columns.map (·.declarationText d.rules))
          (columns.flatMap fun c =>
            c.constraints.clauseTexts table.display c.name.display (c.conditions d.rules))
        :: columns.flatMap fun c => c.constraints.indexTexts table.display c.name.display := by
  obtain ⟨hsound, rfl⟩ := sound_of_statements h
  exact ⟨hsound, statementsFor_declarations d.rules table.display hsound⟩

/-- **A table is written column by column.** There are statements iff all columns are sound. They
are then the `CREATE TABLE`, with one declaration for each column and after these the block of each
column, and the index statements of each column, all in column order. -/
theorem statements_eq_ok_iff (generator table : String) (d : Dialect) (columns : List Column)
    (out : List String) :
    (TableDefinition.mk generator (.str table) (.dialect d)
        (columns.map Column.snapshot)).statements = .ok out ↔
      (∀ c ∈ columns, c.Sound) ∧
        out = createText table (columns.map (·.declarationText d.rules))
            (columns.flatMap fun c =>
              c.constraints.clauseTexts table c.name.display (c.conditions d.rules))
          :: columns.flatMap fun c => c.constraints.indexTexts table c.name.display := by
  rw [statements_snapshots generator (Value.display?_str table), ← findSome?_defect?_eq_none_iff]
  cases hd : columns.findSome? Column.defect? with
  | some fault => simp
  | none =>
    have hs := findSome?_defect?_eq_none_iff.1 hd
    simp only [Except.ok.injEq, true_and]
    rw [statementsFor_declarations _ _ hs]
    exact eq_comm

end TableDdl
