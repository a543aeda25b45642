import Mathlib.Data.List.TakeWhile
import TableDdl.Proofs.Column.Reachable
import TableDdl.Proofs.Table.Layout

/-!
# Names and keys of a whole table

A table looks at its columns one at a time, so nothing keeps it from declaring a name twice or from
having two primary keys.

* `firstWord_declarationText`: a declaration begins with the name of its column, whose line break,
  if it has one, is no part of it (`content_eq_firstWord`);
* `filter_clauseTexts`: a block has a `PRIMARY KEY` clause iff its column is a primary key;
* `oneTable_iff`: so a table that has statements declares distinct names iff its columns were begun
  under distinct names, and has one key at most iff one column at most was made a key by its calls;
* `table_with_two_keys`: a column that is put into a table twice.
-/

namespace TableDdl

/-! ## The name in a declaration -/

/-- A text up to the first blank or line break. -/
def firstWord (text : String) : String :=
  String.ofList (text.toList.takeWhile fun c => c != ' ' && c != '\n')

theorem firstWord_append_blank (first rest : String) :
    firstWord (first ++ (" " ++ rest)) = firstWord first := by
  unfold firstWord
  rw [String.toList_append, String.toList_append]
  congr 1
  induction first.toList with
  | nil => simp
  | cons c cs ih => simp only [List.cons_append, List.takeWhile_cons, ih]

theorem firstWord_declarationText (r : Rules) (c : Column) :
    firstWord (c.declarationText r) = firstWord c.name.content := by
  unfold Column.declarationText
  simp only [toString_text]
  rw [String.append_assoc, String.append_assoc, firstWord_append_blank]

/-- An identifier is a word, with or without a line break after it. -/
theorem content_eq_firstWord {v : Value} (h : v.isIdentifier = true) :
    v.content = firstWord v.content ∨ v.content = firstWord v.content ++ "\n" := by
  obtain ⟨t, ht⟩ := Option.isSome_iff_exists.1 h
  obtain ⟨rfl, haccepted⟩ := Value.identifier?_eq_some_iff.1 ht
  obtain ⟨c, w, htext, hletter, hbody, -⟩ := Identifier.accepts_iff.1 haccepted
  rw [Value.content_toValue]
  have hword : ∀ x ∈ c :: w, (x != ' ' && x != '\n') = true := by
    intro x hx
    have hx : Identifier.isWordChar x = true ∨ x = '_' := by
      rcases List.mem_cons.1 hx with rfl | hx
      · exact .inl (Identifier.isWordChar_of_isLetter hletter)
      · exact hbody x hx
    rw [Bool.and_eq_true, bne_iff_ne, bne_iff_ne]
    constructor <;> rintro rfl <;> exact absurd hx (by decide)
  have hcontent : t.content = String.ofList t.content.toList := String.ofList_toList.symm
  rcases htext with htext | htext
  · left
    rw [firstWord, htext, List.takeWhile_eq_self_iff.2 hword, ← htext, String.ofList_toList]
  · right
    rw [firstWord, htext, List.takeWhile_append_of_pos hword, List.takeWhile_cons_of_neg (by decide),
      List.append_nil]
    rw [hcontent, htext, String.ofList_append]

/-! ## The keys in a block -/

/-- A clause of this kind is known by the name of its constraint. -/
def isPrimaryKeyClause (clause : String) : Bool :=
  "CONSTRAINT pk_".toList.isPrefixOf clause.toList

theorem isPrimaryKeyClause_primaryKey (table name : String) :
    isPrimaryKeyClause s!"CONSTRAINT pk_{table}_{name} PRIMARY KEY ({name})" = true := by
  simp [isPrimaryKeyClause, toString_text]

theorem isPrimaryKeyClause_foreignKey {table name clause : String} {k : ForeignKey}
    (h : ColumnConstraints.foreignKeyText table name k = some clause) :
    isPrimaryKeyClause clause = false := by
  obtain ⟨r, -, rfl⟩ := Option.map_eq_some_iff.1 h
  simp [isPrimaryKeyClause, toString_text, List.isPrefixOf]

theorem isPrimaryKeyClause_check {table name clause : String} {position : Nat}
    {conditions : List String}
    (h : clause ∈ ColumnConstraints.checkTexts table name position conditions) :
    isPrimaryKeyClause clause = false := by
  induction conditions generalizing position with
  | nil => cases h
  | cons condition rest ih =>
    rcases List.mem_cons.1 h with rfl | h
    · simp [isPrimaryKeyClause, toString_text, List.isPrefixOf]
    · exact ih h

theorem isPrimaryKeyClause_unique (table name : String) :
    isPrimaryKeyClause s!"CONSTRAINT unique_{table}_{name} UNIQUE ({name})" = false := by
  simp [isPrimaryKeyClause, toString_text, List.isPrefixOf]

/-- **A block has the key of its column, if that is one.** -/
theorem filter_clauseTexts (k : ColumnConstraints) (table name : String)
    (conditions : List String) :
    (k.clauseTexts table name conditions).filter isPrimaryKeyClause =
      if k.primaryKey then [s!"CONSTRAINT pk_{table}_{name} PRIMARY KEY ({name})"] else [] := by
  have hforeign : (k.foreignKey.bind
      (ColumnConstraints.foreignKeyText table name)).toList.filter isPrimaryKeyClause = [] := by
    refine List.filter_eq_nil_iff.2 fun clause h => ?_
    obtain ⟨key, -, htext⟩ := Option.bind_eq_some_iff.1 (Option.mem_toList.1 h)
    rw [isPrimaryKeyClause_foreignKey htext]
    exact Bool.false_ne_true
  have hchecks : (ColumnConstraints.checkTexts table name 0 conditions).filter isPrimaryKeyClause
      = [] := by
    refine List.filter_eq_nil_iff.2 fun clause h => ?_
    rw [isPrimaryKeyClause_check h]
    exact Bool.false_ne_true
  unfold ColumnConstraints.clauseTexts
  rw [List.filter_append, List.filter_append, List.filter_append, hforeign, hchecks]
  cases k.primaryKey <;> cases k.unique <;>
    simp [isPrimaryKeyClause_primaryKey, isPrimaryKeyClause_unique]

/-! ## Columns and the calls that made them -/

/-- A column that was begun under a name, and was given calls. -/
abbrev History := Value × List (String × List Value)

/-- One of the calls makes the column a primary key. -/
def History.marksKey (h : History) : Bool := (Call.understood h.2).any (·.raises .primaryKey)

theorem Reachable.primaryKey_eq {d : Dialect} {h : History} {c : Column}
    (hc : Reachable d h.1 h.2 c) : c.constraints.primaryKey = h.marksKey := by
  rw [hc.eq_foldl]
  exact (Column.raised_foldl_write _ _ .primaryKey).trans (Bool.false_or _)

/-- The columns of a table, by their histories. -/
def Made (histories : List History) (columns : List Column) : Prop :=
  List.Forall₂ (fun h c => ∃ d, Reachable d h.1 h.2 c) histories columns

theorem Made.exists_of_mem {histories : List History} {columns : List Column}
    (h : Made histories columns) {history : History} (hmem : history ∈ histories) :
    ∃ d c, Reachable d history.1 history.2 c := by
  induction h with
  | nil => cases hmem
  | cons hc _ ih =>
    rcases List.mem_cons.1 hmem with rfl | hmem
    · obtain ⟨d, hc⟩ := hc
      exact ⟨d, _, hc⟩
    · exact ih hmem

/-- The key clauses among the blocks of all columns are as many as the columns that were made keys. -/
theorem length_keys {histories : List History} {columns : List Column}
    (h : Made histories columns) (r : Rules) (table : String) :
    ((columns.flatMap fun c =>
        c.constraints.clauseTexts table c.name.display (c.conditions r)).filter
      isPrimaryKeyClause).length = histories.countP History.marksKey := by
  induction h with
  | nil => rfl
  | @cons history c histories columns hc _ ih =>
    obtain ⟨d, hc⟩ := hc
    rw [List.flatMap_cons, List.filter_append, List.length_append, ih, filter_clauseTexts,
      hc.primaryKey_eq, List.countP_cons]
    cases history.marksKey <;> simp [Nat.add_comm]

/-- The names in the declarations are those under which the columns were begun. -/
theorem declaredNames_eq {histories : List History} {columns : List Column}
    (h : Made histories columns) (r : Rules) :
    (columns.map (·.declarationText r)).map firstWord =
      histories.map fun h => firstWord h.1.content := by
  induction h with
  | nil => rfl
  | @cons history c histories columns hc _ ih =>
    obtain ⟨d, hc⟩ := hc
    rw [List.map_cons, List.map_cons, List.map_cons, ih, firstWord_declarationText,
      hc.wellFormed.name_eq]

/-- **What a table that has statements declares.** The names in its `CREATE TABLE` are those under
which its columns were begun, without the line break that an identifier may end in, and it has a
`PRIMARY KEY` clause for each column that was made a key. So the names are distinct and there is one
key at most iff that holds of the columns that it was given. -/
theorem oneTable_iff {generator : String} {table : Value} {d : Dialect}
    {histories : List History} {columns : List Column} {sql : List String}
    (hmade : Made histories columns)
    (h : (TableDefinition.mk generator table (.dialect d)
      (columns.map Column.snapshot)).statements = .ok sql) :
    let declarations := columns.map (·.declarationText d.rules)
    let clauses := columns.flatMap fun c =>
      c.constraints.clauseTexts table.display c.name.display (c.conditions d.rules)
    let names := histories.map fun h => firstWord h.1.content
    sql = createText table.display declarations clauses
      :: (columns.flatMap fun c => c.constraints.indexTexts table.display c.name.display) ∧
    declarations.map firstWord = names ∧
    (clauses.filter isPrimaryKeyClause).length = histories.countP History.marksKey ∧
    ((declarations.map firstWord).Nodup ∧ (clauses.filter isPrimaryKeyClause).length ≤ 1 ↔
      names.Nodup ∧ histories.countP History.marksKey ≤ 1) ∧
    ∀ h ∈ histories, h.1.content = firstWord h.1.content ∨
      h.1.content = firstWord h.1.content ++ "\n" := by
  intro declarations clauses names
  have hnames : declarations.map firstWord = names := declaredNames_eq hmade d.rules
  have hkeys : (clauses.filter isPrimaryKeyClause).length = histories.countP History.marksKey :=
    length_keys hmade d.rules table.display
  refine ⟨(layout_of_statements h).2, hnames, hkeys, by rw [hnames, hkeys], ?_⟩
  intro history hhistory
  obtain ⟨d, c, hc⟩ := hmade.exists_of_mem hhistory
  exact content_eq_firstWord hc.isIdentifier

/-! A table with a key and a reference, and one with the same column twice. -/

def memberHistories : List History := [
  (.str "id", [("pk", [])]),
  (.str "user_id", [("fk", []), ("references", [.str "users", .str "id"])])]

def History.column (d : Dialect) (h : History) : Column :=
  ({ dialect := d, name := h.1 } : Column).afterCalls h.2

def memberColumns : List Column := memberHistories.map (History.column .postgresql)

theorem oneTable_iff_members :
    let sql := ["CREATE TABLE members (id BIGSERIAL, user_id BIGINT, " ++
      "CONSTRAINT pk_members_id PRIMARY KEY (id), " ++
      "CONSTRAINT fk_members_user_id FOREIGN KEY (user_id) REFERENCES users(id), " ++
      "CONSTRAINT check_members_user_id_0 CHECK (user_id >= 0));"]
    Made memberHistories memberColumns ∧
      (TableDefinition.mk "Members" (.str "members") (.dialect .postgresql)
        (memberColumns.map Column.snapshot)).statements = .ok sql ∧
      ((memberColumns.map (·.declarationText Dialect.postgresql.rules)).map firstWord).Nodup := by
  intro sql
  have hmade : Made memberHistories memberColumns :=
    .cons ⟨.postgresql, Reachable.append (.new rfl) _⟩
      (.cons ⟨.postgresql, Reachable.append (.new rfl) _⟩ .nil)
  have hsql : (TableDefinition.mk "Members" (.str "members") (.dialect .postgresql)
      (memberColumns.map Column.snapshot)).statements = .ok sql :=
    toOption_eq_some (by decide +kernel)
  obtain ⟨-, -, -, hiff, -⟩ := oneTable_iff hmade hsql
  exact ⟨hmade, hsql, (hiff.2 ⟨by decide +kernel, by decide +kernel⟩).1⟩

/-- **A column that is put into a table twice** is declared twice, and is its key twice. -/
theorem table_with_two_keys :
    let id := History.column .sqlite (.str "id", [("pk", [])])
    Made [(.str "id", [("pk", [])]), (.str "id", [("pk", [])])] [id, id] ∧
      (TableDefinition.mk "Users" (.str "users") (.dialect .sqlite)
        ([id, id].map Column.snapshot)).statements =
        .ok ["CREATE TABLE users (id INTEGER, id INTEGER, " ++
          "CONSTRAINT pk_users_id PRIMARY KEY (id), CONSTRAINT pk_users_id PRIMARY KEY (id));"] ∧
      ¬ ([id, id].map fun c => firstWord (c.declarationText Dialect.sqlite.rules)).Nodup := by
  intro id
  have hid : ∃ d, Reachable d (.str "id") [("pk", [])] id :=
    ⟨.sqlite, Reachable.append (.new rfl) _⟩
  refine ⟨.cons hid (.cons hid .nil), rfl, by decide +kernel⟩

end TableDdl
