import TableDdl.Proofs.Generator.Family
import TableDdl.Proofs.Table.Portable

/-!
# Names in the statements of a generator

How the names of a table and of its columns get into its statements. A name is written in two ways.
The declaration of a column starts with the characters of its name (`Value.content`); everywhere
else a name is put into the text like any other value (`Value.display`), which is a difference for
dialects only.

Names are checked before they are used, by `Identifier.accepts`, which lets a dialect through, since
it stands for its name, and a line break at the very end. So names that are accepted need not be
`Identifier.Clean` where they are written:

* `clean_display_iff`: an accepted name is written cleanly iff it is a string that does not end in a
  line break, and it is then written in one way;
* `statements_eq_layout`: the statements of columns that a generator has begun, where every mention
  of a name is in its place;
* `statements_clean_iff`: so the names in the statements of a table are clean and the same
  everywhere iff they were given as strings without a line break. The other names that are accepted
  leave unclean statements behind (`unclean_names_accepted`).
-/

namespace TableDdl

/-! ## Clean names -/

namespace Identifier

/-- Lowercase words joined by single underscores, of which the first starts with a letter. -/
def Clean (s : String) : Prop :=
  ∃ c w, s.toList = c :: w ∧ isLetter c = true ∧ (∀ x ∈ w, isWordChar x = true ∨ x = '_') ∧
    Separated w

theorem Clean.newline_not_mem {s : String} (h : Clean s) : '\n' ∉ s.toList := by
  obtain ⟨c, w, hs, hc, hw, -⟩ := h
  rw [hs]
  intro hmem
  rcases List.mem_cons.1 hmem with rfl | hmem
  · exact absurd hc (by decide)
  · rcases hw _ hmem with hword | hunderscore
    · exact absurd hword (by decide)
    · exact absurd hunderscore (by decide)

/-- A string that is accepted has at most a line break too much. -/
theorem clean_iff_of_accepts {s : String} (h : accepts s.toList = true) :
    Clean s ↔ '\n' ∉ s.toList := by
  refine ⟨Clean.newline_not_mem, fun hnewline => ?_⟩
  obtain ⟨c, w, hs | hs, hc, hw, hseparated⟩ := accepts_iff.1 h
  · exact ⟨c, w, hs, hc, hw, hseparated⟩
  · exact absurd (by simp [hs]) hnewline

/-- The label of a dialect starts with a capital letter. -/
theorem not_clean_label (d : Dialect) : ¬Clean d.label := by
  rintro ⟨c, w, hs, hc, -⟩
  have hhead : d.label.toList.head? = some 'D' := by cases d <;> decide
  rw [hs] at hhead
  cases hhead
  exact absurd hc (by decide)

end Identifier

open Identifier (Clean)

/-- A plain string that does not hold a line break. -/
def Value.IsSingleLine (v : Value) : Prop := ∃ s : String, v = .str s ∧ '\n' ∉ s.toList

/-- **An accepted name is written cleanly iff it is a string without a line break**, and it is then
written as it is declared. -/
theorem clean_display_iff {v : Value} (h : v.isIdentifier = true) :
    (Clean v.display ↔ v.IsSingleLine) ∧ (Clean v.display → v.display = v.content) := by
  obtain ⟨t, ht⟩ := Option.isSome_iff_exists.1 h
  obtain ⟨rfl, haccepted⟩ := Value.identifier?_eq_some_iff.1 ht
  cases t with
  | plain s =>
    refine ⟨?_, fun _ => rfl⟩
    have hclean : Clean s ↔ '\n' ∉ s.toList := Identifier.clean_iff_of_accepts haccepted
    constructor
    · exact fun hs => ⟨s, rfl, hclean.1 hs⟩
    · rintro ⟨_, hs, hnewline⟩
      cases hs
      exact hclean.2 hnewline
  | dialect d =>
    have hlabel : ¬Clean d.label := Identifier.not_clean_label d
    refine ⟨⟨fun hd => absurd hd hlabel, ?_⟩, fun hd => absurd hd hlabel⟩
    rintro ⟨s, hs, -⟩
    cases hs

/-! ## Columns that a generator has begun -/

/-- The name that a generator is given for a column, and the calls on the column that it makes. -/
structure Draft where
  name : Value
  calls : List (String × List Value)

/-- What a draft says about its column in a dialect. -/
def Draft.sketch (p : Draft) (d : Dialect) : Sketch := Sketch.run { name := p.name } d p.calls

theorem Draft.name_sketch (p : Draft) (d : Dialect) : (p.sketch d).name = p.name :=
  Sketch.name_run { name := p.name } d p.calls

namespace Generator

/-- The column of a draft; calls that are refused are skipped. -/
def draft (g : Generator) (p : Draft) : Except Error Column := do
  let c ← g.column p.name
  return (p.calls.map fun call => Edit.call call.1 call.2).foldl (fun c e => (c.editOrKeep e).1) c

section
variable {g : Generator} {e : Executor} {d : Dialect} (he : g.executor = .ok e)
  (hd : e.dialect = .dialect d)
include he hd

/-- A draft yields its sketch in the dialect of the executor, if it has a valid name. -/
theorem draft_eq (p : Draft) :
    g.draft p = if p.name.isIdentifier then .ok ((p.sketch d).column d)
      else .error (.ofColumn (ColumnError.invalidName p.name).raised) := by
  have hcolumn : g.column p.name = Column.newFor (some d) p.name := by
    unfold column
    rw [he]
    simp only [bind, Except.bind, hd]
    rfl
  unfold draft
  rw [hcolumn, Column.newFor_some]
  split
  · rename_i hname
    have hdisplay := Value.display?_of_isIdentifier hname
    exact congrArg Except.ok (Sketch.afterEdits_column { name := p.name } d p.calls hdisplay)
  · rfl

/-- Drafts that all yield columns. -/
theorem mapM_draft {drafts : List Draft} {columns : List Column}
    (h : drafts.mapM g.draft = .ok columns) :
    columns = drafts.map (fun p => (p.sketch d).column d) ∧ ∀ p ∈ drafts, p.name.isIdentifier = true := by
  induction drafts generalizing columns with
  | nil =>
    cases h
    exact ⟨rfl, fun p hp => nomatch hp⟩
  | cons p rest ih =>
    rw [List.mapM_cons, draft_eq he hd] at h
    obtain ⟨c, hc, h⟩ := bind_eq_ok h
    obtain ⟨cs, hcs, h⟩ := bind_eq_ok h
    cases h
    obtain ⟨rfl, hnames⟩ := ih hcs
    split at hc
    · cases hc
      exact ⟨rfl, List.forall_mem_cons.2 ⟨by assumption, hnames⟩⟩
    · cases hc

end

/-- **The statements of a generator, written out**, with each mention of a name in its place. -/
theorem statements_eq_layout {g : Generator} {e : Executor} {d : Dialect} {columns : List Column}
    {sql : List String} (he : g.executor = .ok e) (hd : e.dialect = .dialect d)
    (h : g.statements (columns.map .column) = .ok sql) :
    sql = createText g.table.display (columns.map (·.declarationText d.rules))
        (columns.flatMap fun c =>
          c.constraints.clauseTexts g.table.display c.name.display (c.conditions d.rules))
      :: columns.flatMap fun c => c.constraints.indexTexts g.table.display c.name.display := by
  have hpasses := failsLate_statements_iff.1 (h ▸ failsLate_ok sql)
  obtain ⟨hne, e', found, he', hfound⟩ := hpasses
  cases he.symm.trans he'
  have hitems : columns.map Item.column = found.map Item.column := by
    rw [hd] at hfound
    exact (mapM_columnIn?_eq_some_iff.1 hfound).1
  obtain rfl : columns = found := List.map_injective_iff.2 (fun _ _ => Item.column.inj) hitems
  rw [statements_of_passes hne he hfound, hd] at h
  obtain ⟨-, -, h⟩ := bind_eq_ok h
  exact (layout_of_statements h).2

/-- Creating a table sends its statements up to some point. -/
theorem sent_createTable {g : Generator} {items : List Item} {sql : List String}
    (h : g.statements items = .ok sql) (ctx : Context) :
    ∃ k, sentStatements (g.createTable ctx items).trace = sql.take k := by
  obtain ⟨e, d, table, he, hd, ht⟩ := statements_eq_ok h
  obtain ⟨k, -, hstop⟩ := Executor.deliver_stopsAt hd (ctx.enter (scope table e)) sql
  refine ⟨k + 1, ?_⟩
  rw [createTable_of_ok h he ht]
  exact hstop.sent

/-- Dropping a table sends one statement. -/
theorem sent_dropTable {g : Generator} {e : Executor} {table : Text} (he : g.executor = .ok e)
    (ht : g.tableName = .ok table) (ctx : Context) :
    sentStatements (g.dropTable ctx).trace = [dropStatement g.table.display] := by
  have hdisplay : g.table.display = table.display := by
    rw [table_of_tableName ht, Value.display_toValue]
  unfold dropTable
  simp only [ht, he, hdisplay]
  exact (Executor.execute_observed e ctx _).2.1

theorem isIdentifier_of_tableName {g : Generator} {table : Text} (ht : g.tableName = .ok table) :
    g.table.isIdentifier = true := by
  unfold tableName at ht
  split at ht
  · unfold Value.isIdentifier
    rw [‹g.table.identifier? = _›]
    rfl
  · cases ht

end Generator

/-! ## Clean statements -/

/-- **When names are clean and consistent.** A generator begins columns under names that it accepts
and makes statements of them, whatever was done to the columns. In these and in the statements that
are sent

* the table is mentioned as `g.table.display`, wherever it is mentioned;
* a column is declared as `c.name.content` and mentioned in its constraints and its index as
  `c.name.display`, also in the checks that were not asked for.

All mentions of a column are as it is declared, and all mentions are clean, iff the names are
strings without a line break. -/
theorem statements_clean_iff {g : Generator} {drafts : List Draft} {columns : List Column}
    {sql : List String} (hcolumns : drafts.mapM g.draft = .ok columns)
    (hsql : g.statements (columns.map .column) = .ok sql) :
    ∃ d : Dialect,
      sql = createText g.table.display
          (columns.map fun c =>
            s!"{c.name.content} {c.typeText d.rules}{c.constraints.suffix}")
          (columns.flatMap fun c =>
            c.constraints.clauseTexts g.table.display c.name.display (c.conditions d.rules))
        :: (columns.flatMap fun c => c.constraints.indexTexts g.table.display c.name.display) ∧
      (∀ c ∈ columns, ∃ checks : List Condition,
        c.conditions d.rules = checks.map fun k => (k.text c.name).display) ∧
      (∀ ctx, (∃ k, sentStatements (g.createTable ctx (columns.map .column)).trace = sql.take k) ∧
        sentStatements (g.dropTable ctx).trace = [dropStatement g.table.display]) ∧
      ((Clean g.table.display ∧
          ∀ c ∈ columns, c.name.display = c.name.content ∧ Clean c.name.display) ↔
        g.table.IsSingleLine ∧ ∀ p ∈ drafts, p.name.IsSingleLine) := by
  obtain ⟨e, d, table, he, hd, ht⟩ := Generator.statements_eq_ok hsql
  obtain ⟨rfl, hnames⟩ := Generator.mapM_draft he hd hcolumns
  refine ⟨d, Generator.statements_eq_layout he hd hsql, ?_, fun ctx => ?_, ?_⟩
  · intro c hc
    obtain ⟨p, -, rfl⟩ := List.mem_map.1 hc
    exact ⟨_, (p.sketch d).conditions_column d⟩
  · exact ⟨Generator.sent_createTable hsql ctx, Generator.sent_dropTable he ht ctx⟩
  · have htable := (clean_display_iff (Generator.isIdentifier_of_tableName ht)).1
    rw [List.forall_mem_map, htable]
    refine and_congr_right fun _ => forall₂_congr fun p hp => ?_
    obtain ⟨hclean, hsame⟩ := clean_display_iff (hnames p hp)
    have hname : ((p.sketch d).column d).name = p.name := p.name_sketch d
    rw [hname, ← hclean]
    exact ⟨And.right, fun h => ⟨hsame h, h⟩⟩

/-! A generator for a table `users`, and names that it accepts for columns. -/

def usersTable : Generator where
  table := .str "users"
  candidate := { dialect := some (.dialect .mysql), channel := some { transactional := true } }

def userIdDraft : Draft := ⟨.str "user_id", [("pk", []), ("index", [])]⟩

/-- The names of these statements are clean. -/
theorem statements_clean_iff_userIdDraft :
    ∃ (columns : List Column) (sql : List String),
      [userIdDraft].mapM usersTable.draft = .ok columns ∧
      usersTable.statements (columns.map .column) = .ok sql ∧
      Clean usersTable.table.display ∧
      ∀ c ∈ columns, c.name.display = c.name.content ∧ Clean c.name.display := by
  have hcolumns : [userIdDraft].mapM usersTable.draft =
      .ok [(userIdDraft.sketch .mysql).column .mysql] := rfl
  have hsql : usersTable.statements ([(userIdDraft.sketch .mysql).column .mysql].map .column) =
      .ok ["CREATE TABLE users (user_id BIGINT UNSIGNED AUTO_INCREMENT, "
          ++ "CONSTRAINT pk_users_user_id PRIMARY KEY (user_id));",
        "CREATE INDEX index_users_user_id ON users(user_id);"] := rfl
  obtain ⟨_, -, -, -, hclean⟩ := statements_clean_iff hcolumns hsql
  refine ⟨_, _, hcolumns, hsql, hclean.2 ⟨⟨"users", rfl, by decide⟩, fun p hp => ?_⟩⟩
  obtain rfl := List.mem_singleton.1 hp
  exact ⟨"user_id", rfl, by decide⟩

/-- A column that has the name of a dialect. -/
def engineDraft : Draft := ⟨.dialect .mysql, [("int", []), ("unique", [])]⟩

/-- A column whose name ends in a line break. -/
def brokenDraft : Draft := ⟨.str "id\n", [("int", [])]⟩

/-- **Names that are accepted and come out unclean**: a column that is declared as `mysql` is
mentioned under another name, and a line break goes into the statement. -/
theorem unclean_names_accepted :
    ([engineDraft, brokenDraft].mapM usersTable.draft >>= fun columns =>
        usersTable.statements (columns.map .column)) =
      .ok ["CREATE TABLE users (mysql INT, id\n INT, "
        ++ "CONSTRAINT unique_users_Dialect.MYSQL UNIQUE (Dialect.MYSQL));"] ∧
    "Dialect.MYSQL" ≠ "mysql" ∧ ¬Clean "Dialect.MYSQL" ∧ ¬Clean "id\n" := by
  refine ⟨rfl, by decide, Identifier.not_clean_label .mysql, fun h => ?_⟩
  exact h.newline_not_mem (by decide)

end TableDdl
