import TableDdl.Proofs.Column.Sketch
import TableDdl.Proofs.Table.Layout

/-!
# The same columns in every dialect

Programs that are run on the columns of each dialect, and the tables of these columns. All that a
dialect decides is the type of a column with the words that go with it, and whether a check has to
stand in for an enumeration or for an unsigned type.

* `defect?_column`: a column is sound in one dialect iff it is in all, with the same first defect;
* `conditions_column`: the checks of a column. A dialect with enumerations of its own has unsigned
  types too, so it keeps the checks that were asked for and no others; the other dialects keep all;
* `statements_portable`: so programs give an error in all dialects or statements in all, and these
  have the same names, suffixes, constraints and indexes, up to the checks that stand in.

This is so for programs that ask for no fixed-point number with more digits than can be written. Only
SQLite, which leaves them out, accepts such a number (`endless_decimal_only_in_sqlite`).
-/

namespace TableDdl

namespace Sketch

/-- All checks that a column may need: those of its calls, and the one on its sign. -/
def conditions (s : Sketch) : List Condition :=
  s.checks ++ if s.constraints.unsigned && !s.constraints.autoIncrement then [.sign] else []

/-- The constraint clauses of a column that has the given checks. -/
def clauseTexts (s : Sketch) (table : String) (conditions : List Condition) : List String :=
  s.constraints.clauseTexts table s.name.display (conditions.map fun c => (c.text s.name).display)

end Sketch

/-- The statements of the table whose columns are built by programs. -/
def Program.statements (generator table : String) (d : Dialect) (ps : List Program) :
    Except Error (List String) := do
  let columns ← ps.mapM (·.column d)
  (TableDefinition.mk generator (.str table) (.dialect d) (columns.map Column.snapshot)).statements

/-! ## Columns in two dialects -/

theorem LogicalType.text_ne_empty (t : LogicalType) (d : Dialect) : t.text d ≠ "" := by
  have append_ne : ∀ first rest : String, first ≠ "" → first ++ rest ≠ "" := by
    intro first rest h he
    exact h (String.append_eq_empty_iff.1 he).1
  cases t with
  | simple t => cases d <;> cases t <;> decide
  | decimal total places =>
    cases d with
    | sqlite => exact show "NUMERIC" ≠ "" by decide
    | _ => exact append_ne _ _ (append_ne _ _ (append_ne _ _ (append_ne _ _ (by decide))))
  | char length =>
    cases d with
    | sqlite => exact show "TEXT" ≠ "" by decide
    | _ => exact append_ne _ _ (append_ne _ _ (by decide))
  | varchar length =>
    cases d with
    | sqlite => exact show "TEXT" ≠ "" by decide
    | _ => exact append_ne _ _ (append_ne _ _ (by decide))
  | enum values =>
    cases d with
    | mysql => exact append_ne _ _ (append_ne _ _ (by decide))
    | postgresql => exact show "VARCHAR" ≠ "" by decide
    | sqlite => exact show "TEXT" ≠ "" by decide

namespace Sketch

/-- A column has a type in one dialect iff it has one in all. -/
theorem content_type_column (s : Sketch) (d : Dialect) :
    (s.column d).type.content = "" ↔ s.type = none := by
  unfold column
  cases s.type with
  | none => simp [Value.content, Value.text?]
  | some t => simpa [Value.content, Value.text?, Text.content] using t.text_ne_empty d

/-- **Defects do not depend on the dialect.** -/
theorem defect?_column (s : Sketch) (d e : Dialect) : (s.column d).defect? = (s.column e).defect? := by
  unfold Column.defect?
  have hname : (s.column d).nameText = (s.column e).nameText := rfl
  simp only [content_type_column, hname]
  rfl

/-- **The checks of a column in a dialect.** -/
theorem conditions_column (s : Sketch) (d : Dialect) :
    (s.column d).conditions d.rules =
      (if d.nativeEnum then s.conditions.filter Condition.isAsked else s.conditions).map
        fun c => (c.text s.name).display := by
  have hrules : d.rules.nativeUnsigned = d.nativeEnum := by cases d <;> rfl
  have hsign : (s.column d).constraints.needsSignCheck d.rules
      = (s.constraints.unsigned && !d.nativeEnum && !s.constraints.autoIncrement) := by
    rw [← hrules]
    rfl
  unfold Column.conditions
  rw [hsign]
  show (s.checksIn d).map Text.display ++ (if _ then [toString s.name.display ++ " >= 0"] else []) = _
  unfold checksIn conditions
  cases d.nativeEnum with
  | true =>
    have hnone : (if s.constraints.unsigned && !s.constraints.autoIncrement then [Condition.sign]
        else []).filter Condition.isAsked = [] := by
      split <;> rfl
    simp only [if_true, List.filter_append, hnone, List.append_nil, List.map_map, Bool.not_true,
      Bool.and_false, Bool.false_and, Bool.false_eq_true, if_false]
    rfl
  | false =>
    simp only [Bool.false_eq_true, if_false, Bool.not_false, Bool.and_true, List.map_append,
      List.map_map]
    congr 1
    split <;> rfl

end Sketch

/-! ## Tables of programs -/

namespace Program

section
variable {ps : List Program} (hdigits : ∀ p ∈ ps, p.HasWritableDigits)
include hdigits

/-- The columns of programs, unless some name is refused, which is so in every dialect. -/
theorem mapM_column :
    (∃ err, ∀ d : Dialect, ps.mapM (·.column d) = .error err) ∨
      ∀ d : Dialect, ps.mapM (·.column d) = .ok (ps.map fun p => (p.sketch .sqlite).column d) := by
  induction ps with
  | nil => exact Or.inr fun _ => rfl
  | cons p ps ih =>
    obtain ⟨hp, hps⟩ := List.forall_mem_cons.1 hdigits
    by_cases hname : (Value.str p.name).isIdentifier = true
    · rcases ih hps with ⟨err, ih⟩ | ih
      · left
        refine ⟨err, fun d => ?_⟩
        rw [List.mapM_cons, column_eq, if_pos hname, ih]
        rfl
      · right
        intro d
        rw [List.mapM_cons, column_eq, if_pos hname, ih, sketch_eq_sketch hp d .sqlite]
        rfl
    · left
      refine ⟨.column (.invalidName (.str p.name)), fun d => ?_⟩
      rw [List.mapM_cons, column_eq, if_neg hname]
      rfl

end

/-- The first defect among the columns of programs does not depend on the dialect. -/
theorem findSome?_defect?_column (ps : List Program) (d e : Dialect) :
    (ps.map fun p => (p.sketch .sqlite).column d).findSome? Column.defect?
      = (ps.map fun p => (p.sketch .sqlite).column e).findSome? Column.defect? := by
  induction ps with
  | nil => rfl
  | cons p ps ih =>
    rw [List.map_cons, List.map_cons, List.findSome?_cons, List.findSome?_cons, ih,
      (p.sketch .sqlite).defect?_column d e]

/-- The declarations of programs, where only the type depends on the dialect. -/
theorem declarationTexts_column (ps : List Program) (d : Dialect) :
    (ps.map fun p => (p.sketch .sqlite).column d).map (·.declarationText d.rules) =
      ps.map fun p => s!"{(p.sketch .sqlite).name.content} {
        ((p.sketch .sqlite).column d).typeText d.rules}{(p.sketch .sqlite).constraints.suffix}" := by
  rw [List.map_map]
  rfl

/-- The constraints of programs, with the checks that the dialect needs. -/
theorem clauseTexts_column (ps : List Program) (table : String) (d : Dialect) :
    (ps.map fun p => (p.sketch .sqlite).column d).flatMap (fun c =>
        c.constraints.clauseTexts table c.name.display (c.conditions d.rules)) =
      ps.flatMap fun p => (p.sketch .sqlite).clauseTexts table
        (if d.nativeEnum then (p.sketch .sqlite).conditions.filter Condition.isAsked
          else (p.sketch .sqlite).conditions) := by
  rw [List.flatMap_map]
  refine List.flatMap_congr fun p _ => ?_
  rw [Sketch.conditions_column]
  rfl

theorem indexTexts_column (ps : List Program) (table : String) (d : Dialect) :
    (ps.map fun p => (p.sketch .sqlite).column d).flatMap (fun c =>
        c.constraints.indexTexts table c.name.display) =
      ps.flatMap fun p =>
        (p.sketch .sqlite).constraints.indexTexts table (p.sketch .sqlite).name.display := by
  rw [List.flatMap_map]
  rfl

/-- A program builds the column of the name that it gives. -/
theorem name_sketch (p : Program) (d : Dialect) : (p.sketch d).name = .str p.name :=
  Sketch.name_run { name := .str p.name } d p.calls

end Program

/-- **Programs are portable**, where they ask for no fixed-point number with more digits than can be
written. A call is refused in every dialect alike, and each program says the same in all of them. The
table of the columns that are built is an error in all dialects, and then the same error, or has
statements in all of them. In that case

* the indexes are the same;
* PostgreSQL and SQLite have the same constraints, with all checks of each column;
* MySQL has these constraints without the checks on membership and sign, where the other checks of
  each column are numbered anew;
* the declarations have the same names and the same suffixes. -/
theorem statements_portable (generator table : String) (ps : List Program)
    (hdigits : ∀ p ∈ ps, p.HasWritableDigits) :
    (∀ p ∈ ps, ∀ d e, p.refusals d = p.refusals e ∧ p.sketch d = p.sketch e) ∧
      ((∃ err, ∀ d, Program.statements generator table d ps = .error err) ∨
        ∃ (types : Dialect → Program → String) (constraints : Dialect → List String)
          (indexes : List String),
          (∀ d, Program.statements generator table d ps =
            .ok (createText table
                (ps.map fun p => s!"{p.name} {types d p}{(p.sketch .sqlite).constraints.suffix}")
                (constraints d) :: indexes)) ∧
          constraints .postgresql = ps.flatMap (fun p =>
            (p.sketch .sqlite).clauseTexts table (p.sketch .sqlite).conditions) ∧
          constraints .sqlite = constraints .postgresql ∧
          constraints .mysql = ps.flatMap fun p => (p.sketch .sqlite).clauseTexts table
            ((p.sketch .sqlite).conditions.filter Condition.isAsked)) := by
  refine ⟨fun p hp d e => ⟨Program.refusals_eq_refusals (hdigits p hp) d e,
    Program.sketch_eq_sketch (hdigits p hp) d e⟩, ?_⟩
  rcases Program.mapM_column hdigits with ⟨err, hmade⟩ | hmade
  · left
    refine ⟨err, fun d => ?_⟩
    unfold Program.statements
    rw [hmade d]
    rfl
  have hstatements : ∀ d, Program.statements generator table d ps =
      (TableDefinition.mk generator (.str table) (.dialect d)
        ((ps.map fun p => (p.sketch .sqlite).column d).map Column.snapshot)).statements := by
    intro d
    unfold Program.statements
    rw [hmade d]
    rfl
  cases hd : (ps.map fun p => (p.sketch .sqlite).column .mysql).findSome? Column.defect? with
  | some fault =>
    left
    refine ⟨.table { fault, generator := some generator, table := .str table }, fun d => ?_⟩
    rw [hstatements d, statements_snapshots generator (Value.display?_str table),
      Program.findSome?_defect?_column ps d .mysql, hd]
  | none =>
    right
    refine ⟨fun d p => ((p.sketch .sqlite).column d).typeText d.rules, fun d => ps.flatMap fun p =>
      (p.sketch .sqlite).clauseTexts table
        (if d.nativeEnum then (p.sketch .sqlite).conditions.filter Condition.isAsked
          else (p.sketch .sqlite).conditions),
      ps.flatMap fun p =>
        (p.sketch .sqlite).constraints.indexTexts table (p.sketch .sqlite).name.display,
      fun d => ?_, rfl, rfl, rfl⟩
    have hsound : ∀ c ∈ ps.map fun p => (p.sketch .sqlite).column d, c.Sound := by
      rw [← findSome?_defect?_eq_none_iff, Program.findSome?_defect?_column ps d .mysql, hd]
    rw [hstatements d, statements_snapshots generator (Value.display?_str table),
      Program.findSome?_defect?_column ps d .mysql, hd]
    simp only
    rw [statementsFor_declarations _ _ hsound, Program.declarationTexts_column,
      Program.clauseTexts_column, Program.indexTexts_column]
    simp only [Program.name_sketch]
    rfl

def unsignedPrice : Program :=
  ⟨"price", [("decimal", [.int 10, .int 2]), ("unsigned", []), ("char", [.int 300])]⟩

theorem statements_portable_unsignedPrice :
    (∀ p ∈ [unsignedPrice], p.HasWritableDigits) ∧
      ∃ (types : Dialect → Program → String) (constraints : Dialect → List String)
        (indexes : List String),
        (∀ d, Program.statements "Shops" "shops" d [unsignedPrice] =
          .ok (createText "shops" [s!"price {types d unsignedPrice}"] (constraints d) :: indexes)) ∧
        constraints .sqlite = ["CONSTRAINT check_shops_price_0 CHECK (price >= 0)"] ∧
        constraints .mysql = [] := by
  have hdigits : ∀ p ∈ [unsignedPrice], p.HasWritableDigits := by
    intro p hp c hc call hcall
    obtain rfl := List.mem_singleton.1 hp
    simp only [unsignedPrice, List.mem_cons, List.not_mem_nil, or_false] at hc
    rcases hc with rfl | rfl | rfl
    · cases hcall
      exact fun _ => ⟨rfl, rfl⟩
    · cases hcall
      trivial
    · cases hcall
      trivial
  refine ⟨hdigits, ?_⟩
  rcases (statements_portable "Shops" "shops" [unsignedPrice] hdigits).2 with
    ⟨err, herror⟩ | ⟨types, constraints, indexes, hok, hpostgresql, hsqlite, hmysql⟩
  · cases herror .sqlite
  · refine ⟨types, constraints, indexes, fun d => ?_, hsqlite.trans hpostgresql, hmysql⟩
    have hsuffix : s!"price {types d unsignedPrice}" ++ "" = s!"price {types d unsignedPrice}" :=
      String.append_empty
    rw [hok d, ← hsuffix]
    rfl

/-- A fixed-point number with the given digits, none of them after the point. -/
def priceProgram (total : Value) : Program := ⟨"price", [("decimal", [total, .int 0])]⟩

/-- What becomes of it depends on the dialect. -/
theorem priceProgram_outcome {total : Int} (htotal : 0 ≤ total)
    (hendless : (Value.int total).display? = none) (d : Dialect) :
    (priceProgram (.int total)).refusals d =
        .ok [if d.writesDigits then some .unwritable else none] ∧
      (d.writesDigits = false →
        ∃ sql, Program.statements "Shops" "shops" d [priceProgram (.int total)] = .ok sql) ∧
      (d.writesDigits = true →
        ∃ e, Program.statements "Shops" "shops" d [priceProgram (.int total)] = .error (.table e)) := by
  have hname : (Value.str (priceProgram (.int total)).name).isIdentifier = true :=
    show (Value.str "price").isIdentifier = true by decide
  have hedit : Sketch.editOrKeep { name := .str "price" } d "decimal" [.int total, .int 0] =
      if d.writesDigits then ({ name := .str "price" }, some .unwritable)
      else ({ name := .str "price", type := some (.decimal (.int total) (.int 0)) }, none) := by
    have hcall : Call.ofMethod "decimal" [.int total, .int 0] =
        .ok (.decimal (.int total) (.int 0)) := rfl
    simp only [Sketch.editOrKeep, Sketch.edit, hcall, Sketch.apply, decimalOf_endless htotal hendless]
    cases d <;> rfl
  refine ⟨?_, ?_⟩
  · rw [Program.refusals_eq, if_pos hname]
    show Except.ok [(Sketch.editOrKeep { name := .str "price" } d _ _).2] = _
    rw [hedit]
    cases d <;> rfl
  have hsketch : (priceProgram (.int total)).sketch d =
      (Sketch.editOrKeep { name := .str "price" } d "decimal" [.int total, .int 0]).1 := rfl
  unfold Program.statements
  rw [List.mapM_cons, Program.column_eq, if_pos hname, hsketch, hedit]
  cases d with
  | sqlite => exact ⟨fun _ => ⟨_, rfl⟩, fun h => absurd h (by decide)⟩
  | mysql => exact ⟨fun h => absurd h (by decide), fun _ => ⟨_, rfl⟩⟩
  | postgresql => exact ⟨fun h => absurd h (by decide), fun _ => ⟨_, rfl⟩⟩

/-- **Only SQLite accepts a fixed-point number with too many digits.** -/
theorem endless_decimal_only_in_sqlite :
    (priceProgram .tooLong).refusals .sqlite = .ok [none] ∧
      (priceProgram .tooLong).refusals .mysql = .ok [some .unwritable] ∧
      (∃ sql, Program.statements "Shops" "shops" .sqlite [priceProgram .tooLong] = .ok sql) ∧
      ∃ e, Program.statements "Shops" "shops" .mysql [priceProgram .tooLong] = .error (.table e) := by
  have houtcome (d : Dialect) :=
    priceProgram_outcome (Int.natCast_nonneg _) Value.display?_tooLong d
  exact ⟨(houtcome .sqlite).1, (houtcome .mysql).1, (houtcome .sqlite).2.1 rfl,
    (houtcome .mysql).2.2 rfl⟩

end TableDdl
