import TableDdl.Proofs.Column.Overwritten
import TableDdl.Proofs.Table.Containment
import TableDdl.Proofs.Table.Defect

/-!
# The statements of a column with checks left behind

When a type is overwritten, a check may stay behind (`LacksChecks`). It shows in the statements of
every table that the column goes into.

* `missing_eq_nil_of_createStatement_eq`: a `CREATE TABLE` with more checks is another one. Clauses
  cannot be told apart by their texts, since a check may hold any text, but every check opens a
  parenthesis, and its position opens none;
* `LacksChecks.statements_eq_iff`: so the statements of a table change with the checks of a column,
  unless a column of the table is unsound and there are no statements;
* `overwritten_types_leave_checks`: leaving out overwritten types leaves the column and its
  statements as they are iff the dialect has enumerations of its own or none of these types is one.
  Where a check has to stand in for an enumeration, it outlives its type (`check_outlives_enum`).
-/

namespace TableDdl

/-! ## Opening parentheses -/

/-- How often a parenthesis opens in a text, in quotes or not. -/
def opens (s : String) : Nat := s.toList.count '('

def opensAll : List String → Nat
  | [] => 0
  | s :: rest => opens s + opensAll rest

theorem opens_append (a b : String) : opens (a ++ b) = opens a + opens b := by
  unfold opens
  rw [String.toList_append, List.count_append]

theorem opensAll_append (a b : List String) : opensAll (a ++ b) = opensAll a + opensAll b := by
  induction a with
  | nil => exact (Nat.zero_add _).symm
  | cons s rest ih =>
    simp only [List.cons_append, opensAll, ih]
    omega

theorem opensAll_perm {a b : List String} (h : a.Perm b) : opensAll a = opensAll b := by
  induction h with
  | nil => rfl
  | cons s _ ih => simp only [opensAll, ih]
  | swap s s' rest => exact Nat.add_left_comm _ _ _
  | trans _ _ ih ih' => exact ih.trans ih'

theorem opensAll_mapIdx {f : Nat → String → String} {g : String → String}
    (h : ∀ i s, opens (f i s) = opens (g s)) (texts : List String) :
    opensAll (texts.mapIdx f) = opensAll (texts.map g) := by
  induction texts generalizing f with
  | nil => rfl
  | cons s rest ih =>
    rw [List.mapIdx_cons, List.map_cons, opensAll, opensAll, h, ih fun i => h (i + 1)]

theorem opensAll_intercalate (texts : List String) :
    opens (", ".intercalate texts) = opensAll texts := by
  induction texts with
  | nil => rfl
  | cons a rest ih =>
    cases rest with
    | nil => simp [opensAll]
    | cons b rest =>
      rw [String.intercalate_cons_cons, opens_append, opens_append, ih]
      rfl

theorem opens_repr (n : Nat) : opens n.repr = 0 := by
  refine List.count_eq_zero.2 fun h => ?_
  exact absurd (plain_natRepr n _ h) (by decide)

namespace Declaration

variable (c : Declaration) (table : String)

/-- The position of a check opens no parenthesis. -/
theorem opens_checkClause (position : Nat) (condition : String) :
    opens (c.checkClause table position condition) = opens (c.checkClause table 0 condition) := by
  unfold checkClause
  simp only [opens_append, opens_repr]

theorem opens_checkClause_pos (position : Nat) (condition : String) :
    0 < opens (c.checkClause table position condition) := by
  have hcheck : opens " CHECK (" = 1 := by decide
  unfold checkClause
  simp only [opens_append, hcheck]
  omega

/-- What the checks of a column add to its block. -/
theorem opensAll_constraints (r : Rules) (checks : List String) :
    opensAll ({ c with checks }.constraints r table) =
      opensAll ({ c with checks := [] }.constraints r table)
        + opensAll (checks.map (c.checkClause table 0)) := by
  let keys := (if c.primaryKey then [c.primaryKeyClause table] else [])
    ++ (c.referral.map (c.foreignKeyClause table)).toList
  let sign := if c.unsigned && !r.nativeUnsigned && !c.autoIncrement then
    [c.name.display ++ " >= 0"] else []
  let unique := if c.unique then [c.uniqueClause table] else []
  have hsplit : ∀ checks : List String, { c with checks }.constraints r table =
      keys ++ (checks ++ sign).mapIdx (c.checkClause table) ++ unique := fun _ => rfl
  have hchecks : ∀ conditions : List String, opensAll (conditions.mapIdx (c.checkClause table)) =
      opensAll (conditions.map (c.checkClause table 0)) := opensAll_mapIdx (c.opens_checkClause table)
  simp only [hsplit, opensAll_append, hchecks, List.map_append, List.map_nil, opensAll]
  omega

end Declaration

/-- **More checks make another statement**, wherever the column stands among others. -/
theorem missing_eq_nil_of_createStatement_eq (r : Rules) (table : String) (c : Declaration)
    (before after : List Declaration) {checks full missing : List String}
    (h : full.Perm (checks ++ missing))
    (heq : createStatement r table (before ++ { c with checks } :: after) =
      createStatement r table (before ++ { c with checks := full } :: after)) : missing = [] := by
  have hbody : opensAll (bodyItems r table (before ++ { c with checks } :: after)) =
      opensAll (bodyItems r table (before ++ { c with checks := full } :: after)) := by
    have hopens := congrArg opens heq
    unfold createStatement at hopens
    simp only [opens_append, opensAll_intercalate] at hopens
    omega
  have hclause : ∀ checks : List String, Declaration.clause { c with checks } r = c.clause r :=
    fun _ => rfl
  unfold bodyItems at hbody
  simp only [opensAll_append, List.map_append, List.map_cons, List.flatMap_append,
    List.flatMap_cons, hclause, c.opensAll_constraints table r checks,
    c.opensAll_constraints table r full] at hbody
  have hchecks := opensAll_perm (h.map (c.checkClause table 0))
  rw [List.map_append, opensAll_append] at hchecks
  cases missing with
  | nil => rfl
  | cons condition rest =>
    have hpos := c.opens_checkClause_pos table 0 condition
    rw [List.map_cons, opensAll] at hchecks
    omega

/-! ## Tables with the column -/

namespace Column.LacksChecks

variable {kept full : Column} {missing : List Text} (h : LacksChecks kept full missing)
include h

/-- Checks are no part of a defect. -/
theorem defect?_eq : kept.defect? = full.defect? := by
  have hbare : ∀ c : Column, c.defect? = Column.defect? { c.bare with type := c.type } :=
    fun _ => rfl
  rw [hbare kept, hbare full, h.bare, h.type]

/-- The columns are declared alike but for their checks. -/
theorem declaration_eq : kept.declaration =
    { full.declaration with checks := kept.constraints.checks.map Text.display } := by
  have hbare : ∀ c : Column, c.declaration =
      { Column.declaration { c.bare with type := c.type } with
        checks := c.constraints.checks.map Text.display } := fun _ => rfl
  rw [hbare kept, hbare full, h.bare, h.type]

/-- **Statements change with the checks of a column**, if there are any statements. -/
theorem statements_eq_iff (generator : String) {table : Value}
    (htable : table.display?.isSome = true) (d : Dialect) (before after : List Column) :
    let t : Column → TableDefinition := fun c =>
      ⟨generator, table, .dialect d, (before ++ c :: after).map Column.snapshot⟩
    (t kept).statements = (t full).statements ↔
      missing = [] ∨ ∃ e, (t full).statements = .error e := by
  intro t
  obtain ⟨text, htext⟩ := Option.isSome_iff_exists.1 htable
  have hdefect : (before ++ kept :: after).findSome? Column.defect? =
      (before ++ full :: after).findSome? Column.defect? := by
    rw [List.findSome?_append, List.findSome?_append, List.findSome?_cons, List.findSome?_cons,
      h.defect?_eq]
  constructor
  · intro heq
    simp only [t, statements_snapshots generator htext, hdefect] at heq ⊢
    cases hfirst : (before ++ full :: after).findSome? Column.defect? with
    | some fault => exact .inr ⟨_, rfl⟩
    | none =>
      left
      rw [hfirst] at heq
      have hcreate := (List.cons.inj (Except.ok.inj heq)).1
      rw [List.map_append, List.map_append, List.map_cons, List.map_cons, h.declaration_eq] at hcreate
      have hperm := h.missing.map Text.display
      rw [List.map_append] at hperm
      exact List.map_eq_nil_iff.1 (missing_eq_nil_of_createStatement_eq d.rules text
        full.declaration _ _ hperm hcreate)
  · rintro (hmissing | ⟨e, he⟩)
    · rw [h.eq_iff.2 hmissing]
    · simp only [t, statements_snapshots generator htext, hdefect] at he ⊢
      cases hfirst : (before ++ full :: after).findSome? Column.defect? with
      | some fault => rfl
      | none =>
        rw [hfirst] at he
        cases he

end Column.LacksChecks

/-- **Overwritten types leave checks behind, and nothing else.** The calls that only choose a type
can be left out where another type is chosen later: the name, the type and all constraints but the
checks stay the same, and so do the statements of every table that the column goes into, up to the
checks of overwritten enumerations. The column and its statements are really the same iff there are
no such checks, because the dialect has enumerations of its own or none was overwritten.

The name of the table has to be one that can be written. A table with any other has no statements,
and a check decides which error is found first. -/
theorem overwritten_types_leave_checks (c : Column) (calls : List (String × List Value)) :
    let kept := c.afterCalls (c.withoutOverwritten calls)
    let full := c.afterCalls calls
    Column.LacksChecks kept full (c.leftovers calls) ∧
      (kept = full ↔
        c.dialect.nativeEnum = true ∨ ∀ call ∈ c.overwritten calls, call.isEnum = false) ∧
      ∀ (generator : String) (table : Value) (d : Dialect) (before after : List Column),
        table.display?.isSome = true →
        let t : Column → TableDefinition := fun column =>
          ⟨generator, table, .dialect d, (before ++ column :: after).map Column.snapshot⟩
        (t kept).statements = (t full).statements ↔
          kept = full ∨ ∃ e, (t full).statements = .error e := by
  intro kept full
  have hlacks : Column.LacksChecks kept full (c.leftovers calls) :=
    c.lacksChecks_withoutOverwritten calls
  refine ⟨hlacks, hlacks.eq_iff.trans (c.leftovers_eq_nil_iff calls), ?_⟩
  intro generator table d before after htable t
  rw [hlacks.eq_iff]
  exact hlacks.statements_eq_iff generator htable d before after

/-- A column that is to hold one of two words, and then an integer. -/
def stateCalls : List (String × List Value) :=
  [("enum", [.str "new", .str "sold"]), ("int", [])]

theorem overwritten_types_leave_checks_stateCalls :
    let c : Column := { dialect := .sqlite, name := .str "state" }
    let t : Column → TableDefinition := fun column =>
      ⟨"Orders", .str "orders", .dialect .sqlite, [column].map Column.snapshot⟩
    let kept := c.afterCalls (c.withoutOverwritten stateCalls)
    (Value.str "orders").display?.isSome = true ∧
      ((t kept).statements = (t (c.afterCalls stateCalls)).statements ↔
        kept = c.afterCalls stateCalls ∨ ∃ e, (t (c.afterCalls stateCalls)).statements = .error e) ∧
      ¬kept = c.afterCalls stateCalls := by
  intro c t kept
  obtain ⟨-, hsame, hstatements⟩ := overwritten_types_leave_checks c stateCalls
  refine ⟨rfl, hstatements "Orders" (.str "orders") .sqlite [] [] rfl, fun heq => ?_⟩
  rcases hsame.1 heq with hnative | hnone
  · cases hnative
  · exact Bool.noConfusion (hnone (.enum [.str "new", .str "sold"]) List.mem_cons_self)

/-- **A check outlives its enumeration**: the integers of this column have to be words. -/
theorem check_outlives_enum :
    let c : Column := { dialect := .sqlite, name := .str "state" }
    let t : Column → TableDefinition := fun column =>
      ⟨"Orders", .str "orders", .dialect .sqlite, [column.snapshot]⟩
    Column.newFor (some .sqlite) (.str "state") = .ok c ∧
      c.withoutOverwritten stateCalls = [("int", [])] ∧
      (t (c.afterCalls [("int", [])])).statements = .ok ["CREATE TABLE orders (state INTEGER);"] ∧
      (t (c.afterCalls stateCalls)).statements =
        .ok ["CREATE TABLE orders (state INTEGER, "
          ++ "CONSTRAINT check_orders_state_0 CHECK (state IN ('new', 'sold')));"] :=
  ⟨rfl, rfl, rfl, rfl⟩

end TableDdl
