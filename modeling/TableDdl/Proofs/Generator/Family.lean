import TableDdl.Proofs.Column.Sketch
import TableDdl.Proofs.Generator.Creation
import TableDdl.Proofs.Table.Failure

/-!
# The family check

A generator makes statements only of columns that were built for the dialect of its executor. This is
looked at before anything else but that there are columns and an executor, so a list that does not
get through is told by its error (`FailsLate`): no other step of the statements fails with one of
these (`Error.isEarly`).

* `Generator.failsLate_statements_iff`: what is refused early is what the check does not let through;
* `Session.passes_iff`: for both steps that take a list of columns, the list gets through iff it is
  not empty, the generator has an executor, and each member of the list is a column of its dialect.
  So it gets through iff each of its members does alone (`Session.passes_iff_alone`).
-/

namespace TableDdl

/-! ## The family check -/

/-- The faults that keep a list of columns from getting through the family check. -/
def TableFault.isEarly : TableFault → Bool
  | .noColumns | .invalidExecutor | .foreignColumns => true
  | _ => false

/-- The errors that are met before the family check or by it. What it may have to write is the dialect
of the executor, and nothing that is looked at later is too long to be written. -/
def Error.isEarly : Error → Bool
  | .table e => e.fault.isEarly
  | .unknownColumn _ | .unwritable => true
  | _ => false

/-- All is well, or the error is one that is met after the family check. -/
def FailsLate {α : Type} (result : Except Error α) : Prop :=
  ∀ err, result = .error err → err.isEarly = false

section
variable {α β : Type}

theorem failsLate_ok (a : α) : FailsLate (.ok a) := fun _ h => nomatch h

theorem failsLate_error_iff {err : Error} :
    FailsLate (.error err : Except Error α) ↔ err.isEarly = false :=
  ⟨fun h => h err rfl, fun h _ he => by cases he; exact h⟩

theorem failsLate_map_iff {result : Except Error α} {f : α → β} :
    FailsLate (result.map f) ↔ FailsLate result := by
  cases result with
  | error err => exact failsLate_error_iff.trans failsLate_error_iff.symm
  | ok a => exact ⟨fun _ => failsLate_ok a, fun _ => failsLate_ok (f a)⟩

end

/-- No defect of a column is found before its dialect is looked at. -/
theorem Column.isEarly_of_defect? {c : Column} {fault : TableFault} (h : c.defect? = some fault) :
    fault.isEarly = false := by
  have hflawed : c.Flawed := by
    refine Classical.byContradiction fun hnot => ?_
    rw [not_flawed_iff.1 hnot] at h
    cases h
  obtain ⟨f, hf⟩ := exists_firstFlaw hflawed
  cases hf.defect?.symm.trans h
  cases f <;> rfl

namespace Generator

variable {g : Generator} {items : List Item}

theorem columnIn?_eq_some_iff {dialect : Value} {item : Item} {c : Column} :
    columnIn? dialect item = some c ↔ item = .column c ∧ dialect = .dialect c.dialect := by
  cases item with
  | other v => simp [columnIn?]
  | column found =>
    unfold columnIn?
    cases dialect with
    | dialect d =>
      simp only [Item.column.injEq, Value.dialect.injEq, Option.ite_none_right_eq_some,
        Option.some.injEq]
      constructor
      · rintro ⟨hd, rfl⟩
        exact ⟨rfl, hd.symm⟩
      · rintro ⟨rfl, hd⟩
        exact ⟨hd.symm, rfl⟩
    | _ => simp

/-- Items are taken for columns if they are columns of the dialect, and as they are. -/
theorem mapM_columnIn?_eq_some_iff {d : Dialect} {columns : List Column} :
    items.mapM (columnIn? (.dialect d)) = some columns ↔
      items = columns.map .column ∧ ∀ c ∈ columns, c.dialect = d := by
  induction items generalizing columns with
  | nil =>
    rw [List.mapM_nil]
    constructor
    · rintro ⟨⟩
      exact ⟨rfl, List.forall_mem_nil _⟩
    · rintro ⟨hnil, -⟩
      rw [List.map_eq_nil_iff.1 hnil.symm]
      rfl
  | cons item items ih =>
    rw [List.mapM_cons]
    constructor
    · intro h
      obtain ⟨c, hc, h⟩ := Option.bind_eq_some_iff.1 h
      obtain ⟨rest, hrest, h⟩ := Option.bind_eq_some_iff.1 h
      cases h
      obtain ⟨rfl, hd⟩ := columnIn?_eq_some_iff.1 hc
      obtain ⟨rfl, hfamily⟩ := ih.1 hrest
      exact ⟨rfl, List.forall_mem_cons.2 ⟨(Value.dialect.inj hd).symm, hfamily⟩⟩
    · rintro ⟨hitems, hcolumns⟩
      obtain ⟨c, rest, rfl, rfl, hrest⟩ := List.map_eq_cons_iff.1 hitems.symm
      obtain ⟨rfl, hcolumns⟩ := List.forall_mem_cons.1 hcolumns
      rw [columnIn?_eq_some_iff.2 ⟨rfl, rfl⟩, ih.2 ⟨hrest.symm, hcolumns⟩]
      rfl

/-- **What a list of items has to be to get through the family check.** -/
def Passes (g : Generator) (items : List Item) : Prop :=
  items ≠ [] ∧ ∃ e columns, g.executor = .ok e ∧ items.mapM (columnIn? e.dialect) = some columns

theorem error_of_executor {err : Error} (h : g.executor = .error err) :
    err = g.fail .invalidExecutor := by
  unfold executor at h
  split at h
  · cases h
  · exact (Except.error.inj h).symm

theorem error_of_tableName {err : Error} (h : g.tableName = .error err) :
    err = g.fail .invalidTableName := by
  unfold tableName at h
  split at h
  · cases h
  · exact (Except.error.inj h).symm

theorem statements_of_executor_error {err : Error} (hne : items ≠ [])
    (he : g.executor = .error err) :
    g.statements items = .error (g.fail .invalidExecutor) := by
  unfold statements
  rw [if_neg (by simpa using hne), he, error_of_executor he]
  rfl

/-- The error of items that are no columns of the executor's dialect. It is reported unless the
dialect is none and cannot even be described. -/
def foreign (g : Generator) (dialect : Value) : Error :=
  if dialect.isWritable then g.fail .foreignColumns else .unwritable

theorem statements_of_foreign {e : Executor} (hne : items ≠ []) (he : g.executor = .ok e)
    (hcolumns : items.mapM (columnIn? e.dialect) = none) :
    g.statements items = .error (g.foreign e.dialect) := by
  unfold statements
  rw [if_neg (by simpa using hne), he]
  by_cases hd : ∃ d, e.dialect = .dialect d
  · obtain ⟨d, hd⟩ := hd
    rw [hd] at hcolumns
    simp only [bind, Except.bind, hd, Dialect.ofValue_dialect, mapError_ok, hcolumns]
    rfl
  · simp only [bind, Except.bind, Dialect.ofValue_of_not_dialect (not_exists.1 hd)]
    rfl

/-- The statements for items that get through. -/
theorem statements_of_passes {e : Executor} {columns : List Column} (hne : items ≠ [])
    (he : g.executor = .ok e) (hcolumns : items.mapM (columnIn? e.dialect) = some columns) :
    g.statements items =
      (g.tableName >>= fun _ => (g.definition e.dialect columns).statements) := by
  obtain ⟨d, hd⟩ := dialect_of_mapM_columnIn? hne hcolumns
  unfold statements
  rw [if_neg (by simpa using hne), he]
  rw [hd] at hcolumns
  simp only [bind, Except.bind, hd, Dialect.ofValue_dialect, mapError_ok, hcolumns]

theorem isEarly_foreign (g : Generator) (dialect : Value) : (g.foreign dialect).isEarly = true := by
  unfold foreign
  split <;> rfl

/-- **Statements that are refused early are those of items that do not get through.** -/
theorem failsLate_statements_iff : FailsLate (g.statements items) ↔ g.Passes items := by
  by_cases hne : items = []
  · subst hne
    exact ⟨fun h => (nomatch failsLate_error_iff.1 h), fun hp => absurd rfl hp.1⟩
  cases he : g.executor with
  | error err =>
    rw [statements_of_executor_error hne he]
    refine ⟨fun h => (nomatch failsLate_error_iff.1 h), fun hp => ?_⟩
    obtain ⟨-, e, -, he', -⟩ := hp
    cases he.symm.trans he'
  | ok e =>
    cases hcolumns : items.mapM (columnIn? e.dialect) with
    | none =>
      rw [statements_of_foreign hne he hcolumns, failsLate_error_iff, isEarly_foreign]
      refine ⟨nofun, fun hp => ?_⟩
      obtain ⟨-, e', columns, he', hcolumns'⟩ := hp
      cases he.symm.trans he'
      cases hcolumns.symm.trans hcolumns'
    | some columns =>
      refine ⟨fun _ => ⟨hne, e, columns, he, hcolumns⟩, fun _ => ?_⟩
      obtain ⟨d, hd⟩ := dialect_of_mapM_columnIn? hne hcolumns
      rw [statements_of_passes hne he hcolumns, hd]
      cases ht : g.tableName with
      | error err =>
        rw [error_of_tableName ht]
        exact failsLate_error_iff.2 rfl
      | ok table =>
        show FailsLate (g.definition (.dialect d) columns).statements
        rw [definition, statements_snapshots g.name (display?_of_tableName ht)]
        cases hdefect : columns.findSome? Column.defect? with
        | none => exact failsLate_ok _
        | some fault =>
          obtain ⟨c, -, hc⟩ := List.exists_of_findSome?_eq_some hdefect
          exact failsLate_error_iff.2 (c.isEarly_of_defect? hc)

end Generator

namespace Session

/-- **The list of a step gets through the family check**, whatever comes of the step then. -/
def Reply.Passes (r : Reply) : Prop := FailsLate r.result

/-- The steps that take a list of columns. -/
inductive Step.Takes (refs : List ItemRef) : Step → Prop where
  | statements : Takes refs (.statements refs)
  | createTable : Takes refs (.createTable refs)

/-- What is referred to is a column of the dialect. -/
def Member (s : Session) (dialect : Value) (ref : ItemRef) : Prop :=
  ∃ key c, ref = .key key ∧ s.find key = .ok c ∧ dialect = .dialect c.dialect

section
variable {s : Session} {refs : List ItemRef} {st : Step}

theorem item_key (s : Session) (key : String) :
    s.item (.key key) = (s.find key).map Item.column := by
  simp only [item]
  cases s.find key <;> rfl

theorem isEarly_of_item {ref : ItemRef} {err : Error} (h : s.item ref = .error err) :
    err.isEarly = true := by
  cases ref with
  | other v => cases h
  | key k =>
    rw [item_key] at h
    unfold find at h
    split at h
    · cases h
    · cases h
      rfl

theorem isEarly_of_items {err : Error} (h : refs.mapM s.item = .error err) :
    err.isEarly = true := by
  induction refs with
  | nil => cases h
  | cons ref refs ih =>
    rw [List.mapM_cons] at h
    cases hitem : s.item ref with
    | error err' =>
      rw [hitem] at h
      cases h
      exact isEarly_of_item hitem
    | ok item =>
      cases hitems : refs.mapM s.item with
      | error err' =>
        rw [hitem, hitems] at h
        cases h
        exact ih hitems
      | ok items =>
        rw [hitem, hitems] at h
        cases h

/-- Once statements are made, a creation fails late. -/
theorem failsLate_createTable_iff {g : Generator} {items : List Item} (ctx : Context) :
    FailsLate (g.createTable ctx items).result ↔ FailsLate (g.statements items) := by
  cases h : g.statements items with
  | error err =>
    rw [Generator.createTable_of_error h]
    exact failsLate_error_iff.trans failsLate_error_iff.symm
  | ok sql =>
    refine ⟨fun _ => failsLate_ok sql, fun _ => ?_⟩
    obtain ⟨e, d, table, he, hd, ht⟩ := Generator.statements_eq_ok h
    obtain ⟨k, -, hstops⟩ := Executor.deliver_stopsAt hd (ctx.enter (Generator.scope table e)) sql
    rw [Generator.createTable_of_ok h he ht]
    show FailsLate (e.deliver _ sql).result
    rw [hstops.result]
    split
    · exact failsLate_ok ()
    · exact failsLate_error_iff.2 rfl

/-- **A list gets through iff its items are found and get through.** -/
theorem passes_iff_items (h : Step.Takes refs st) : (s.step st).2.Passes ↔
    ∃ items, refs.mapM s.item = .ok items ∧ s.generator.Passes items := by
  unfold Reply.Passes
  cases hitems : refs.mapM s.item with
  | error err =>
    have hresult : (s.step st).2.result = .error err := by
      cases h with
      | statements => rw [result_step_statements, hitems]
      | createTable => rw [step_createTable, hitems]
    rw [hresult, failsLate_error_iff, isEarly_of_items hitems]
    refine ⟨fun h => (nomatch h), ?_⟩
    rintro ⟨items, hok, -⟩
    cases hok
  | ok items =>
    have hlate : FailsLate (s.step st).2.result ↔ FailsLate (s.generator.statements items) := by
      cases h with
      | statements =>
        rw [result_step_statements, hitems]
        exact failsLate_map_iff
      | createTable =>
        rw [step_createTable, hitems]
        exact failsLate_map_iff.trans (failsLate_createTable_iff s.context)
    rw [hlate, Generator.failsLate_statements_iff]
    refine ⟨fun hpasses => ⟨items, rfl, hpasses⟩, ?_⟩
    rintro ⟨_, ⟨⟩, hpasses⟩
    exact hpasses

theorem member_iff {dialect : Value} {ref : ItemRef} : s.Member dialect ref ↔
    ∃ item c, s.item ref = .ok item ∧ Generator.columnIn? dialect item = some c := by
  simp only [Generator.columnIn?_eq_some_iff]
  constructor
  · rintro ⟨key, c, rfl, hfind, hd⟩
    exact ⟨.column c, c, by rw [item_key, hfind]; rfl, rfl, hd⟩
  · rintro ⟨_, c, hitem, rfl, hd⟩
    cases ref with
    | other v => cases hitem
    | key key =>
      rw [item_key] at hitem
      cases hfind : s.find key with
      | error err =>
        rw [hfind] at hitem
        cases hitem
      | ok found =>
        rw [hfind] at hitem
        cases hitem
        exact ⟨key, c, rfl, hfind, hd⟩

/-- A list is one of columns of the dialect iff all of its members are. -/
theorem exists_items_iff {dialect : Value} :
    (∃ items columns, refs.mapM s.item = .ok items ∧
      items.mapM (Generator.columnIn? dialect) = some columns) ↔
      ∀ ref ∈ refs, s.Member dialect ref := by
  induction refs with
  | nil => exact ⟨fun _ _ h => (nomatch h), fun _ => ⟨[], [], rfl, rfl⟩⟩
  | cons ref refs ih =>
    rw [List.forall_mem_cons, ← ih, member_iff]
    constructor
    · rintro ⟨items, columns, hitems, hcolumns⟩
      rw [List.mapM_cons] at hitems
      obtain ⟨item, hitem, hitems⟩ := bind_eq_ok hitems
      obtain ⟨rest, hrest, hitems⟩ := bind_eq_ok hitems
      cases hitems
      rw [List.mapM_cons] at hcolumns
      obtain ⟨c, hc, hcolumns⟩ := Option.bind_eq_some_iff.1 hcolumns
      obtain ⟨others, hothers, -⟩ := Option.bind_eq_some_iff.1 hcolumns
      exact ⟨⟨item, c, hitem, hc⟩, rest, others, hrest, hothers⟩
    · rintro ⟨⟨item, c, hitem, hc⟩, items, columns, hitems, hcolumns⟩
      refine ⟨item :: items, c :: columns, ?_, ?_⟩
      · rw [List.mapM_cons, hitem, hitems]
        rfl
      · rw [List.mapM_cons, hc, hcolumns]
        rfl

theorem items_eq_nil_iff {items : List Item} (h : refs.mapM s.item = .ok items) :
    items = [] ↔ refs = [] := by
  cases refs with
  | nil =>
    rw [List.mapM_nil] at h
    cases h
    exact iff_of_true rfl rfl
  | cons ref refs =>
    rw [List.mapM_cons] at h
    obtain ⟨item, -, h⟩ := bind_eq_ok h
    obtain ⟨rest, -, h⟩ := bind_eq_ok h
    cases h
    exact iff_of_false (List.cons_ne_nil _ _) (List.cons_ne_nil _ _)

/-- **What gets through the family check**: a list, not empty, of columns of the dialect of the
executor. -/
theorem passes_iff (h : Step.Takes refs st) : (s.step st).2.Passes ↔
    refs ≠ [] ∧ ∃ e, s.generator.executor = .ok e ∧ ∀ ref ∈ refs, s.Member e.dialect ref := by
  rw [passes_iff_items h]
  constructor
  · rintro ⟨items, hitems, hne, e, columns, he, hcolumns⟩
    exact ⟨mt (items_eq_nil_iff hitems).2 hne, e, he,
      exists_items_iff.1 ⟨items, columns, hitems, hcolumns⟩⟩
  · rintro ⟨hne, e, he, hmembers⟩
    obtain ⟨items, columns, hitems, hcolumns⟩ := exists_items_iff.2 hmembers
    exact ⟨items, hitems, mt (items_eq_nil_iff hitems).1 hne, e, columns, he, hcolumns⟩

/-- **A list gets through iff each of its members does alone**, and there are any. -/
theorem passes_iff_alone (h : Step.Takes refs st) : (s.step st).2.Passes ↔
    refs ≠ [] ∧ ∀ ref ∈ refs, ∀ alone, Step.Takes [ref] alone → (s.step alone).2.Passes := by
  rw [passes_iff h]
  constructor
  · rintro ⟨hne, e, he, hmembers⟩
    refine ⟨hne, fun ref href alone halone => (passes_iff halone).2 ?_⟩
    exact ⟨List.cons_ne_nil _ _, e, he, List.forall_mem_singleton.2 (hmembers ref href)⟩
  · rintro ⟨hne, halone⟩
    have hmember : ∀ ref ∈ refs, ∃ e, s.generator.executor = .ok e ∧ s.Member e.dialect ref := by
      intro ref href
      obtain ⟨-, e, he, hmembers⟩ := (passes_iff .statements).1 (halone ref href _ .statements)
      exact ⟨e, he, hmembers ref List.mem_cons_self⟩
    obtain ⟨first, hfirst⟩ := List.exists_mem_of_ne_nil refs hne
    obtain ⟨e, he, -⟩ := hmember first hfirst
    refine ⟨hne, e, he, fun ref href => ?_⟩
    obtain ⟨e', he', hm⟩ := hmember ref href
    -- All members are looked at with the one executor of the generator.
    cases he.symm.trans he'
    exact hm

/-- What is no column does not get through. -/
theorem not_passes_other {v : Value} (h : Step.Takes [.other v] st) : ¬(s.step st).2.Passes := by
  rw [passes_iff h]
  rintro ⟨-, e, -, hmembers⟩
  obtain ⟨_, _, hkey, -⟩ := hmembers _ List.mem_cons_self
  cases hkey

end

end Session

end TableDdl
