import TableDdl.Proofs.Generator.Family

/-!
# Which error comes first

Several things can keep a generator from making statements, and more than one of them at a time.
`Generator.Objects` says of each on its own whether it is there, and the first one in the order of
`Objection` decides the outcome.

* `Generator.statements_of_firstObjection`: the first objection is the one that is reported. The
  report describes the dialect of the executor, if that is none, and there is another error if it
  cannot be described (`Generator.statements_of_endless`);
* `Generator.statements_of_unopposed`: without objections there are statements, those of the table
  with these columns in the dialect of the executor;
* `Session.sameSetup_run`: a generator has the table and the executor that it was given last,
  whatever else was done with it;
* `Session.statements_precedence`: so nothing that was done before changes the outcome in another
  way.
-/

namespace TableDdl

/-! ## Objections -/

/-- What can keep a generator from making statements, in the order in which it is looked for. -/
inductive Objection where
  | noColumns
  | executor
  | family
  | tableName
  | column
  deriving DecidableEq, Repr

/-- The objections that are looked for before. -/
def Objection.earlier : Objection → List Objection
  | .noColumns => []
  | .executor => [.noColumns]
  | .family => [.noColumns, .executor]
  | .tableName => [.noColumns, .executor, .family]
  | .column => [.noColumns, .executor, .family, .tableName]

namespace Generator

/-- **What there is to object to**: no columns are given, the executor has no dialect or no channel,
its dialect is none or some item is no column of it, the table has no valid name, or a column is
flawed. -/
def Objects (g : Generator) (items : List Item) : Objection → Prop
  | .noColumns => items = []
  | .executor => g.candidate.dialect = none ∨ g.candidate.channel = none
  | .family => ∀ d, g.candidate.dialect = some (.dialect d) →
      ∃ item ∈ items, ∀ c, item = .column c → c.dialect ≠ d
  | .tableName => g.table.isIdentifier = false
  | .column => ∃ c, .column c ∈ items ∧ c.Flawed

/-- No objection that is looked for before is there. -/
structure FirstObjection (g : Generator) (items : List Item) (o : Objection) : Prop where
  has : g.Objects items o
  first : ∀ p ∈ o.earlier, ¬g.Objects items p

/-- No integer in what the executor has as its dialect has too many digits. -/
def HasWritableDialect (g : Generator) : Prop :=
  ∀ v, g.candidate.dialect = some v → v.isWritable = true

/-- The error blames the generator, and neither its table nor a column. -/
structure Blames (g : Generator) (kind : TableErrorKind) (summary : String) (e : TableError) :
    Prop where
  kind : e.kind = kind
  message : e.message = summary ++ " in: " ++ g.name
  generator : e.generator = some g.name
  table : e.table = .none
  column : e.column = .none

/-- **The error reports an objection.** Of flawed columns the first one is reported, with its first
flaw. -/
def Reports (g : Generator) (items : List Item) (e : TableError) : Objection → Prop
  | .noColumns => g.Blames .schema "Undefined schema columns" e
  | .executor => g.Blames .configuration "Invalid executor" e
  | .family => g.Blames .schema "Invalid columns" e
  | .tableName => g.Blames .configuration "Invalid table name" e
  | .column => ∃ before c after f d, items = (before ++ c :: after).map .column ∧
      (∀ b ∈ before, ¬b.Flawed) ∧ c.FirstFlaw f ∧
      (g.definition (.dialect d) (before ++ c :: after)).Reports c f e

variable {g : Generator} {items : List Item}

theorem exists_firstObjection (h : ∃ o, g.Objects items o) : ∃ o, g.FirstObjection items o := by
  by_cases hn : g.Objects items .noColumns
  · exact ⟨.noColumns, hn, by simp [Objection.earlier]⟩
  by_cases he : g.Objects items .executor
  · exact ⟨.executor, he, by simp [Objection.earlier, hn]⟩
  by_cases hf : g.Objects items .family
  · exact ⟨.family, hf, by simp [Objection.earlier, hn, he]⟩
  by_cases ht : g.Objects items .tableName
  · exact ⟨.tableName, ht, by simp [Objection.earlier, hn, he, hf]⟩
  obtain ⟨o, ho⟩ := h
  have hc : g.Objects items .column := by
    cases o with
    | noColumns => exact absurd ho hn
    | executor => exact absurd ho he
    | family => exact absurd ho hf
    | tableName => exact absurd ho ht
    | column => exact ho
  exact ⟨.column, hc, by simp [Objection.earlier, hn, he, hf, ht]⟩

/-- An executor objects to anything that is no column, before its table is looked at. -/
theorem firstObjection_other (v : Value) (hdialect : g.candidate.dialect ≠ none)
    (hchannel : g.candidate.channel ≠ none) : g.FirstObjection [.other v] .family where
  has := fun d _ => ⟨.other v, List.mem_cons_self, fun c hc => by cases hc⟩
  first := by
    intro p hp
    simp only [Objection.earlier, List.mem_cons, List.not_mem_nil, or_false] at hp
    rcases hp with rfl | rfl
    · exact List.cons_ne_nil _ _
    · exact not_or.2 ⟨hdialect, hchannel⟩

/-! ## What is looked at -/

theorem blames_fail (g : Generator) (fault : TableFault) (hcolumn : fault.column = .none) :
    ∃ e, g.fail fault = .table e ∧ g.Blames fault.kind fault.summary e :=
  ⟨_, rfl, rfl, rfl, rfl, rfl, hcolumn⟩

theorem executor_of_objects (h : g.Objects items .executor) :
    g.executor = .error (g.fail .invalidExecutor) := by
  have hnone : g.candidate.executor? = none := by
    unfold Candidate.executor?
    rcases h with h | h
    · rw [h]
    · rw [h]
      cases g.candidate.dialect <;> rfl
  simp only [executor, hnone]

theorem executor_of_not_objects (h : ¬g.Objects items .executor) :
    ∃ e, g.executor = .ok e ∧ g.candidate.dialect = some e.dialect := by
  obtain ⟨hdialect, hchannel⟩ := not_or.1 h
  obtain ⟨dialect, hdialect⟩ := Option.ne_none_iff_exists'.1 hdialect
  obtain ⟨channel, hchannel⟩ := Option.ne_none_iff_exists'.1 hchannel
  exact ⟨⟨dialect, channel⟩, by simp only [executor, Candidate.executor?, hdialect, hchannel],
    hdialect⟩

/-- Items that are columns of a dialect one by one are a list of columns of it. -/
theorem exists_columns {d : Dialect}
    (h : ∀ item ∈ items, ∃ c, item = .column c ∧ c.dialect = d) :
    ∃ columns : List Column, items = columns.map .column ∧ ∀ c ∈ columns, c.dialect = d := by
  induction items with
  | nil => exact ⟨[], rfl, List.forall_mem_nil _⟩
  | cons item items ih =>
    obtain ⟨⟨c, rfl, hc⟩, hitems⟩ := List.forall_mem_cons.1 h
    obtain ⟨columns, rfl, hcolumns⟩ := ih hitems
    exact ⟨c :: columns, rfl, List.forall_mem_cons.2 ⟨hc, hcolumns⟩⟩

theorem foreign_of_objects {e : Executor} (hne : items ≠ [])
    (hdialect : g.candidate.dialect = some e.dialect) (h : g.Objects items .family) :
    items.mapM (columnIn? e.dialect) = none := by
  cases hcolumns : items.mapM (columnIn? e.dialect) with
  | none => rfl
  | some columns =>
    obtain ⟨d, hd⟩ := dialect_of_mapM_columnIn? hne hcolumns
    rw [hd] at hdialect hcolumns
    obtain ⟨rfl, hfamily⟩ := mapM_columnIn?_eq_some_iff.1 hcolumns
    obtain ⟨item, hitem, hforeign⟩ := h d hdialect
    obtain ⟨c, hc, rfl⟩ := List.mem_map.1 hitem
    exact absurd (hfamily c hc) (hforeign c rfl)

/-- **The generator got as far as its table**: it has an executor, and the items are columns of its
dialect. -/
structure Prepared (g : Generator) (items : List Item) (e : Executor) (d : Dialect)
    (columns : List Column) : Prop where
  executor : g.executor = .ok e
  candidate : g.candidate.dialect = some (.dialect d)
  dialect : e.dialect = .dialect d
  items : items = columns.map .column
  family : ∀ c ∈ columns, c.dialect = d

theorem exists_prepared (he : ¬g.Objects items .executor) (hf : ¬g.Objects items .family) :
    ∃ e d columns, g.Prepared items e d columns := by
  obtain ⟨e, hexecutor, hdialect⟩ := executor_of_not_objects he
  simp only [Objects, not_forall, not_exists, not_and, ne_eq, not_not] at hf
  obtain ⟨d, hd, hitems⟩ := hf
  obtain ⟨columns, hcolumns, hfamily⟩ := exists_columns (d := d) fun item hitem => by
    obtain ⟨c, hc, hdialect⟩ := hitems item hitem
    exact ⟨c, hc, hdialect⟩
  exact ⟨e, d, columns, hexecutor, hd, Option.some.inj (hdialect.symm.trans hd), hcolumns, hfamily⟩

theorem Prepared.statements {e : Executor} {d : Dialect} {columns : List Column}
    (h : g.Prepared items e d columns) (hne : items ≠ []) :
    g.statements items =
      (g.tableName >>= fun _ => (g.definition (.dialect d) columns).statements) := by
  rw [← h.dialect]
  refine statements_of_passes hne h.executor ?_
  rw [h.dialect]
  exact mapM_columnIn?_eq_some_iff.2 ⟨h.items, h.family⟩

theorem Prepared.mem_iff {e : Executor} {d : Dialect} {columns : List Column}
    (h : g.Prepared items e d columns) {c : Column} : .column c ∈ items ↔ c ∈ columns := by
  rw [h.items]
  simp

theorem tableName_of_objects (h : g.Objects items .tableName) :
    g.tableName = .error (g.fail .invalidTableName) := by
  have hnone : g.table.identifier? = none := by simpa [Objects, Value.isIdentifier] using h
  simp only [tableName, hnone]

theorem tableName_of_not_objects (h : ¬g.Objects items .tableName) :
    ∃ table, g.tableName = .ok table := by
  have hsome : g.table.identifier? ≠ none := by simpa [Objects, Value.isIdentifier] using h
  obtain ⟨table, htable⟩ := Option.ne_none_iff_exists'.1 hsome
  exact ⟨table, by simp only [tableName, htable]⟩

/-! ## The outcome -/

/-- The executor is looked at for its dialect if there is something to object to in the items. -/
theorem statements_of_family (h : g.FirstObjection items .family) :
    ∃ dialect, g.candidate.dialect = some dialect ∧
      g.statements items = .error (g.foreign dialect) := by
  have hne : items ≠ [] := h.first .noColumns (by simp [Objection.earlier])
  obtain ⟨executor, hexecutor, hdialect⟩ :=
    executor_of_not_objects (h.first .executor (by simp [Objection.earlier]))
  exact ⟨executor.dialect, hdialect,
    statements_of_foreign hne hexecutor (foreign_of_objects hne hdialect h.has)⟩

/-- Nothing is reported if the dialect of the executor cannot be described. -/
theorem statements_of_endless (h : g.FirstObjection items .family)
    (hdialect : ¬g.HasWritableDialect) : g.statements items = .error .unwritable := by
  obtain ⟨dialect, hd, hstatements⟩ := statements_of_family h
  have hendless : ¬dialect.isWritable = true := by
    intro hwritable
    refine hdialect fun v hv => ?_
    cases hd.symm.trans hv
    exact hwritable
  rw [hstatements, foreign, if_neg hendless]

/-- **The first objection is the one that is reported**, whatever else there is to object to. -/
theorem statements_of_firstObjection {o : Objection} (h : g.FirstObjection items o)
    (hdialect : o = .family → g.HasWritableDialect) :
    ∃ e, g.statements items = .error (.table e) ∧ g.Reports items e o := by
  obtain ⟨has, first⟩ := h
  cases o with
  | noColumns =>
    obtain ⟨e, he, hblames⟩ := g.blames_fail .noColumns rfl
    refine ⟨e, ?_, hblames⟩
    rw [has, ← he]
    rfl
  | executor =>
    have hne : items ≠ [] := first .noColumns (by simp [Objection.earlier])
    obtain ⟨e, he, hblames⟩ := g.blames_fail .invalidExecutor rfl
    refine ⟨e, ?_, hblames⟩
    rw [statements_of_executor_error hne (executor_of_objects has), he]
  | family =>
    obtain ⟨dialect, hd, hstatements⟩ := statements_of_family ⟨has, first⟩
    obtain ⟨e, he, hblames⟩ := g.blames_fail .foreignColumns rfl
    refine ⟨e, ?_, hblames⟩
    rw [hstatements, foreign, if_pos (hdialect rfl dialect hd), he]
  | tableName =>
    have hne : items ≠ [] := first .noColumns (by simp [Objection.earlier])
    obtain ⟨executor, d, columns, hprepared⟩ := exists_prepared
      (first .executor (by simp [Objection.earlier])) (first .family (by simp [Objection.earlier]))
    obtain ⟨e, he, hblames⟩ := g.blames_fail .invalidTableName rfl
    refine ⟨e, ?_, hblames⟩
    rw [hprepared.statements hne, tableName_of_objects has, he]
    rfl
  | column =>
    have hne : items ≠ [] := first .noColumns (by simp [Objection.earlier])
    obtain ⟨executor, d, columns, hprepared⟩ := exists_prepared
      (first .executor (by simp [Objection.earlier])) (first .family (by simp [Objection.earlier]))
    obtain ⟨table, htable⟩ :=
      tableName_of_not_objects (first .tableName (by simp [Objection.earlier]))
    obtain ⟨c, hc, hflawed⟩ := has
    obtain ⟨before, c, after, rfl, hbefore, hflawed⟩ :=
      exists_first_flawed ⟨c, hprepared.mem_iff.1 hc, hflawed⟩
    obtain ⟨f, hf⟩ := Column.exists_firstFlaw hflawed
    obtain ⟨e, he, hreports⟩ : ∃ e, (g.definition (.dialect d) (before ++ c :: after)).statements =
        .error (.table e) ∧ (g.definition (.dialect d) (before ++ c :: after)).Reports c f e :=
      statements_of_firstFlaw g.name hbefore hf
        (statements_ne_unwritable g.name _ (display?_of_tableName htable) d)
    refine ⟨e, ?_, before, c, after, f, d, hprepared.items, hbefore, hf, hreports⟩
    rw [hprepared.statements hne, htable]
    exact he

/-- **Without objections there are statements**: those of the table with these columns. -/
theorem statements_of_unopposed (h : ∀ o, ¬g.Objects items o) :
    ∃ d columns sql, g.candidate.dialect = some (.dialect d) ∧ items = columns.map .column ∧
      (g.definition (.dialect d) columns).statements = .ok sql ∧ g.statements items = .ok sql := by
  obtain ⟨executor, d, columns, hprepared⟩ := exists_prepared (h .executor) (h .family)
  obtain ⟨table, htable⟩ := tableName_of_not_objects (h .tableName)
  have hsound : ∀ c ∈ columns, ¬c.Flawed := fun c hc hflawed =>
    h .column ⟨c, hprepared.mem_iff.2 hc, hflawed⟩
  have hsql := statements_of_not_flawed g.name columns hsound
    (statements_ne_unwritable g.name columns (display?_of_tableName htable) d)
  refine ⟨d, columns, _, hprepared.candidate, hprepared.items, hsql, ?_⟩
  rw [hprepared.statements (h .noColumns), htable]
  exact hsql

/-- The error names the generator, and says that something else is wrong in it than its dialect. -/
structure Names (g : Generator) (e : TableError) : Prop where
  generator : e.generator = some g.name
  message_ne : e.message ≠ "Invalid dialect in: " ++ g.name

theorem names_of_summary {e : TableError} {summary : String}
    (hgenerator : e.generator = some g.name)
    (hmessage : e.message = summary ++ " in: " ++ g.name) (hne : summary ≠ "Invalid dialect") :
    g.Names e := by
  refine ⟨hgenerator, fun h => hne ?_⟩
  have hsplit : "Invalid dialect in: " = "Invalid dialect" ++ " in: " := by decide
  rw [hmessage, hsplit] at h
  have hchars := congrArg String.toList h
  simp only [String.toList_append, List.append_cancel_right_eq] at hchars
  exact String.toList_inj.1 hchars

theorem Blames.names {kind : TableErrorKind} {summary : String} {e : TableError}
    (h : g.Blames kind summary e) (hne : summary ≠ "Invalid dialect") : g.Names e :=
  names_of_summary h.generator h.message hne

/-- What is said of a flaw begins in another way than what is said of a dialect. -/
theorem head?_summary_ne (column : String) (f : Flaw) :
    (f.summary column).toList.head? ≠ "Invalid dialect".toList.head? := by
  cases f with
  | name =>
    show "Undefined column name".toList.head? ≠ _
    decide
  | type =>
    show ("Undefined column type for '" ++ column ++ "'").toList.head? ≠ _
    simp
  | key =>
    show ("Your auto-increment column '" ++ column ++ "' must be a primary key").toList.head? ≠ _
    simp
  | reference =>
    show ("Undefined foreign key reference for '" ++ column ++ "'").toList.head? ≠ _
    simp

theorem Reports.names {e : TableError} {o : Objection} (h : g.Reports items e o) : g.Names e := by
  cases o with
  | noColumns => exact Blames.names h (by decide)
  | executor => exact Blames.names h (by decide)
  | family => exact Blames.names h (by decide)
  | tableName => exact Blames.names h (by decide)
  | column =>
    obtain ⟨before, c, after, f, d, -, -, -, hreports⟩ := h
    refine names_of_summary hreports.generator hreports.message fun hsummary => ?_
    exact head?_summary_ne _ f (congrArg (fun s => s.toList.head?) hsummary)

/-- **The order in which things are objected to.** -/
structure Precedence (g : Generator) (items : List Item) : Prop where
  /-- There are no objections, or one of them is the first. -/
  decided : (∀ o, ¬g.Objects items o) ∨ ∃ o, g.FirstObjection items o
  refused (o : Objection) (h : g.FirstObjection items o)
    (hdialect : o = .family → g.HasWritableDialect) :
    ∃ e, g.statements items = .error (.table e) ∧ g.Reports items e o
  /-- A dialect with too many digits is the one thing that keeps an objection from its report. -/
  endless (h : g.FirstObjection items .family) (hdialect : ¬g.HasWritableDialect) :
    g.statements items = .error .unwritable
  made (h : ∀ o, ¬g.Objects items o) :
    ∃ d columns sql, g.candidate.dialect = some (.dialect d) ∧ items = columns.map .column ∧
      (g.definition (.dialect d) columns).statements = .ok sql ∧ g.statements items = .ok sql
  /-- Every other error names the generator, and none is about the dialect. -/
  named (err : Error) (h : g.statements items = .error err) :
    (∃ e, err = .table e ∧ g.Names e) ∨
      err = .unwritable ∧ g.FirstObjection items .family ∧ ¬g.HasWritableDialect

theorem precedence (g : Generator) (items : List Item) : g.Precedence items where
  decided := by
    by_cases h : ∃ o, g.Objects items o
    · exact .inr (exists_firstObjection h)
    · exact .inl (not_exists.1 h)
  refused _ h hdialect := statements_of_firstObjection h hdialect
  endless h hdialect := statements_of_endless h hdialect
  made h := statements_of_unopposed h
  named err herr := by
    by_cases h : ∃ o, g.Objects items o
    · obtain ⟨o, ho⟩ := exists_firstObjection h
      by_cases hdialect : o = .family → g.HasWritableDialect
      · obtain ⟨e, he, hreports⟩ := statements_of_firstObjection ho hdialect
        cases herr.symm.trans he
        exact .inl ⟨e, rfl, hreports.names⟩
      · obtain ⟨rfl, hendless⟩ := Classical.not_imp.1 hdialect
        cases herr.symm.trans (statements_of_endless ho hendless)
        exact .inr ⟨rfl, ho, hendless⟩
    · obtain ⟨_, _, _, -, -, -, hok⟩ := statements_of_unopposed (not_exists.1 h)
      cases herr.symm.trans hok

/-! ## Generators with the same setup -/

/-- The same table, and executors of the same dialect or none in both. -/
structure SameSetup (g h : Generator) : Prop where
  name_eq : g.name = h.name
  table_eq : g.table = h.table
  dialect_eq : g.candidate.dialect = h.candidate.dialect
  channel_eq : g.candidate.channel.isSome = h.candidate.channel.isSome

theorem SameSetup.refl (g : Generator) : g.SameSetup g := ⟨rfl, rfl, rfl, rfl⟩

theorem SameSetup.trans {g h k : Generator} (hgh : g.SameSetup h) (hhk : h.SameSetup k) :
    g.SameSetup k :=
  ⟨hgh.name_eq.trans hhk.name_eq, hgh.table_eq.trans hhk.table_eq,
    hgh.dialect_eq.trans hhk.dialect_eq, hgh.channel_eq.trans hhk.channel_eq⟩

/-- **The setup is all that statements depend on.** -/
theorem SameSetup.statements_eq {g h : Generator} (hsetup : g.SameSetup h) (items : List Item) :
    g.statements items = h.statements items := by
  obtain ⟨name, table, ⟨dialect, channel⟩, recipes⟩ := g
  obtain ⟨name', table', ⟨dialect', channel'⟩, recipes'⟩ := h
  obtain ⟨rfl, rfl, rfl, hchannel⟩ := hsetup
  cases dialect with
  | none => rfl
  | some dialect =>
    cases channel <;> cases channel' <;> first | rfl | cases hchannel

/-- An executor that has been used is of the same dialect. -/
theorem sameSetup_withExecutor {e used : Executor} (he : g.executor = .ok e)
    (hdialect : used.dialect = e.dialect) : (g.withExecutor used).SameSetup g := by
  have hcandidate := candidate_of_executor he
  refine ⟨rfl, rfl, ?_, ?_⟩
  · rw [hcandidate]
    exact congrArg some hdialect
  · rw [hcandidate]
    rfl

end Generator

/-- Statements are delivered by one executor, which keeps its dialect. -/
theorem Executor.dialect_deliver (e : Executor) (ctx : Context) (sql : List String) :
    (e.deliver ctx sql).executor.dialect = e.dialect := by
  induction sql generalizing e with
  | nil => rfl
  | cons first rest ih =>
    have hexecutor := (execute_observed e ctx first).1
    unfold deliver
    simp only
    split
    · show (e.execute ctx first).executor.dialect = _
      rw [hexecutor]
      rfl
    · show ((e.execute ctx first).executor.deliver ctx rest).executor.dialect = _
      rw [ih, hexecutor]
      rfl

namespace Generator

variable {g : Generator}

theorem sameSetup_createTable (ctx : Context) (items : List Item) :
    (g.createTable ctx items).generator.SameSetup g := by
  cases h : g.statements items with
  | error err =>
    rw [createTable_of_error h]
    exact .refl g
  | ok sql =>
    obtain ⟨e, d, table, he, -, ht⟩ := statements_eq_ok h
    rw [createTable_of_ok h he ht]
    exact sameSetup_withExecutor he (e.dialect_deliver _ sql)

theorem sameSetup_dropTable (ctx : Context) : (g.dropTable ctx).generator.SameSetup g := by
  unfold dropTable
  split
  · exact .refl g
  · exact .refl g
  next table e ht he =>
    refine sameSetup_withExecutor he ?_
    rw [(Executor.execute_observed e ctx _).1]
    rfl

theorem sameSetup_createOwn (ctx : Context) : (g.createOwn ctx).generator.SameSetup g := by
  unfold createOwn
  split
  · exact .refl g
  · split
    · exact .refl g
    · exact sameSetup_createTable ctx _

end Generator

/-! ## Sessions -/

namespace Session

/-- The table that a step assigns. -/
def Step.table? : Step → Option Value
  | .setTable table => some table
  | _ => none

/-- The executor that a step assigns, if it can be made. -/
def Step.candidate? : Step → Option Candidate
  | .setExecutor setup => setup.make.toOption
  | _ => none

/-- **The generator with what was assigned last**, whatever else the steps do. -/
def assigned (g : Generator) (steps : List Step) : Generator :=
  { g with
    table := (steps.reverse.findSome? Step.table?).getD g.table
    candidate := (steps.reverse.findSome? Step.candidate?).getD g.candidate }

theorem assigned_cons (g : Generator) (st : Step) (steps : List Step) :
    assigned g (st :: steps) = assigned (assigned g [st]) steps := by
  simp [assigned, List.findSome?_append, Option.getD_or]

theorem sameSetup_assigned {g h : Generator} (hsetup : g.SameSetup h) (steps : List Step) :
    (assigned g steps).SameSetup (assigned h steps) := by
  unfold assigned
  refine ⟨hsetup.name_eq, ?_, ?_, ?_⟩
  · cases steps.reverse.findSome? Step.table? with
    | none => exact hsetup.table_eq
    | some table => rfl
  · cases steps.reverse.findSome? Step.candidate? with
    | none => exact hsetup.dialect_eq
    | some candidate => rfl
  · cases steps.reverse.findSome? Step.candidate? with
    | none => exact hsetup.channel_eq
    | some candidate => rfl

theorem generator_making (s : Session) (key : String) (made : Except Error Column) :
    (s.making key made).1.generator = s.generator := by
  cases made <;> rfl

/-- **A step assigns what it says, and otherwise keeps the setup.** -/
theorem sameSetup_step (s : Session) (st : Step) :
    (s.step st).1.generator.SameSetup (assigned s.generator [st]) := by
  have hkept {t : Session} (ht : t.generator = s.generator) :
      t.generator.SameSetup s.generator := by
    rw [ht]
    exact .refl _
  cases st with
  | name | getTable | getExecutor | state | statements => exact hkept rfl
  | setTable table => exact .refl _
  | setExecutor setup =>
    unfold assigned
    simp only [step, edited, Step.candidate?, List.reverse_singleton, List.findSome?_singleton]
    cases setup.make with
    | error err => exact .refl _
    | ok candidate => exact .refl _
  | column key | foreignColumn key | primaryKey key | createdAt key | updatedAt key =>
    exact hkept (s.generator_making key _)
  | timestamps created updated =>
    simp only [step, edited]
    cases s.generator.createdAt with
    | error err => exact hkept rfl
    | ok c =>
      cases s.generator.updatedAt with
      | error err => exact hkept rfl
      | ok u => exact hkept rfl
  | edit key edit =>
    rcases s.step_edit_cases key edit with ⟨err, hrefused⟩ | ⟨c, reply, -, -, hstored⟩
    · rw [hrefused]
      exact hkept rfl
    · rw [hstored]
      exact hkept rfl
  | createTable refs =>
    rw [step_createTable]
    cases refs.mapM s.item with
    | error err => exact hkept rfl
    | ok items => exact Generator.sameSetup_createTable s.context items
  | dropTable => exact Generator.sameSetup_dropTable s.context
  | createOwn => exact Generator.sameSetup_createOwn s.context

/-- **The setup after a run is what was assigned last.** -/
theorem sameSetup_run (s : Session) (steps : List Step) :
    (s.run steps).1.generator.SameSetup (assigned s.generator steps) := by
  induction steps generalizing s with
  | nil => exact .refl _
  | cons st steps ih =>
    rw [assigned_cons]
    exact (ih (s.step st).1).trans (sameSetup_assigned (s.sameSetup_step st) steps)

/-- **The order of errors in every state**: in a session after any steps, the statements for any
items are those that the generator makes with what was assigned to it last, and the first objection
to it decides how they come out. It is reported unless it is about items that are no columns of the
executor's dialect, where this dialect is no dialect and has too many digits to be described. -/
theorem statements_precedence (start : Session) (steps : List Step) (items : List Item) :
    let s := (start.run steps).1
    let g := assigned start.generator steps
    (∀ refs, refs.mapM s.item = .ok items →
      (s.step (.statements refs)).2.result = (g.statements items).map .statements) ∧
    s.generator.statements items = g.statements items ∧ g.Precedence items := by
  intro s g
  have hstatements : s.generator.statements items = g.statements items :=
    (sameSetup_run start steps).statements_eq items
  refine ⟨fun refs hitems => ?_, hstatements, g.precedence items⟩
  rw [result_step_statements, hitems]
  exact congrArg (Except.map Answer.statements) hstatements

/-- An executor over an engine that has no dialect. -/
def unmade : ExecutorSetup := .engine (.str "oracle") .none { transactional := true }

def plainCandidate : Candidate := ⟨some (.dialect .sqlite), some { transactional := false }⟩

/-- A second table is assigned, which has no valid name, and a second executor, which is not
made. -/
def troubledSteps : List Step := [
  .setTable (.str "shops"),
  .setExecutor (.candidate plainCandidate),
  .dropTable,
  .setTable (.str "Shops!"),
  .setExecutor unmade]

theorem statements_precedence_troubledSteps :
    let s := (run { generator := { name := "Shops" } } troubledSteps).1
    let g := assigned { name := "Shops" } troubledSteps
    g.FirstObjection [.other (.int 5)] .family ∧ g.Objects [.other (.int 5)] .tableName ∧
      [ItemRef.other (.int 5)].mapM s.item = .ok [.other (.int 5)] ∧
      ∃ e, (s.step (.statements [.other (.int 5)])).2.result = .error (.table e) ∧
        g.Blames .schema "Invalid columns" e := by
  intro s g
  have hunmade : Step.candidate? (.setExecutor unmade) = none := by
    have hnone : unmade.make.toOption.isNone = true := by decide +kernel
    exact Option.isNone_iff_eq_none.1 hnone
  have htable : troubledSteps.reverse.findSome? Step.table? = some (.str "Shops!") := rfl
  have hcandidate : troubledSteps.reverse.findSome? Step.candidate? = some plainCandidate := by
    show List.findSome? Step.candidate? (.setExecutor unmade :: _) = _
    rw [List.findSome?_cons, hunmade]
    rfl
  have hg : g = ⟨"Shops", .str "Shops!", plainCandidate, none⟩ := by
    show assigned _ troubledSteps = _
    rw [assigned, htable, hcandidate]
    rfl
  have hitems (t : Session) : [ItemRef.other (.int 5)].mapM t.item = .ok [.other (.int 5)] := rfl
  have hfirst : g.FirstObjection [.other (.int 5)] .family := by
    rw [hg]
    exact Generator.firstObjection_other _ (Option.some_ne_none _) (Option.some_ne_none _)
  have hname : g.Objects [.other (.int 5)] .tableName := by
    rw [hg]
    show Value.isIdentifier (.str "Shops!") = false
    decide
  obtain ⟨hstep, -, hprecedence⟩ :=
    statements_precedence { generator := { name := "Shops" } } troubledSteps [.other (.int 5)]
  have hdialect : g.HasWritableDialect := by
    rw [hg]
    intro v hv
    cases hv
    rfl
  obtain ⟨e, he, hreports⟩ := hprecedence.refused .family hfirst fun _ => hdialect
  refine ⟨hfirst, hname, hitems s, e, ?_, hreports⟩
  rw [hstep _ (hitems _), he]
  rfl

/-- **An executor whose dialect has too many digits is not reported**, although it is the first thing
to object to. -/
theorem endless_executor_unwritable :
    let g : Generator := { candidate := ⟨some .tooLong, some { transactional := false }⟩ }
    let s : Session := { generator := g }
    g.FirstObjection [.other .none] .family ∧
      (s.step (.statements [.other .none])).2.result = .error .unwritable ∧
      ¬∃ e, g.statements [.other .none] = .error (.table e) ∧
        g.Blames .schema "Invalid columns" e := by
  intro g s
  have hfirst : g.FirstObjection [.other .none] .family :=
    Generator.firstObjection_other _ (Option.some_ne_none _) (Option.some_ne_none _)
  have hendless : ¬g.HasWritableDialect := by
    intro hwritable
    have := hwritable .tooLong rfl
    rw [Value.isWritable_tooLong] at this
    cases this
  have hstatements : g.statements [.other .none] = .error .unwritable :=
    Generator.statements_of_endless hfirst hendless
  have hitems : [ItemRef.other .none].mapM s.item = .ok [.other .none] := rfl
  refine ⟨hfirst, ?_, ?_⟩
  · rw [result_step_statements, hitems]
    exact congrArg (Except.map Answer.statements) hstatements
  · rintro ⟨e, he, -⟩
    cases hstatements.symm.trans he

end Session
end TableDdl
