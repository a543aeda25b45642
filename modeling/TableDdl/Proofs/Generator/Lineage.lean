import TableDdl.Proofs.Column.Reachable
import TableDdl.Proofs.Generator.Family
import TableDdl.Proofs.Generator.Naming

/-!
# Columns and the executors that they were made for

A column outlives the executor that it was made for, since a generator can be given another executor
between any two steps. What stays is the dialect: `Session.madeFor` follows the steps of a session
and tells, for a key, the dialect of the executor that the generator had when it made the column
that is now under the key.

* `touches_step`: what one step can do to the column under a key, case by case;
* `Knows.step`, `Knows.run`: so what is known of a column stays true of it, in a step and in a run,
  and tells whether the column gets through the family check (`Knows.passes_iff`);
* `sent_step`: what a step sends is made in the dialect of the executor that receives it;
* `columns_keep_dialect`: a column that the generator made gets through the family check iff the
  executor of the moment has the dialect that it was made for, a list does iff all of its members
  do, and every executor receives only what was made by the rules of its dialect, of columns of that
  dialect.
-/

namespace TableDdl

/-! ## Columns keep their dialect -/

theorem Column.dialect_of_apply {c next : Column} {call : Call} (h : c.apply call = .ok next) :
    next.dialect = c.dialect := by
  have hhalf : c.halfway? call = none := by
    cases hhalf : c.halfway? call with
    | none => rfl
    | some half =>
      obtain ⟨⟨err, herror⟩, -⟩ := halfway?_eq_some hhalf
      cases herror.symm.trans h
  rcases c.doesWrite_apply hhalf with hok | ⟨⟨err, herror⟩, -⟩
  · cases hok.symm.trans h
    rfl
  · cases herror.symm.trans h

/-- **No edit changes the dialect of a column**, whether it is refused or not. -/
theorem Column.dialect_editOrKeep (c : Column) (edit : Edit) :
    (c.editOrKeep edit).1.dialect = c.dialect := by
  cases edit with
  | call method arguments => exact (c.editOrKeep_keeps method arguments).1
  | setName name | setType type | snapshot => rfl

namespace Generator

variable {g : Generator} {c : Column}

/-- A column was made for the executor that the generator has. -/
def MadeNow (g : Generator) (c : Column) : Prop :=
  ∃ e, g.executor = .ok e ∧ e.dialect = .dialect c.dialect

theorem madeNow_column {name : Value} (h : g.column name = .ok c) : g.MadeNow c := by
  unfold column at h
  obtain ⟨e, he, h⟩ := bind_eq_ok h
  refine ⟨e, he, ?_⟩
  obtain ⟨d, hd, h⟩ := bind_eq_ok h
  obtain ⟨-, rfl⟩ := Column.new_eq_ok_iff.1 (mapError_eq_ok.1 h)
  exact Dialect.ofValue_eq_ok_iff.1 (mapError_eq_ok.1 hd)

theorem madeNow_apply {name : Value} {call : Call}
    (h : (g.column name >>= fun c => (c.apply call).mapError .ofColumn) = .ok c) :
    g.MadeNow c := by
  obtain ⟨begun, hbegun, h⟩ := bind_eq_ok h
  obtain ⟨e, he, hd⟩ := madeNow_column hbegun
  exact ⟨e, he, by rw [hd, Column.dialect_of_apply (mapError_eq_ok.1 h)]⟩

theorem madeNow_primaryKey {name : Value} (h : g.primaryKey name = .ok c) : g.MadeNow c :=
  madeNow_apply h

theorem madeNow_datetimeColumn {name : String} (h : g.datetimeColumn name = .ok c) : g.MadeNow c :=
  madeNow_apply h

end Generator

/-! ## The column under a key -/

namespace Session

theorem find_store_self (s : Session) (key : String) (c : Column) :
    (s.store key c).find key = .ok c := by
  simp [find, store]

theorem find_store_of_ne (s : Session) {key other : String} (h : other ≠ key) (c : Column) :
    (s.store other c).find key = s.find key := by
  have hlookup : ∀ columns : List (String × Column),
      (columns.filter (·.1 != other)).lookup key = columns.lookup key := by
    intro columns
    induction columns with
    | nil => rfl
    | cons entry columns ih =>
      obtain ⟨k, found⟩ := entry
      by_cases hk : k = other
      · subst hk
        have hkey : (key == k) = false := beq_false_of_ne (Ne.symm h)
        rw [List.filter_cons_of_neg (by simp), ih, List.lookup_cons, hkey]
      · rw [List.filter_cons_of_pos (by simpa using hk), List.lookup_cons, List.lookup_cons, ih]
  have hkey : (key == other) = false := beq_false_of_ne (Ne.symm h)
  unfold find store
  rw [List.lookup_cons, hkey, hlookup]

/-- The step has the generator make a column under the key. -/
def Step.makes (key : String) : Step → Bool
  | .column k _ | .primaryKey k _ | .createdAt k | .updatedAt k => k == key
  | .timestamps created updated => created == key || updated == key
  | _ => false

/-- The step puts a column of another origin under the key. -/
def Step.brings (key : String) : Step → Bool
  | .foreignColumn k _ _ => k == key
  | _ => false

/-- **What a step can do to the column under a key.** -/
inductive Touches (s : Session) (key : String) (st : Step) : Session × Reply → Prop where
  | kept {t : Session} {reply : Reply} (hmakes : st.makes key = false)
      (hbrings : st.brings key = false) (h : t.find key = s.find key) : Touches s key st (t, reply)
  | refused {reply : Reply} {err : Error} (hresult : reply.result = .error err) :
      Touches s key st (s, reply)
  | made {t : Session} {reply : Reply} {a : Answer} {c : Column} (hmakes : st.makes key = true)
      (hresult : reply.result = .ok a) (h : t.find key = .ok c) (hmade : s.generator.MadeNow c) :
      Touches s key st (t, reply)
  | brought {t : Session} {reply : Reply} {a : Answer} (hmakes : st.makes key = false)
      (hbrings : st.brings key = true) (hresult : reply.result = .ok a) : Touches s key st (t, reply)
  | edited {t : Session} {reply : Reply} {c next : Column} (hmakes : st.makes key = false)
      (hbrings : st.brings key = false) (hold : s.find key = .ok c) (h : t.find key = .ok next)
      (hdialect : next.dialect = c.dialect) : Touches s key st (t, reply)

section
variable {s : Session} {key : String} {st : Step}

/-- A column that is made goes under its own key. -/
theorem touches_making {k : String} {made : Except Error Column} (hmakes : st.makes key = (k == key))
    (hbrings : st.brings key = false) (hmade : ∀ c, made = .ok c → s.generator.MadeNow c) :
    Touches s key st (s.making k made) := by
  cases made with
  | error err => exact .refused rfl
  | ok c =>
    by_cases hk : k = key
    · subst hk
      exact .made (by simpa using hmakes) rfl (s.find_store_self k c) (hmade c rfl)
    · exact .kept (hmakes.trans (beq_false_of_ne hk)) hbrings (s.find_store_of_ne hk c)

theorem touches_timestamps (created updated : String) :
    Touches s key (.timestamps created updated) (s.step (.timestamps created updated)) := by
  have hstep : s.step (.timestamps created updated) = s.edited (do
      let c ← s.generator.createdAt
      let u ← s.generator.updatedAt
      return ((s.store created c).store updated u, .newColumns [c, u])) := rfl
  rw [hstep]
  cases hc : s.generator.createdAt with
  | error err => exact .refused rfl
  | ok c =>
    cases hu : s.generator.updatedAt with
    | error err => exact .refused rfl
    | ok u =>
      by_cases hupdated : updated = key
      · subst hupdated
        exact .made (by simp [Step.makes]) rfl (find_store_self _ updated u)
          (Generator.madeNow_datetimeColumn hu)
      · have hfind : ((s.store created c).store updated u).find key = (s.store created c).find key :=
          find_store_of_ne _ hupdated u
        by_cases hcreated : created = key
        · subst hcreated
          exact .made (by simp [Step.makes]) rfl (hfind.trans (s.find_store_self created c))
            (Generator.madeNow_datetimeColumn hc)
        · exact .kept (by simp [Step.makes, hcreated, hupdated]) rfl
            (hfind.trans (s.find_store_of_ne hcreated c))

/-- **One step**, by its cases: only the steps that make, bring or edit a column touch one. -/
theorem touches_step (s : Session) (key : String) (st : Step) : Touches s key st (s.step st) := by
  cases st with
  | name | getTable | getExecutor | state | statements => exact .kept rfl rfl rfl
  | setTable table => exact .kept rfl rfl rfl
  | dropTable | createOwn => exact .kept rfl rfl rfl
  | setExecutor setup =>
    have hstep : s.step (.setExecutor setup) = s.edited (do
      let candidate ← setup.make
      return ({ s with generator := { s.generator with candidate } }, .done)) := rfl
    rw [hstep]
    cases setup.make with
    | error err => exact .refused rfl
    | ok candidate => exact .kept rfl rfl rfl
  | createTable refs =>
    rw [step_createTable]
    cases refs.mapM s.item with
    | error err => exact .refused rfl
    | ok items => exact .kept rfl rfl rfl
  | column k name => exact touches_making rfl rfl fun _ => Generator.madeNow_column
  | primaryKey k name => exact touches_making rfl rfl fun _ => Generator.madeNow_primaryKey
  | createdAt k => exact touches_making rfl rfl fun _ => Generator.madeNow_datetimeColumn
  | updatedAt k => exact touches_making rfl rfl fun _ => Generator.madeNow_datetimeColumn
  | timestamps created updated => exact touches_timestamps created updated
  | foreignColumn k dialect name =>
    have hstep : s.step (.foreignColumn k dialect name) = s.making k (Column.newFor dialect name) :=
      rfl
    rw [hstep]
    cases Column.newFor dialect name with
    | error err => exact .refused rfl
    | ok c =>
      by_cases hk : k = key
      · exact .brought rfl (by simpa [Step.brings] using hk) rfl
      · exact .kept rfl (by simpa [Step.brings] using hk) (s.find_store_of_ne hk c)
  | edit k edit =>
    rcases s.step_edit_cases k edit with ⟨err, hrefused⟩ | ⟨c, reply, hfind, -, hstored⟩
    · rw [hrefused]
      exact .refused rfl
    · rw [hstored]
      by_cases hk : k = key
      · subst hk
        exact .edited rfl rfl hfind (s.find_store_self k _) (c.dialect_editOrKeep edit)
      · exact .kept rfl rfl (s.find_store_of_ne hk _)

end

/-! ## Runs -/

/-- The dialect that the column under a key is known to be made for after a step. -/
def madeForNext (s : Session) (key : String) (known : Option Value) (st : Step) : Option Value :=
  match (s.step st).2.result with
  | .error _ => known
  | .ok _ =>
    if st.makes key then s.generator.executor.toOption.map Executor.dialect
    else if st.brings key then none
    else known

/-- **The dialect that the column under a key was made for**: that of the executor that the generator
had when it made the column, if it was the generator that made it. What is known before the steps
counts as long as no other column is put under the key. -/
def madeFor (s : Session) (key : String) (known : Option Value) : List Step → Option Value
  | [] => known
  | st :: rest => (s.step st).1.madeFor key (s.madeForNext key known st) rest

/-- What is known of the column under a key is true of it. -/
def Knows (s : Session) (key : String) (known : Option Value) : Prop :=
  ∀ v ∈ known, ∃ c, s.find key = .ok c ∧ v = .dialect c.dialect

theorem knows_none (s : Session) (key : String) : s.Knows key none := by
  intro v hv
  cases hv

theorem madeForNext_of_other {s : Session} {key : String} {st : Step} (known : Option Value)
    (hmakes : st.makes key = false) (hbrings : st.brings key = false) :
    s.madeForNext key known st = known := by
  unfold madeForNext
  rw [hmakes, hbrings]
  cases (s.step st).2.result <;> rfl

/-- **What is known stays true in a step.** -/
theorem Knows.step {s : Session} {key : String} {known : Option Value} (h : s.Knows key known)
    (st : Step) : (s.step st).1.Knows key (s.madeForNext key known st) := by
  have htouches := touches_step s key st
  cases hstep : s.step st with
  | mk t reply =>
    rw [hstep] at htouches
    cases htouches with
    | kept hmakes hbrings hfind =>
      rw [madeForNext_of_other known hmakes hbrings]
      intro v hv
      rw [hfind]
      exact h v hv
    | edited hmakes hbrings hold hfind hdialect =>
      rw [madeForNext_of_other known hmakes hbrings]
      intro v hv
      obtain ⟨c, hc, rfl⟩ := h v hv
      cases hold.symm.trans hc
      exact ⟨_, hfind, congrArg Value.dialect hdialect.symm⟩
    | refused hresult =>
      unfold madeForNext
      rw [hstep, hresult]
      exact h
    | made hmakes hresult hfind hmade =>
      obtain ⟨e, he, hd⟩ := hmade
      unfold madeForNext
      rw [hstep, hresult, hmakes, he]
      intro v hv
      cases hv
      exact ⟨_, hfind, hd⟩
    | brought hmakes hbrings hresult =>
      unfold madeForNext
      rw [hstep, hresult, hmakes, hbrings]
      exact fun v hv => nomatch hv

/-- **What is known stays true in a run.** -/
theorem Knows.run {s : Session} {key : String} {known : Option Value} (h : s.Knows key known)
    (steps : List Step) : (s.run steps).1.Knows key (s.madeFor key known steps) := by
  induction steps generalizing s known with
  | nil => exact h
  | cons st rest ih => exact ih (h.step st)

/-- **A column gets through iff the executor has the dialect that is known of it.** -/
theorem Knows.passes_iff {s : Session} {key : String} {v : Value} (h : s.Knows key (some v))
    {st : Step} (hst : Step.Takes [.key key] st) :
    (s.step st).2.Passes ↔ ∃ e, s.generator.executor = .ok e ∧ e.dialect = v := by
  obtain ⟨c, hc, rfl⟩ := h v rfl
  rw [Session.passes_iff hst]
  constructor
  · rintro ⟨-, e, he, hmembers⟩
    obtain ⟨_, found, ⟨⟩, hfound, hd⟩ := hmembers _ List.mem_cons_self
    cases hc.symm.trans hfound
    exact ⟨e, he, hd⟩
  · rintro ⟨e, he, hd⟩
    refine ⟨List.cons_ne_nil _ _, e, he, fun ref href => ?_⟩
    rw [List.mem_singleton.1 href]
    exact ⟨key, c, rfl, hc, hd⟩

end Session

/-! ## What is sent -/

namespace Generator

/-- **Statements in the family of an executor**: they are made by the rules of its dialect, of columns
of that dialect only. -/
def Resolves (g : Generator) (e : Executor) (sql : List String) : Prop :=
  g.executor = .ok e ∧ ∃ (d : Dialect) (columns : List Column), e.dialect = .dialect d ∧
    (∀ c ∈ columns, c.dialect = d) ∧ (g.definition e.dialect columns).statements = .ok sql ∧
    sql = statementsFor d.rules g.table.display (columns.map Column.declaration)

theorem dialect_of_mem {dialect : Value} {items : List Item} {columns : List Column}
    (h : items.mapM (columnIn? dialect) = some columns) :
    ∀ c ∈ columns, dialect = .dialect c.dialect := by
  induction items generalizing columns with
  | nil =>
    cases h
    exact fun c hc => nomatch hc
  | cons item items ih =>
    rw [List.mapM_cons] at h
    obtain ⟨first, hfirst, h⟩ := Option.bind_eq_some_iff.1 h
    obtain ⟨others, hothers, h⟩ := Option.bind_eq_some_iff.1 h
    cases h
    exact List.forall_mem_cons.2 ⟨(columnIn?_eq_some_iff.1 hfirst).2, ih hothers⟩

/-- **Statements that can be made are in the family of the executor.** -/
theorem exists_resolves {g : Generator} {items : List Item} {sql : List String}
    (h : g.statements items = .ok sql) : ∃ e, g.Resolves e sql := by
  have hpasses : g.Passes items := failsLate_statements_iff.1 (h ▸ failsLate_ok sql)
  obtain ⟨hne, e, columns, he, hcolumns⟩ := hpasses
  obtain ⟨d, hd⟩ := dialect_of_mapM_columnIn? hne hcolumns
  rw [statements_of_passes hne he hcolumns] at h
  obtain ⟨table, -, hsql⟩ := bind_eq_ok h
  refine ⟨e, he, d, columns, hd, fun c hc => ?_, hsql, ?_⟩
  · have hc := dialect_of_mem hcolumns c hc
    rw [hd] at hc
    exact (Value.dialect.inj hc).symm
  · rw [hd] at hsql
    exact (sound_of_statements hsql).2

/-- A creation sends nothing, or statements in the family of the executor. -/
theorem sent_createTable_resolves (g : Generator) (ctx : Context) (items : List Item) :
    sentStatements (g.createTable ctx items).trace = [] ∨
      ∃ e sql k, g.Resolves e sql ∧
        sentStatements (g.createTable ctx items).trace = sql.take k := by
  cases h : g.statements items with
  | error err =>
    rw [createTable_of_error h]
    exact .inl rfl
  | ok sql =>
    obtain ⟨e, hresolves⟩ := exists_resolves h
    obtain ⟨k, hk⟩ := sent_createTable h ctx
    exact .inr ⟨e, sql, k, hresolves, hk⟩

theorem sent_createOwn_resolves (g : Generator) (ctx : Context) :
    sentStatements (g.createOwn ctx).trace = [] ∨
      ∃ e sql k, g.Resolves e sql ∧ sentStatements (g.createOwn ctx).trace = sql.take k := by
  unfold createOwn
  split
  · exact .inl rfl
  · split
    · exact .inl rfl
    · exact g.sent_createTable_resolves ctx _

theorem sent_dropTable_cases (g : Generator) (ctx : Context) :
    sentStatements (g.dropTable ctx).trace = [] ∨
      sentStatements (g.dropTable ctx).trace = [dropStatement g.table.display] := by
  cases ht : g.tableName with
  | error err => exact .inl (by simp only [dropTable, ht]; rfl)
  | ok table =>
    cases he : g.executor with
    | error err => exact .inl (by simp only [dropTable, ht, he]; rfl)
    | ok e => exact .inr (sent_dropTable he ht ctx)

end Generator

namespace Session

/-- **What a step sends**: nothing, the statement that drops the table, or the first statements that
are made for the executor of the generator. -/
theorem sent_step (s : Session) (st : Step) :
    sentStatements (s.step st).2.trace = [] ∨
      st = .dropTable ∧
        sentStatements (s.step st).2.trace = [dropStatement s.generator.table.display] ∨
      ∃ e sql k, s.generator.Resolves e sql ∧ sentStatements (s.step st).2.trace = sql.take k := by
  have hedited : ∀ next, sentStatements (s.edited next).2.trace = [] := by
    intro next
    unfold edited
    cases next <;> rfl
  cases st with
  | name | getTable | getExecutor | state | statements => exact .inl rfl
  | setTable | setExecutor | timestamps => exact .inl (hedited _)
  | edit key edit =>
    refine .inl ?_
    rcases s.step_edit_cases key edit with ⟨err, hrefused⟩ | ⟨c, reply, -, htrace, hstored⟩
    · rw [hrefused]
      rfl
    · rw [hstored, htrace]
      rfl
  | column | foreignColumn | primaryKey | createdAt | updatedAt => exact .inl (hedited _)
  | createTable refs =>
    rw [step_createTable]
    cases refs.mapM s.item with
    | error err => exact .inl rfl
    | ok items =>
      rcases s.generator.sent_createTable_resolves s.context items with hnone | hsent
      · exact .inl hnone
      · exact .inr (.inr hsent)
  | dropTable =>
    rcases s.generator.sent_dropTable_cases s.context with hnone | hdrop
    · exact .inl hnone
    · exact .inr (.inl ⟨rfl, hdrop⟩)
  | createOwn =>
    rcases s.generator.sent_createOwn_resolves s.context with hnone | hsent
    · exact .inl hnone
    · exact .inr (.inr hsent)

/-- **The columns of a generator keep to the dialect that they were made for.** After any steps,
whatever came of them, and for both steps that take a list of columns:

* a column that the generator made gets through the family check iff the generator has an executor
  of the dialect that its executor had when it made the column;
* a list gets through iff it is not empty and each of its members does, which nothing but a column
  ever does;
* whatever is sent in a step is the statement that drops the table, or is made by the rules of the
  executor's dialect, of columns of that dialect only. -/
theorem columns_keep_dialect (s : Session) (steps : List Step) :
    let t := (s.run steps).1
    (∀ key v, s.madeFor key none steps = some v → ∀ st, Step.Takes [.key key] st →
      ((t.step st).2.Passes ↔ ∃ e, t.generator.executor = .ok e ∧ e.dialect = v)) ∧
    (∀ refs st, Step.Takes refs st → ((t.step st).2.Passes ↔
      refs ≠ [] ∧ ∀ ref ∈ refs, ∀ alone, Step.Takes [ref] alone → (t.step alone).2.Passes)) ∧
    (∀ v st, Step.Takes [.other v] st → ¬(t.step st).2.Passes) ∧
    ∀ st, sentStatements (t.step st).2.trace = [] ∨
      st = .dropTable ∧
        sentStatements (t.step st).2.trace = [dropStatement t.generator.table.display] ∨
      ∃ e sql k, t.generator.Resolves e sql ∧ sentStatements (t.step st).2.trace = sql.take k := by
  intro t
  refine ⟨fun key v hv st hst => ?_, fun _ _ hst => passes_iff_alone hst,
    fun _ _ hst => not_passes_other hst, t.sent_step⟩
  have hknown : t.Knows key (s.madeFor key none steps) := (s.knows_none key).run steps
  rw [hv] at hknown
  exact hknown.passes_iff hst

/-- An executor of the dialect. -/
def Step.switchTo (d : Dialect) : Step :=
  .setExecutor (.candidate ⟨some (.dialect d), some { transactional := false }⟩)

/-- A column is made for one engine, renamed, and another engine takes its place. -/
def switchSteps : List Step := [
  .switchTo .mysql,
  .primaryKey "key" .none,
  .edit "key" (.setName (.str "number")),
  .switchTo .sqlite]

/-- The column does not get through for the other engine, and it does again for its own. -/
theorem columns_keep_dialect_switchSteps :
    let s : Session := { generator := { table := .str "invoices" } }
    s.madeFor "key" none switchSteps = some (.dialect .mysql) ∧
      ¬((s.run switchSteps).1.step (.statements [.key "key"])).2.Passes ∧
      ((s.run (switchSteps ++ [.switchTo .mysql])).1.step (.createTable [.key "key"])).2.Passes := by
  intro s
  have hmade : s.madeFor "key" none switchSteps = some (.dialect .mysql) := rfl
  have hback : s.madeFor "key" none (switchSteps ++ [.switchTo .mysql]) = some (.dialect .mysql) :=
    rfl
  refine ⟨hmade, ?_, ?_⟩
  · rw [(columns_keep_dialect s switchSteps).1 "key" _ hmade _ .statements]
    rintro ⟨e, he, hd⟩
    cases he
    cases hd
  · rw [(columns_keep_dialect s _).1 "key" _ hback _ .createTable]
    exact ⟨_, rfl, rfl⟩

end Session

end TableDdl
