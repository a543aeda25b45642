import TableDdl.Proofs.Generator.Transaction

/-!
# What a failure says about a statement

An executor over an engine logs a statement once its transaction is committed, under the name of its
dialect, which is its attribute `value`. A dialect that was given to it is not looked at before that.
If this is something without such an attribute, the statement takes effect and the executor fails all
the same.

* `fails_execute_iff`: an executor fails iff the statement was refused, or its dialect has no name.
* `use_of_not_dialect`, `use_settles`: the uses of a generator. Tables are created in a dialect,
  which has a name, but dropped through any executor.
* `failure_of_overEngine`: so a failure means that the last statement was rolled back, for any
  executor over an engine that was given no dialect, or anything that has a name.
* `committed_drop_fails`: a table that is dropped with a failure.

What may fail on the database here are the statements themselves, and every record can be written.
-/

namespace TableDdl

def Fails (result : Except Error Unit) : Prop := ∃ err, result = .error err

theorem fails_error (err : Error) : Fails (.error err) := ⟨err, rfl⟩

theorem not_fails_ok : ¬ Fails (.ok ()) := nofun

/-- What an executor was given for its dialect can be logged: nothing, which leaves the dialect of
the engine, or something that has a name, such as a dialect. -/
def Loggable (explicit : Value) : Prop := explicit = .none ∨ explicit.valueAttribute?.isSome

/-! ## One statement -/

namespace Executor

/-- **When an executor fails.** -/
theorem fails_execute_iff {e : Executor} (htransactional : e.channel.transactional = true)
    (ctx : Context) (sql : String) :
    Fails (e.execute ctx sql).result ↔
      e.refusesNext = true ∨ ¬ e.dialect.valueAttribute?.isSome := by
  unfold execute
  rw [htransactional]
  cases e.refusesNext with
  | true => exact iff_of_true (fails_error _) (.inl rfl)
  | false =>
    simp only
    split
    next hname => exact iff_of_true (fails_error _) (.inr (by simp [hname]))
    next hname => exact iff_of_false not_fails_ok (by simp [hname])

/-- An executor over an engine has its channel, and a dialect with a name if it can have one. -/
theorem isSome_of_overEngine {engine explicit : Value} {channel : Channel} {e : Executor}
    (h : overEngine engine explicit channel = .ok e) :
    e.channel = channel ∧ (e.dialect.valueAttribute?.isSome ↔ Loggable explicit) := by
  unfold overEngine at h
  split at h
  · cases hname : Dialect.ofName engine with
    | error err =>
      rw [hname] at h
      cases h
    | ok d =>
      rw [hname] at h
      cases h
      exact ⟨rfl, iff_of_true rfl (.inl rfl)⟩
  next hne =>
    cases h
    exact ⟨rfl, (or_iff_right hne).symm⟩

end Executor

/-! ## One use of a generator -/

/-- **The transactions of a use whose result tells how they ended.** All but the last are committed,
and after the last one the use fails iff that was rolled back, or `lost` holds. -/
structure Outcome.Settles (o : Outcome) (lost : Prop) (ts : List Transaction) : Prop where
  trace : o.trace = ts.flatMap Transaction.events
  committed : ∀ t ∈ ts.dropLast, t.committed = true
  fails_iff : ∀ t, ts.getLast? = some t → (Fails o.result ↔ t.committed = false ∨ lost)

theorem committed_of_mem_map {sql : List String} {t : Transaction}
    (h : t ∈ sql.map Transaction.ofCommitted) : t.committed = true := by
  obtain ⟨s, -, rfl⟩ := List.mem_map.1 h
  rfl

theorem Outcome.settles_of_refuse {o : Outcome} {g : Generator} {ctx : Context} {err : Error}
    (h : o = g.refuse ctx err) (lost : Prop) : o.Settles lost [] :=
  ⟨h ▸ rfl, nofun, nofun⟩

/-- A use that ends after all of its statements or at the first that is refused. -/
theorem Service.InTransactions.settles {refusal : String} {s : Service} {ts : List Transaction}
    (h : s.InTransactions refusal ts) {lost : Prop} (hlost : ¬ lost) :
    s.outcome.Settles lost ts where
  trace := h.trace
  committed t ht := by
    cases h.ending with
    | failed => cases ht
    | completed => exact committed_of_mem_map (List.dropLast_subset _ ht)
    | stopped =>
      rw [List.dropLast_concat] at ht
      exact committed_of_mem_map ht
  fails_iff t ht := by
    rw [or_iff_left hlost]
    cases h.ending with
    | failed => cases ht
    | completed _ hresult =>
      rw [hresult, committed_of_mem_map (List.mem_of_getLast? ht)]
      exact iff_of_false not_fails_ok nofun
    | stopped hk _ hresult =>
      rw [List.getLast?_concat] at ht
      cases ht
      rw [hresult]
      exact iff_of_true (fails_error _) rfl

namespace Generator

section
variable {g : Generator} {e : Executor} (hcandidate : g.candidate = e.candidate)
include hcandidate

/-- Without a dialect no table is created, and no statement sent for it. -/
theorem use_of_not_dialect (hd : ∀ d, e.dialect ≠ .dialect d) (ctx : Context) {u : Use}
    (hu : u ≠ .dropTable) : ∃ err, g.use ctx u = g.refuse ctx err := by
  have hcreate (items : List Item) : ∃ err, g.createTable ctx items = g.refuse ctx err := by
    cases h : g.statements items with
    | error err => exact ⟨err, createTable_of_error h ctx⟩
    | ok sql =>
      obtain ⟨f, d, -, hf, hdialect, -⟩ := statements_eq_ok h
      cases (executor_of_candidate hcandidate).symm.trans hf
      exact absurd hdialect (hd d)
  cases u with
  | dropTable => exact absurd rfl hu
  | createTable items => exact hcreate items
  | createOwn =>
    show ∃ err, g.createOwn ctx = g.refuse ctx err
    unfold createOwn
    split
    · exact ⟨_, rfl⟩
    · split
      · exact ⟨_, rfl⟩
      · exact hcreate _

/-- A table is dropped by one statement, in any dialect. -/
theorem dropTable_settles (htransactional : e.channel.transactional = true) (ctx : Context) :
    ∃ ts, (g.dropTable ctx).Settles (¬ e.dialect.valueAttribute?.isSome) ts := by
  cases ht : g.tableName with
  | error err =>
    have hrefuse : g.dropTable ctx = g.refuse ctx err := by simp only [dropTable, ht]
    exact ⟨[], Outcome.settles_of_refuse hrefuse _⟩
  | ok table =>
    let sql := dropStatement table.display
    have htrace : (g.dropTable ctx).trace = (e.execute ctx sql).trace := by
      simp only [dropTable, ht, executor_of_candidate hcandidate, sql]
    have hresult : (g.dropTable ctx).result = (e.execute ctx sql).result := by
      simp only [dropTable, ht, executor_of_candidate hcandidate, sql]
    refine ⟨[⟨sql, !e.refusesNext⟩], ?_, List.forall_mem_nil _, fun t ht => ?_⟩
    · rw [htrace, Executor.execute_trace htransactional, List.flatMap_singleton]
    · obtain rfl := Option.some.inj ht
      rw [hresult, Executor.fails_execute_iff htransactional]
      simp

/-- **A use tells how its transactions ended**, unless it drops the table through an executor whose
dialect has no name. -/
theorem use_settles (htransactional : e.channel.transactional = true) (ctx : Context) (u : Use) :
    ∃ ts, (g.use ctx u).Settles (u = .dropTable ∧ ¬ e.dialect.valueAttribute?.isSome) ts := by
  by_cases hd : ∃ d, e.dialect = .dialect d
  · obtain ⟨d, hd⟩ := hd
    obtain ⟨ts, hmoves⟩ := exists_moves hd htransactional hcandidate ctx u
    have hname : e.dialect.valueAttribute?.isSome := by
      rw [hd]
      rfl
    exact ⟨ts, hmoves.seen.settles fun hlost => hlost.2 hname⟩
  · rw [not_exists] at hd
    by_cases hu : u = .dropTable
    · subst hu
      obtain ⟨ts, hsettles⟩ := dropTable_settles hcandidate htransactional ctx
      exact ⟨ts, by rwa [and_iff_right rfl]⟩
    · obtain ⟨err, hrefuse⟩ := use_of_not_dialect hcandidate hd ctx hu
      exact ⟨[], Outcome.settles_of_refuse hrefuse _⟩

end

end Generator

/-! ## All executors over an engine -/

/-- **A failure means that the last statement was rolled back**, for every executor over an engine,
unless it was given a dialect that cannot be logged. The executor itself fails then although its
statement is committed, and so does the dropping of a table; the creation of a table never does. -/
theorem failure_of_overEngine {engine explicit : Value} {channel : Channel} {e : Executor}
    (hmade : Executor.overEngine engine explicit channel = .ok e)
    (htransactional : channel.transactional = true) (ctx : Context) :
    (∀ sql, ∃ t : Transaction, t.sql = sql ∧
      t.committed = !channel.refuses channel.received ∧
      (e.execute ctx sql).trace = t.events ∧
      (Fails (e.execute ctx sql).result ↔ t.committed = false ∨ ¬ Loggable explicit)) ∧
    ∀ (g : Generator) (u : Use), g.candidate = e.candidate →
      ∃ ts : List Transaction, (g.use ctx u).trace = ts.flatMap Transaction.events ∧
        (∀ t ∈ ts.dropLast, t.committed = true) ∧
        ∀ t, ts.getLast? = some t →
          (Fails (g.use ctx u).result ↔
            t.committed = false ∨ u = .dropTable ∧ ¬ Loggable explicit) := by
  obtain ⟨rfl, hname⟩ := Executor.isSome_of_overEngine hmade
  refine ⟨fun sql => ?_, fun g u hcandidate => ?_⟩
  · refine ⟨⟨sql, !e.refusesNext⟩, rfl, rfl, Executor.execute_trace htransactional ctx sql, ?_⟩
    rw [Executor.fails_execute_iff htransactional, hname, Bool.not_eq_false']
  · obtain ⟨ts, hsettles⟩ := g.use_settles hcandidate htransactional ctx u
    rw [hname] at hsettles
    exact ⟨ts, hsettles.trace, hsettles.committed, hsettles.fails_iff⟩

/-! A database that refuses everything, and one that refuses nothing. -/

def lockedChannel : Channel := { transactional := true, refuses := fun _ => true }

def lockedExecutor : Executor := ⟨.dialect .sqlite, lockedChannel⟩

theorem failure_of_overEngine_locked :
    Executor.overEngine (.str "sqlite") .none lockedChannel = .ok lockedExecutor ∧
      lockedChannel.transactional = true ∧
      Fails (lockedExecutor.execute [] "DROP TABLE visits;").result := by
  have hmade : Executor.overEngine (.str "sqlite") .none lockedChannel = .ok lockedExecutor := rfl
  obtain ⟨t, -, hcommitted, -, hfails⟩ :=
    (failure_of_overEngine hmade rfl []).1 "DROP TABLE visits;"
  exact ⟨hmade, rfl, hfails.2 (.inl hcommitted)⟩

def openChannel : Channel := { transactional := true }

/-- The text of a dialect instead of the dialect. -/
def mislabelledExecutor : Executor := ⟨.str "mysql", openChannel⟩

def visits : Generator := { table := .str "visits", candidate := mislabelledExecutor.candidate }

/-- **A table is dropped, and the drop fails.** -/
theorem committed_drop_fails :
    Executor.overEngine (.str "sqlite") (.str "mysql") openChannel = .ok mislabelledExecutor ∧
      (visits.dropTable []).trace = Transaction.events ⟨"DROP TABLE visits;", true⟩ ∧
      (visits.dropTable []).result = .error .missingPart :=
  ⟨rfl, rfl, rfl⟩

end TableDdl
