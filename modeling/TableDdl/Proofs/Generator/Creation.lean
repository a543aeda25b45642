import TableDdl.Generator.Session
import TableDdl.Proofs.Generator.Delivery
import TableDdl.Proofs.Result

/-!
# Creating a table and its dry run

`Generator.statements` makes the statements of a table without running them, and
`Generator.createTable` runs them. Both look at the same things in the same order, so that the table
is created exactly if its statements can be made.

* `statements_eq_ok`: what is known of a generator that can make statements;
* `createTable_of_error`, `createTable_of_ok`: the creation of a table, by what comes of its dry run;
* `createTable_follows_statements`: the same for the steps of a session, in any state. The statements
  of the dry run are sent up to the first that is refused (`CreatesUpTo`).
-/

namespace TableDdl

/-! ## Generators -/

def creatingLog (ctx : Context) (count : Nat) : LogEvent :=
  ctx.record .info "Creating table" [("statement_count", .int count)]

def createdLog (ctx : Context) : LogEvent := ctx.record .info "Table created successfully" []

theorem Candidate.executor?_eq_some_iff {c : Candidate} {e : Executor} :
    c.executor? = some e ↔ c = e.candidate := by
  obtain ⟨dialect, channel⟩ := c
  constructor
  · intro h
    cases dialect with
    | none => cases h
    | some dialect =>
      cases channel with
      | none => cases h
      | some channel =>
        cases h
        rfl
  · intro h
    rw [h, Executor.executor?_candidate]

namespace Generator

section
variable {g : Generator} {items : List Item} {sql : List String} {e : Executor} {table : Text}

/-- Only columns of a dialect go into a table with columns. -/
theorem dialect_of_mapM_columnIn? {dialect : Value} {columns : List Column} (hne : items ≠ [])
    (h : items.mapM (columnIn? dialect) = some columns) : ∃ d, dialect = .dialect d := by
  obtain ⟨item, rest, rfl⟩ := List.exists_cons_of_ne_nil hne
  rw [List.mapM_cons] at h
  obtain ⟨c, hc, -⟩ := Option.bind_eq_some_iff.1 h
  unfold columnIn? at hc
  split at hc
  · split at hc
    · exact ⟨_, rfl⟩
    · cases hc
  · cases hc

/-- **Statements are made with an executor that has a dialect**, for a table with a valid name. -/
theorem statements_eq_ok (h : g.statements items = .ok sql) :
    ∃ (e : Executor) (d : Dialect) (table : Text),
      g.executor = .ok e ∧ e.dialect = .dialect d ∧ g.tableName = .ok table := by
  unfold statements at h
  split at h
  · cases h
  rename_i hne
  obtain ⟨e, he, h⟩ := bind_eq_ok h
  obtain ⟨-, -, h⟩ := bind_eq_ok h
  split at h
  · cases h
  · rename_i columns hcolumns
    obtain ⟨table, ht, -⟩ := bind_eq_ok h
    obtain ⟨d, hd⟩ := dialect_of_mapM_columnIn? (by simpa using hne) hcolumns
    exact ⟨e, d, table, he, hd, ht⟩

theorem candidate_of_executor (h : g.executor = .ok e) : g.candidate = e.candidate := by
  unfold executor at h
  split at h
  · cases h
    exact Candidate.executor?_eq_some_iff.1 (by assumption)
  · cases h

theorem executor_of_candidate (h : g.candidate = e.candidate) : g.executor = .ok e := by
  unfold executor
  rw [h, Executor.executor?_candidate]

theorem table_of_tableName (h : g.tableName = .ok table) : g.table = table.toValue := by
  unfold tableName at h
  split at h
  · cases h
    exact (Value.identifier?_eq_some_iff.1 (by assumption)).1
  · cases h

/-- A valid name can be written. -/
theorem display?_of_tableName (h : g.tableName = .ok table) :
    g.table.display? = some table.display := by
  rw [table_of_tableName h, Value.display?_toValue]

/-- **Nothing happens if the statements cannot be made.** -/
theorem createTable_of_error {err : Error} (h : g.statements items = .error err) (ctx : Context) :
    g.createTable ctx items = g.refuse ctx err := by
  unfold createTable
  rw [h]

/-- **The statements are delivered in a scope of their own** once they can be made. -/
theorem createTable_of_ok (h : g.statements items = .ok sql) (he : g.executor = .ok e)
    (ht : g.tableName = .ok table) (ctx : Context) :
    g.createTable ctx items =
      let inner := ctx.enter (scope table e)
      let r := e.deliver inner sql
      { generator := g.withExecutor r.executor
        context := inner.exit (scope table e)
        trace := r.trace
        logs := creatingLog inner sql.length :: r.logs
          ++ r.result.toOption.toList.map fun _ => createdLog inner
        result := r.result } := by
  unfold createTable
  simp only [h, he, ht]
  cases (e.deliver (ctx.enter (scope table e)) sql).result <;> rfl

end

end Generator

/-! ## Sessions -/

/-- The fields that all logs of a table's creation have. -/
def creationScope (table : Text) (d : Dialect) : Fields :=
  [("table_name", table.toValue), ("dialect", .str d.name)]

theorem ownLogs_creating (ctx : Context) (count : Nat) (logs : List LogEvent) :
    ownLogs (creatingLog ctx count :: logs) = creatingLog ctx count :: ownLogs logs := rfl

namespace Session

/-- **A table is created from `sql` up to the `k`-th statement**, which is the first that is refused,
if one is. Nothing changes in the session but the count of the statements that the database of the
executor has been given, and the fields of the scope, which are bound no longer. -/
structure CreatesUpTo (s : Session) (e : Executor) (d : Dialect) (table : Text) (sql : List String)
    (k : Nat) (t : Session) (reply : Reply) : Prop where
  sent : sentStatements reply.trace = sql.take (k + 1)
  logs : ownLogs reply.logs =
    let ctx := s.context.enter (creationScope table d)
    [creatingLog ctx sql.length] ++ (sql.take k).map (appliedLog ctx)
      ++ sql[k]?.toList.map (failedLog ctx) ++ (if k = sql.length then [createdLog ctx] else [])
  result : reply.result = if k = sql.length then .ok .done else .error (.statement e.channel.refusal)
  generator : t.generator = s.generator.withExecutor (e.after (sql.take (k + 1)).length)
  columns : t.columns = s.columns
  context : t.context =
    (s.context.enter (creationScope table d)).exit (creationScope table d)

/-- The creation of a table follows the delivery of its statements. -/
theorem createsUpTo_of_stopsAt {s : Session} {items : List Item} {sql : List String} {e : Executor}
    {d : Dialect} {table : Text} {k : Nat} (h : s.generator.statements items = .ok sql)
    (he : s.generator.executor = .ok e) (hd : e.dialect = .dialect d)
    (ht : s.generator.tableName = .ok table)
    (hstop : (e.deliver (s.context.enter (creationScope table d)) sql).StopsAt e
      (s.context.enter (creationScope table d)) sql k) :
    s.CreatesUpTo e d table sql k (s.running (s.generator.createTable s.context items)).1
      (s.running (s.generator.createTable s.context items)).2 := by
  have hscope : Generator.scope table e = creationScope table d := by
    unfold Generator.scope
    rw [hd]
    rfl
  rw [Generator.createTable_of_ok h he ht, hscope]
  refine ⟨hstop.sent, ?_, ?_, ?_, rfl, rfl⟩
  · show ownLogs (creatingLog _ _ :: _ ++ _) = _
    rw [ownLogs_append, ownLogs_creating, hstop.logs, hstop.result]
    simp only [List.append_assoc, List.cons_append, List.nil_append]
    by_cases hk : k = sql.length
    · simp only [if_pos hk]
      rfl
    · simp only [if_neg hk]
      rfl
  · show Except.map _ (e.deliver _ sql).result = _
    rw [hstop.result]
    split <;> rfl
  · show s.generator.withExecutor (e.deliver _ sql).executor = _
    rw [hstop.executor]

/-- The dry run of a creation, where the columns are found by their keys first. -/
theorem result_step_statements (s : Session) (refs : List ItemRef) :
    (s.step (.statements refs)).2.result =
      match refs.mapM s.item with
      | .error err => .error err
      | .ok items => (s.generator.statements items).map .statements := by
  show (do
    let items ← refs.mapM s.item
    return Answer.statements (← s.generator.statements items)) = _
  cases refs.mapM s.item with
  | error err => rfl
  | ok items =>
    show (s.generator.statements items >>= fun sql => Except.ok (Answer.statements sql))
      = (s.generator.statements items).map Answer.statements
    cases s.generator.statements items <;> rfl

theorem step_createTable (s : Session) (refs : List ItemRef) :
    s.step (.createTable refs) =
      match refs.mapM s.item with
      | .error err => (s, { result := .error err })
      | .ok items => s.running (s.generator.createTable s.context items) := rfl

/-- An edit leaves the session as it is, or the column under its key as the edit leaves it. -/
theorem step_edit_cases (s : Session) (key : String) (edit : Edit) :
    (∃ err, s.step (.edit key edit) = (s, { result := .error err })) ∨
      ∃ c reply, s.find key = .ok c ∧ reply.trace = [] ∧
        s.step (.edit key edit) = (s.store key (c.editOrKeep edit).1, reply) := by
  simp only [step]
  cases s.find key with
  | error err => exact .inl ⟨err, rfl⟩
  | ok c =>
    cases hedit : c.edit edit with
    | ok next =>
      refine .inr ⟨c, { result := .ok (.column next) }, rfl, rfl, ?_⟩
      simp only [editing, Column.editOrKeep, hedit]
    | error err =>
      cases hhalf : c.editHalfway? edit with
      | none =>
        simp only [editing, hedit, hhalf]
        exact .inl ⟨err, rfl⟩
      | some half =>
        refine .inr ⟨c, { result := .error err }, rfl, rfl, ?_⟩
        simp only [editing, Column.editOrKeep, hedit, hhalf]
        rfl

/-- **Creating a table is an in-order prefix of its dry run**, in every state of a session. If the
statements cannot be made, the creation fails with the same error, and nothing else happens. If they
are made, they are sent up to the first that is refused. -/
theorem createTable_follows_statements (s : Session) (refs : List ItemRef) :
    match (s.step (.statements refs)).2.result with
    | .error err => s.step (.createTable refs) = (s, { result := .error err })
    | .ok answer =>
      ∃ (sql : List String) (e : Executor) (d : Dialect) (table : Text) (k : Nat),
        answer = .statements sql ∧ s.generator.candidate = e.candidate ∧ e.dialect = .dialect d ∧
        s.generator.table = table.toValue ∧ e.FirstRefusal sql.length k ∧
        s.CreatesUpTo e d table sql k (s.step (.createTable refs)).1
          (s.step (.createTable refs)).2 := by
  rw [result_step_statements, step_createTable]
  cases refs.mapM s.item with
  | error err => rfl
  | ok items =>
    simp only
    cases h : s.generator.statements items with
    | error err =>
      show s.running (s.generator.createTable s.context items) = _
      rw [Generator.createTable_of_error h]
      rfl
    | ok sql =>
      obtain ⟨e, d, table, he, hd, ht⟩ := Generator.statements_eq_ok h
      obtain ⟨k, hk, hstop⟩ :=
        Executor.deliver_stopsAt hd (s.context.enter (creationScope table d)) sql
      exact ⟨sql, e, d, table, k, rfl, Generator.candidate_of_executor he, hd,
        Generator.table_of_tableName ht, hk, createsUpTo_of_stopsAt h he hd ht hstop⟩

end Session

end TableDdl
