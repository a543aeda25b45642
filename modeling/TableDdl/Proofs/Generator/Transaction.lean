import Mathlib.Data.List.Forall2
import TableDdl.Proofs.Generator.Creation

/-!
# One transaction per statement

What the database sees of generators that share an executor over an engine. The trace is cut into
`Transaction`s, each of which is begun, holds one statement, and is committed or rolled back.

* `deliver_trace`: a list of statements. Each is sent in a transaction of its own, and the one that
  is refused is in the last.
* `exists_moves`: one use of a generator. It ends before any statement, after all of its statements
  or at the first that is refused (`Service.Ends`).
* `serve_inTransactions`: any uses of any generators, one after another. A transaction is rolled
  back iff the database refused its statement.

What a database may refuse here are statements. It lets every transaction begin and commit, and the
executor can always log what was committed.
-/

namespace TableDdl

/-! ## Transactions -/

/-- A statement in a transaction of its own. -/
structure Transaction where
  sql : String
  committed : Bool
  deriving DecidableEq, Repr

namespace Transaction

/-- What the database sees of a transaction. -/
def events (t : Transaction) : List TraceEvent :=
  [.start, .statement t.sql, if t.committed then .commit else .rollback]

def ofCommitted (sql : String) : Transaction := ⟨sql, true⟩

def ofRefused (sql : String) : Transaction := ⟨sql, false⟩

/-- The transactions of statements of which `k` are carried out and the next one, if there is one,
is refused. -/
def upTo (sql : List String) (k : Nat) : List Transaction :=
  (sql.take k).map ofCommitted ++ sql[k]?.toList.map ofRefused

theorem upTo_length (sql : List String) : upTo sql sql.length = sql.map ofCommitted := by
  simp [upTo]

theorem upTo_of_lt {sql : List String} {k : Nat} (h : k < sql.length) :
    upTo sql k = (sql.take k).map ofCommitted ++ [ofRefused sql[k]] := by
  simp [upTo, h]

/-- As many transactions as statements are sent. -/
theorem length_upTo (sql : List String) (k : Nat) :
    (upTo sql k).length = (sql.take (k + 1)).length := by
  rw [List.take_add_one, upTo, List.length_append, List.length_append, List.length_map,
    List.length_map]

end Transaction

/-! ## One list of statements -/

namespace Executor

/-- The first refusal among the statements after one that is carried out. -/
theorem FirstRefusal.of_succ {e : Executor} {n k : Nat} (h : e.FirstRefusal (n + 1) (k + 1)) :
    e.refusesNext = false ∧ e.counted.FirstRefusal n k := by
  have hcounted (i : Nat) : e.counted.channel.received + i = e.channel.received + (i + 1) := by
    simp only [counted]
    omega
  refine ⟨h.accepted 0 (Nat.succ_pos k), Nat.le_of_succ_le_succ h.le, fun i hi => ?_, fun hk => ?_⟩
  · rw [hcounted]
    exact h.accepted (i + 1) (Nat.succ_lt_succ hi)
  · rw [hcounted]
    exact h.refused (Nat.succ_lt_succ hk)

/-- The transactions of an executor that ended as the database decided. -/
def Decides (e : Executor) (ts : List Transaction) : Prop :=
  ∀ i t, ts[i]? = some t → t.committed = !e.channel.refuses (e.channel.received + i)

theorem decides_nil (e : Executor) : e.Decides [] := fun _ _ h => nomatch h

theorem Decides.append {e : Executor} {ts us : List Transaction} (hts : e.Decides ts)
    (hus : (e.after ts.length).Decides us) : e.Decides (ts ++ us) := by
  intro i t h
  rcases Nat.lt_or_ge i ts.length with hi | hi
  · rw [List.getElem?_append_left hi] at h
    exact hts i t h
  · rw [List.getElem?_append_right hi] at h
    have hlater := hus _ t h
    rwa [show (e.after ts.length).channel.received + (i - ts.length) = e.channel.received + i by
      simp only [after]; omega] at hlater

theorem FirstRefusal.decides {e : Executor} {sql : List String} {k : Nat}
    (h : e.FirstRefusal sql.length k) : e.Decides (Transaction.upTo sql k) := by
  have hlength : ((sql.take k).map Transaction.ofCommitted).length = k := by
    rw [List.length_map, List.length_take, Nat.min_eq_left h.le]
  refine Decides.append (fun i t ht => ?_) (fun i t ht => ?_)
  · have hi : i < k := hlength ▸ (List.getElem?_eq_some_iff.1 ht).1
    obtain ⟨s, -, rfl⟩ := List.mem_map.1 (List.mem_of_getElem? ht)
    rw [h.accepted i hi]
    rfl
  · obtain ⟨s, hs, rfl⟩ := List.mem_map.1 (List.mem_of_getElem? ht)
    have hk : k < sql.length := (List.getElem?_eq_some_iff.1 (Option.mem_toList.1 hs)).1
    -- there is one refused statement at most
    have hi : i = 0 := by
      have := (List.getElem?_eq_some_iff.1 ht).1
      simp only [List.length_map, List.getElem?_eq_getElem hk, Option.toList_some,
        List.length_singleton] at this
      omega
    rw [hlength, hi]
    exact (congrArg not (h.refused hk)).symm

/-- **One statement, one transaction**, which is rolled back iff the statement is refused. What comes
after it has no part in that, so the executor can have any dialect. -/
theorem execute_trace {e : Executor} (htransactional : e.channel.transactional = true)
    (ctx : Context) (sql : String) :
    (e.execute ctx sql).trace = Transaction.events ⟨sql, !e.refusesNext⟩ := by
  unfold execute
  rw [htransactional]
  cases e.refusesNext with
  | true => rfl
  | false =>
    simp only
    split <;> rfl

section
variable {e : Executor} {d : Dialect} (hd : e.dialect = .dialect d)
  (htransactional : e.channel.transactional = true) (ctx : Context)
include hd htransactional

/-- **Statements are sent in transactions of their own**, up to the first that is refused. By
induction on the statements, each of which moves the first refusal one place. -/
theorem deliver_trace {sql : List String} {k : Nat} (h : e.FirstRefusal sql.length k) :
    (e.deliver ctx sql).trace = (Transaction.upTo sql k).flatMap Transaction.events := by
  induction sql generalizing e k with
  | nil => cases k <;> rfl
  | cons first rest ih =>
    have hresult := execute_result hd ctx first
    have htrace := execute_trace htransactional ctx first
    unfold deliver
    cases k with
    | zero =>
      have hnext : e.refusesNext = true := h.refused (Nat.succ_pos _)
      rw [hnext, if_pos rfl] at hresult
      simp only [hresult]
      rw [htrace, hnext]
      rfl
    | succ k =>
      obtain ⟨hnext, hrest⟩ := h.of_succ
      have hexecutor := (execute_observed e ctx first).1
      rw [hnext, if_neg Bool.false_ne_true] at hresult
      simp only [hresult]
      rw [hexecutor, ih (e := e.counted) hd htransactional hrest, htrace, hnext]
      rfl

end

end Executor

/-! ## One use of a generator -/

/-- What a generator is used for. -/
inductive Use where
  | createTable (items : List Item)
  | dropTable
  /-- Create the table that the generator itself describes. -/
  | createOwn

namespace Generator

def use (g : Generator) (ctx : Context) : Use → Outcome
  | .createTable items => g.createTable ctx items
  | .dropTable => g.dropTable ctx
  | .createOwn => g.createOwn ctx

/-- The statements that a use consists of, if it gets that far. -/
def issued (g : Generator) : Use → Except Error (List String)
  | .createTable items => g.statements items
  | .dropTable => do
    let table ← g.tableName
    let _ ← g.executor
    return [dropStatement table.display]
  | .createOwn =>
    match g.recipes with
    | none => .error (g.fail .missingCreation)
    | some recipes => do
      let columns ← recipes.mapM g.follow
      g.statements (columns.flatten.map .column)

end Generator

/-- One use of a generator and what came of it. -/
structure Service where
  generator : Generator
  use : Use
  outcome : Outcome

def Generator.service (g : Generator) (ctx : Context) (u : Use) : Service := ⟨g, u, g.use ctx u⟩

namespace Service

/-- **How a use ends** after some transactions: before any statement, with all statements, or with
the first that is refused. -/
inductive Ends (refusal : String) (s : Service) : List Transaction → Prop where
  | failed {err : Error} : s.generator.issued s.use = .error err → s.outcome.result = .error err →
      s.Ends refusal []
  | completed {sql : List String} : s.generator.issued s.use = .ok sql →
      s.outcome.result = .ok () → s.Ends refusal (sql.map .ofCommitted)
  | stopped {sql : List String} {k : Nat} (h : k < sql.length) :
      s.generator.issued s.use = .ok sql → s.outcome.result = .error (.statement refusal) →
      s.Ends refusal ((sql.take k).map .ofCommitted ++ [.ofRefused sql[k]])

/-- A use with the transactions that the database has seen of it. -/
structure InTransactions (refusal : String) (s : Service) (ts : List Transaction) : Prop where
  trace : s.outcome.trace = ts.flatMap Transaction.events
  ending : s.Ends refusal ts

/-- A use that moves an executor: its transactions end as the database decides, and the executor has
been given as many more statements. -/
structure Moves (s : Service) (e : Executor) (ts : List Transaction) : Prop where
  seen : s.InTransactions e.channel.refusal ts
  decided : e.Decides ts
  candidate : s.outcome.generator.candidate = (e.after ts.length).candidate

/-- A use that is refused before any statement is sent. -/
theorem moves_of_refused {g : Generator} {e : Executor} {ctx : Context} {u : Use} {err : Error}
    (hcandidate : g.candidate = e.candidate) (hissued : g.issued u = .error err)
    (houtcome : g.use ctx u = g.refuse ctx err) : (g.service ctx u).Moves e [] := by
  unfold Generator.service
  rw [houtcome]
  exact ⟨⟨rfl, .failed hissued rfl⟩, e.decides_nil, hcandidate⟩

end Service

namespace Generator

/-- A table is dropped by the delivery of one statement. -/
theorem dropTable_of_ok {g : Generator} {e : Executor} {table : Text} (he : g.executor = .ok e)
    (ht : g.tableName = .ok table) (ctx : Context) :
    let r := e.deliver ctx [dropStatement table.display]
    (g.dropTable ctx).trace = r.trace ∧
      (g.dropTable ctx).generator = g.withExecutor r.executor ∧
      (g.dropTable ctx).result = r.result := by
  simp only [dropTable, ht, he, Executor.deliver]
  cases (e.execute ctx (dropStatement table.display)).result with
  | error err => exact ⟨rfl, rfl, rfl⟩
  | ok => exact ⟨(List.append_nil _).symm, rfl, rfl⟩

section
variable {e : Executor} {d : Dialect} (hd : e.dialect = .dialect d)
  (htransactional : e.channel.transactional = true) {g : Generator} {ctx : Context} {u : Use}
include hd htransactional

/-- A use in which statements are delivered, in whatever context. -/
theorem moves_of_delivery {sql : List String} (inner : Context) (hissued : g.issued u = .ok sql)
    (htrace : (g.use ctx u).trace = (e.deliver inner sql).trace)
    (hcandidate : (g.use ctx u).generator.candidate = (e.deliver inner sql).executor.candidate)
    (hresult : (g.use ctx u).result = (e.deliver inner sql).result) :
    ∃ ts, (g.service ctx u).Moves e ts := by
  obtain ⟨k, hfirst, hstops⟩ := Executor.deliver_stopsAt hd inner sql
  rw [Executor.deliver_trace hd htransactional inner hfirst] at htrace
  rw [hstops.executor, ← Transaction.length_upTo] at hcandidate
  rw [hstops.result] at hresult
  refine ⟨Transaction.upTo sql k, ⟨htrace, ?_⟩, hfirst.decides, hcandidate⟩
  rcases Nat.lt_or_eq_of_le hfirst.le with hk | hk
  · rw [if_neg (Nat.ne_of_lt hk)] at hresult
    rw [Transaction.upTo_of_lt hk]
    exact .stopped hk hissued hresult
  · rw [if_pos hk] at hresult
    rw [hk, Transaction.upTo_length]
    exact .completed hissued hresult

/-- A use that creates a table, from columns that are given or from its own. -/
theorem moves_of_createTable (he : g.executor = .ok e) {items : List Item}
    (huse : g.use ctx u = g.createTable ctx items) (hissued : g.issued u = g.statements items) :
    ∃ ts, (g.service ctx u).Moves e ts := by
  cases h : g.statements items with
  | error err =>
    have houtcome := huse.trans (createTable_of_error h ctx)
    exact ⟨[], Service.moves_of_refused (candidate_of_executor he) (hissued.trans h) houtcome⟩
  | ok sql =>
    obtain ⟨_, _, table, -, -, ht⟩ := statements_eq_ok h
    have houtcome := huse.trans (createTable_of_ok h he ht ctx)
    have hsql := hissued.trans h
    refine moves_of_delivery hd htransactional (ctx.enter (scope table e)) hsql ?_ ?_ ?_
    · rw [houtcome]
    · rw [houtcome]
      rfl
    · rw [houtcome]

/-- **One use moves the executor** by its transactions. -/
theorem exists_moves (hcandidate : g.candidate = e.candidate) (ctx : Context) (u : Use) :
    ∃ ts, (g.service ctx u).Moves e ts := by
  have he := executor_of_candidate hcandidate
  cases u with
  | createTable items => exact moves_of_createTable hd htransactional he rfl rfl
  | dropTable =>
    cases ht : g.tableName with
    | error err =>
      have hissued : g.issued .dropTable = .error err := by
        simp only [issued, ht]
        rfl
      exact ⟨[], Service.moves_of_refused hcandidate hissued (by simp only [use, dropTable, ht])⟩
    | ok table =>
      have hissued : g.issued .dropTable = .ok [dropStatement table.display] := by
        simp only [issued, ht, he]
        rfl
      obtain ⟨htrace, hgenerator, hresult⟩ := dropTable_of_ok he ht ctx
      refine moves_of_delivery hd htransactional ctx hissued htrace ?_ hresult
      show (g.dropTable ctx).generator.candidate = _
      rw [hgenerator]
      rfl
  | createOwn =>
    cases hr : g.recipes with
    | none =>
      have hissued : g.issued .createOwn = .error (g.fail .missingCreation) := by
        simp only [issued, hr]
      exact ⟨[], Service.moves_of_refused hcandidate hissued (by simp only [use, createOwn, hr])⟩
    | some recipes =>
      cases hf : recipes.mapM g.follow with
      | error err =>
        have hissued : g.issued .createOwn = .error err := by
          simp only [issued, hr, hf]
          rfl
        have houtcome : g.use ctx .createOwn = g.refuse ctx err := by
          simp only [use, createOwn, hr, hf]
        exact ⟨[], Service.moves_of_refused hcandidate hissued houtcome⟩
      | ok columns =>
        have huse : g.use ctx .createOwn = g.createTable ctx (columns.flatten.map .column) := by
          simp only [use, createOwn, hr, hf]
        have hissued : g.issued .createOwn = g.statements (columns.flatten.map .column) := by
          simp only [issued, hr, hf]
          rfl
        exact moves_of_createTable hd htransactional he huse hissued

end

end Generator

/-! ## Generators that share an executor -/

/-- The uses of generators that have the executor, one after another. -/
def Executor.serve (e : Executor) (ctx : Context) : List (Generator × Use) → List Service
  | [] => []
  | (g, u) :: rest =>
    let s := (g.withExecutor e).service ctx u
    s :: (s.outcome.generator.candidate.executor?.getD e).serve s.outcome.context rest

/-- A sequence of uses with the transactions of each. By induction on the uses: the executor goes on
where it is after the transactions of the first. -/
theorem Executor.serve_decides {e : Executor} {d : Dialect} (hd : e.dialect = .dialect d)
    (htransactional : e.channel.transactional = true) (ctx : Context)
    (uses : List (Generator × Use)) :
    ∃ tss, List.Forall₂ (Service.InTransactions e.channel.refusal) (e.serve ctx uses) tss ∧
      e.Decides tss.flatten := by
  induction uses generalizing e ctx with
  | nil => exact ⟨[], .nil, e.decides_nil⟩
  | cons first rest ih =>
    obtain ⟨g, u⟩ := first
    obtain ⟨ts, hmoves⟩ :=
      Generator.exists_moves hd htransactional (g := g.withExecutor e) rfl ctx u
    obtain ⟨tss, htss, hrest⟩ := ih (e := e.after ts.length) hd htransactional
      ((g.withExecutor e).service ctx u).outcome.context
    refine ⟨ts :: tss, ?_, hmoves.decided.append hrest⟩
    unfold serve
    simp only [hmoves.candidate, Executor.executor?_candidate, Option.getD_some]
    exact .cons hmoves.seen htss

/-- The transactions of a sequence of uses make up its trace. -/
theorem trace_of_inTransactions {refusal : String} {served : List Service}
    {tss : List (List Transaction)}
    (h : List.Forall₂ (Service.InTransactions refusal) served tss) :
    served.flatMap (·.outcome.trace) = tss.flatten.flatMap Transaction.events := by
  induction h with
  | nil => rfl
  | cons hfirst _ ih =>
    rw [List.flatMap_cons, List.flatten_cons, List.flatMap_append, ih, hfirst.trace]

/-- An executor over an engine has a dialect, if it is not given something else. -/
theorem Executor.dialect_of_overEngine {engine explicit : Value} {channel : Channel} {e : Executor}
    (h : Executor.overEngine engine explicit channel = .ok e)
    (hdialect : explicit = .none ∨ ∃ d : Dialect, explicit = .dialect d) :
    e.channel = channel ∧ ∃ d : Dialect, e.dialect = .dialect d := by
  rcases hdialect with rfl | ⟨d, rfl⟩
  · simp only [overEngine] at h
    cases hname : Dialect.ofName engine with
    | error err =>
      rw [hname] at h
      cases h
    | ok d =>
      rw [hname] at h
      cases h
      exact ⟨rfl, d, rfl⟩
  · cases h
    exact ⟨rfl, d, rfl⟩

/-- **One transaction per statement**, for any uses of generators that share an executor over an
engine, whichever statements the database refuses; nothing but a statement can be refused. What the
database sees of each use is a list of transactions: none, those of all statements of the use, or
those up to the first statement that is refused. In the whole trace, which is made of these
transactions, a transaction is rolled back iff its statement was refused. -/
theorem serve_inTransactions {engine explicit : Value} {channel : Channel} {e : Executor}
    (hmade : Executor.overEngine engine explicit channel = .ok e)
    (hdialect : explicit = .none ∨ ∃ d : Dialect, explicit = .dialect d)
    (htransactional : channel.transactional = true) (ctx : Context)
    (uses : List (Generator × Use)) :
    ∃ tss : List (List Transaction),
      List.Forall₂ (Service.InTransactions channel.refusal) (e.serve ctx uses) tss ∧
      (e.serve ctx uses).flatMap (·.outcome.trace) = tss.flatten.flatMap Transaction.events ∧
      ∀ i t, tss.flatten[i]? = some t →
        (t.committed = false ↔ channel.refuses (channel.received + i) = true) := by
  obtain ⟨hchannel, d, hd⟩ := Executor.dialect_of_overEngine hmade hdialect
  subst hchannel
  obtain ⟨tss, htss, hdecides⟩ := Executor.serve_decides hd htransactional ctx uses
  refine ⟨tss, htss, trace_of_inTransactions htss, fun i t ht => ?_⟩
  rw [hdecides i t ht, Bool.not_eq_false']

/-! An engine that refuses its second statement. -/

def flakyChannel : Channel := { transactional := true, refuses := (· == 1) }

def flakyExecutor : Executor := ⟨.dialect .mysql, flakyChannel⟩

def invoices : Generator := { table := .str "invoices" }

def payments : Generator := { table := .str "payments" }

def numberColumn : Item :=
  .column { dialect := .mysql, name := .str "number", type := .str "BIGINT" }

/-- The second table is not created, and no generator here creates a table of its own. -/
def shopUses : List (Generator × Use) :=
  [(invoices, .createTable [numberColumn]), (payments, .createTable [numberColumn]),
    (invoices, .createOwn), (invoices, .dropTable)]

theorem serve_inTransactions_shopUses :
    Executor.overEngine (.str "mysql") .none flakyChannel = .ok flakyExecutor ∧
      flakyChannel.transactional = true ∧
      ∃ tss : List (List Transaction),
        List.Forall₂ (Service.InTransactions "boom") (flakyExecutor.serve [] shopUses) tss ∧
        tss.flatten.flatMap Transaction.events =
          [.start, .statement "CREATE TABLE invoices (number BIGINT);", .commit,
            .start, .statement "CREATE TABLE payments (number BIGINT);", .rollback,
            .start, .statement "DROP TABLE invoices;", .commit] := by
  have hmade : Executor.overEngine (.str "mysql") .none flakyChannel = .ok flakyExecutor := rfl
  obtain ⟨tss, hserved, htrace, -⟩ := serve_inTransactions hmade (.inl rfl) rfl [] shopUses
  refine ⟨hmade, rfl, tss, hserved, ?_⟩
  rw [← htrace]
  rfl

end TableDdl
