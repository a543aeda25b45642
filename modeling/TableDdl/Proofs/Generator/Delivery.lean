import TableDdl.Executor

/-!
# Statements in order

What an executor does with a list of statements. It sends them one after another and stops after the
first that the database refuses.

* `execute_observed`: one statement. It is sent once, whatever comes of it.
* `FirstRefusal e n k`: of the next `n` statements `k` are carried out before one is refused, if one
  is.
* `deliver_stopsAt`: so a list of statements is sent up to the first refusal, and the logs and the
  result tell how far it went.

An executor over an engine logs for itself too; `ownLogs` leaves these records out.
-/

namespace TableDdl

/-! ## What is seen of a delivery -/

/-- The statement that the database is given, if it is given one. -/
def TraceEvent.sql? : TraceEvent → Option String
  | .statement sql => some sql
  | _ => none

/-- The statements among what the database sees, in order. -/
def sentStatements (trace : List TraceEvent) : List String := trace.filterMap TraceEvent.sql?

/-- The logs without those of the executor itself. -/
def ownLogs (logs : List LogEvent) : List LogEvent := logs.filter (·.event != "Statement executed")

def appliedLog (ctx : Context) (sql : String) : LogEvent :=
  ctx.record .debug "Statement applied" [("sql", .str sql)]

def failedLog (ctx : Context) (sql : String) : LogEvent :=
  ctx.record .error "Statement failed" [("sql", .str sql)]

theorem sentStatements_append (first second : List TraceEvent) :
    sentStatements (first ++ second) = sentStatements first ++ sentStatements second :=
  List.filterMap_append

theorem ownLogs_append (first second : List LogEvent) :
    ownLogs (first ++ second) = ownLogs first ++ ownLogs second := List.filter_append ..

theorem ownLogs_applied (ctx : Context) (sql : String) (logs : List LogEvent) :
    ownLogs (appliedLog ctx sql :: logs) = appliedLog ctx sql :: ownLogs logs := rfl

namespace Executor

/-- The executor after its database has been given `n` more statements. -/
def after (e : Executor) (n : Nat) : Executor :=
  { e with channel := { e.channel with received := e.channel.received + n } }

theorem counted_after (e : Executor) (n : Nat) : e.counted.after n = e.after (n + 1) := by
  unfold counted after
  rw [Nat.add_right_comm]
  rfl

/-! ## One statement -/

/-- **One statement**: it is given to the database once, whether it is refused or not, and all that
is logged is logged by the executor. -/
theorem execute_observed (e : Executor) (ctx : Context) (sql : String) :
    (e.execute ctx sql).executor = e.counted ∧ sentStatements (e.execute ctx sql).trace = [sql] ∧
      ownLogs (e.execute ctx sql).logs = [] := by
  unfold execute
  split
  · exact ⟨rfl, rfl, rfl⟩
  · exact ⟨rfl, rfl, rfl⟩
  · exact ⟨rfl, rfl, rfl⟩
  · simp only
    split
    · exact ⟨rfl, rfl, rfl⟩
    · refine ⟨rfl, rfl, ?_⟩
      simp [ownLogs, Context.record]

/-- An executor with a dialect fails iff its database refuses the statement. -/
theorem execute_result {e : Executor} {d : Dialect} (hd : e.dialect = .dialect d) (ctx : Context)
    (sql : String) : (e.execute ctx sql).result =
      if e.refusesNext then .error (.statement e.channel.refusal) else .ok () := by
  unfold execute
  rw [hd]
  cases e.channel.transactional <;> cases e.refusesNext <;> rfl

/-! ## A list of statements -/

/-- **The first refusal**: of the next `n` statements `k` are carried out, and the one after these is
refused, if there is one. -/
structure FirstRefusal (e : Executor) (n k : Nat) : Prop where
  le : k ≤ n
  accepted : ∀ i < k, e.channel.refuses (e.channel.received + i) = false
  refused : k < n → e.channel.refuses (e.channel.received + k) = true

theorem firstRefusal_zero {e : Executor} {n : Nat} (h : 0 < n → e.refusesNext = true) :
    e.FirstRefusal n 0 where
  le := Nat.zero_le n
  accepted := fun i hi => absurd hi (Nat.not_lt_zero i)
  refused := h

/-- If the next statement is carried out, the first refusal is among those after it. -/
theorem FirstRefusal.succ {e : Executor} {n k : Nat} (h : e.counted.FirstRefusal n k)
    (hnext : e.refusesNext = false) : e.FirstRefusal (n + 1) (k + 1) where
  le := Nat.succ_le_succ h.le
  accepted := by
    intro i hi
    cases i with
    | zero => exact hnext
    | succ i =>
      have hi := h.accepted i (Nat.lt_of_succ_lt_succ hi)
      rwa [show e.channel.received + (i + 1) = e.counted.channel.received + i by
        simp only [counted]; omega]
  refused := by
    intro hk
    have hk := h.refused (Nat.lt_of_succ_lt_succ hk)
    rwa [show e.channel.received + (k + 1) = e.counted.channel.received + k by
      simp only [counted]; omega]

end Executor

/-- **A delivery that stops at `k`**: the statements up to there are sent, `k` of them are carried
out, and the next one failed if there is one. -/
structure Delivery.StopsAt (r : Delivery) (e : Executor) (ctx : Context) (sql : List String)
    (k : Nat) : Prop where
  sent : sentStatements r.trace = sql.take (k + 1)
  logs : ownLogs r.logs = (sql.take k).map (appliedLog ctx) ++ sql[k]?.toList.map (failedLog ctx)
  executor : r.executor = e.after (sql.take (k + 1)).length
  result : r.result = if k = sql.length then .ok () else .error (.statement e.channel.refusal)

/-- **Statements are delivered up to the first refusal.** By induction on the statements: each one
that is carried out moves the first refusal one place ahead. -/
theorem Executor.deliver_stopsAt {e : Executor} {d : Dialect} (hd : e.dialect = .dialect d)
    (ctx : Context) (sql : List String) :
    ∃ k, e.FirstRefusal sql.length k ∧ (e.deliver ctx sql).StopsAt e ctx sql k := by
  induction sql generalizing e with
  | nil =>
    have hnone : e.FirstRefusal 0 0 := firstRefusal_zero fun h => absurd h (Nat.not_lt_zero 0)
    exact ⟨0, hnone, ⟨rfl, rfl, rfl, rfl⟩⟩
  | cons first rest ih =>
    have hresult := execute_result hd ctx first
    obtain ⟨hexecutor, hsent, hlogs⟩ := execute_observed e ctx first
    cases hnext : e.refusesNext with
    | true =>
      -- nothing after the first statement is sent
      rw [hnext, if_pos rfl] at hresult
      refine ⟨0, firstRefusal_zero fun _ => hnext, ?_⟩
      unfold deliver
      simp only [hresult]
      refine ⟨hsent, ?_, hexecutor, rfl⟩
      rw [ownLogs_append, hlogs]
      rfl
    | false =>
      -- the rest is delivered by the executor that has been given one statement more
      rw [hnext, if_neg Bool.false_ne_true] at hresult
      obtain ⟨k, hk, hstop⟩ := ih (e := e.counted) hd
      refine ⟨k + 1, hk.succ hnext, ?_⟩
      unfold deliver
      simp only [hresult, hexecutor]
      refine ⟨?_, ?_, ?_, ?_⟩
      · rw [sentStatements_append, hsent, hstop.sent]
        rfl
      · rw [ownLogs_append, hlogs, ← appliedLog, ownLogs_applied, hstop.logs]
        rfl
      · rw [hstop.executor, counted_after]
        rfl
      · rw [hstop.result]
        simp only [List.length_cons, Nat.add_right_cancel_iff]
        rfl

end TableDdl
