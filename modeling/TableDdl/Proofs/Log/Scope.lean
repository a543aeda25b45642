import TableDdl.Log.Setup
import TableDdl.Proofs.Generator.Creation

/-!
# Scopes of the logging context

What is left of the logging context when a scope is left. Leaving a scope unbinds the names of the
scope and looks at nothing else, so it makes no difference to these names whether the scope was
entered (`Context.exit_enter`).

A `Body` is what is done while a scope is open: log calls and further scopes, up to an error, which
may be the body's own or a log call that is refused. A scope that has been entered is left whichever
way its body ends (`LogSession.perform`).

* `perform_session`: after a body a session is as before, without the names of all scopes that were
  entered on the way;
* `context_createTable`: the same for the scope in which a table is created;
* `context_restored_iff`: so the context is the one from before iff none of these names was bound
  before. A name that was bound already, with whatever value, is lost (`outer_binding_lost`).
-/

namespace TableDdl

/-! ## Leaving a scope -/

namespace Fields

/-- The fields whose names are not those of a scope. -/
def without (fs scope : Fields) : Fields := fs.filter fun f => !scope.has f.1

theorem has_append (fs more : Fields) (name : String) :
    has (fs ++ more) name = (fs.has name || more.has name) := List.any_append

theorem has_of_mem {fs : Fields} {f : String × Value} (h : f ∈ fs) : fs.has f.1 = true :=
  List.any_eq_true.2 ⟨f, h, by simp⟩

section
variable (fs scope other : Fields)

theorem without_append : fs.without (scope ++ other) = (fs.without scope).without other := by
  simp only [without, List.filter_filter, has_append, Bool.not_or, Bool.and_comm]

theorem without_comm : (fs.without scope).without other = (fs.without other).without scope := by
  simp only [without, List.filter_filter, Bool.and_comm]

/-- Whatever is written under a name of the scope, it goes with the scope. -/
theorem without_put {name : String} (v : Value) (h : scope.has name = true) :
    (fs.put name v).without scope = fs.without scope := by
  induction fs with
  | nil => simp [put, without, h]
  | cons f fs ih =>
    obtain ⟨n, w⟩ := f
    by_cases hn : n = name
    · subst hn
      simp [put, without, h]
    · simp only [without] at ih
      simp [put, without, hn, List.filter_cons, ih]

/-- Nothing goes with a scope iff none of its names is there. -/
theorem without_eq_self_iff : fs.without scope = fs ↔ ∀ f ∈ scope, fs.get? f.1 = none := by
  have hnone (name : String) : fs.get? name = none ↔ fs.has name = false := by
    rw [has_eq_isSome, Option.isSome_eq_false_iff, Option.isNone_iff_eq_none]
  simp only [without, List.filter_eq_self, hnone, has, Bool.not_eq_true', List.any_eq_false,
    beq_iff_eq]
  exact ⟨fun h f hf g hg he => h g hg f hf he.symm, fun h g hg f hf he => h f hf g hg he.symm⟩

end

end Fields

namespace Context

section
variable (ctx : Context) (scope : Fields)

/-- Only names count where a scope is left. -/
theorem exit_eq_without : ctx.exit scope = Fields.without ctx scope := by
  induction scope generalizing ctx with
  | nil => exact (List.filter_eq_self.2 fun _ _ => rfl).symm
  | cons f scope ih =>
    have herase : Fields.erase ctx f.1 = Fields.without ctx [f] := by
      refine List.filter_congr fun g _ => ?_
      simp [Fields.has, bne, Bool.beq_comm]
    calc ctx.exit (f :: scope)
      _ = Context.exit (Fields.erase ctx f.1) scope := rfl
      _ = (Fields.without ctx [f]).without scope := by rw [ih, herase]
      _ = Fields.without ctx (f :: scope) := (Fields.without_append ctx [f] scope).symm

theorem exit_append (inner : Fields) : ctx.exit (scope ++ inner) = (ctx.exit scope).exit inner :=
  List.foldl_append

theorem exit_comm (inner : Fields) :
    Context.exit (ctx.exit inner) scope = Context.exit (ctx.exit scope) inner := by
  simp only [exit_eq_without]
  exact Fields.without_comm ctx inner scope

theorem without_enter {entered : Fields} (h : ∀ f ∈ entered, scope.has f.1 = true) :
    Fields.without (ctx.enter entered) scope = Fields.without ctx scope := by
  induction entered generalizing ctx with
  | nil => rfl
  | cons f entered ih =>
    obtain ⟨hf, hentered⟩ := List.forall_mem_cons.1 h
    exact (ih (Fields.put ctx f.1 f.2) hentered).trans (Fields.without_put ctx scope f.2 hf)

/-- **A scope leaves nothing behind**: its names are unbound whether it has been entered or not. -/
theorem exit_enter : (ctx.enter scope).exit scope = ctx.exit scope := by
  rw [exit_eq_without, exit_eq_without, without_enter ctx scope fun _ => Fields.has_of_mem]

/-- **Leaving a scope changes nothing iff none of its names is bound.** -/
theorem exit_eq_self_iff : ctx.exit scope = ctx ↔ ∀ f ∈ scope, Fields.get? ctx f.1 = none := by
  rw [exit_eq_without]
  exact Fields.without_eq_self_iff ctx scope

end

end Context

/-! ## Bodies of scopes -/

/-- What is done while a scope is open. -/
inductive Body where
  | done
  /-- An error that has nothing to do with the logs. -/
  | error
  | log (level : Level) (event : Value) (fields : Fields) (rest : Body)
  | within (scope : Fields) (inner rest : Body)

namespace LogSession

/-- What came of a body: the session afterwards, the fields of all scopes that were entered, and
whether the body came to its end. -/
structure Passage where
  session : LogSession
  entered : Fields := []
  completed : Bool

/-- A body is followed up to its first error. A scope that has been entered is left after its body,
also after an error. -/
def perform (s : LogSession) : Body → Passage
  | .done => { session := s, completed := true }
  | .error => { session := s, completed := false }
  | .log level event fields rest =>
    match s.step (.log level event fields) with
    | .error _ => { session := s, completed := false }
    | .ok (t, _) => t.perform rest
  | .within scope inner rest =>
    match s.step (.enter scope) with
    | .error _ => { session := s, completed := false }
    | .ok (t, _) =>
      let p := t.perform inner
      match p.session.step .exit with
      | .error _ => { p with entered := scope ++ p.entered, completed := false }
      | .ok (u, _) =>
        if p.completed then
          let q := u.perform rest
          { q with entered := scope ++ p.entered ++ q.entered }
        else { session := u, entered := scope ++ p.entered, completed := false }

/-- The session in which some names are bound no longer. -/
def unbound (s : LogSession) (scope : Fields) : LogSession :=
  { s with context := s.context.exit scope }

theorem unbound_append (s : LogSession) (scope inner : Fields) :
    s.unbound (scope ++ inner) = (s.unbound scope).unbound inner := by
  unfold unbound
  rw [Context.exit_append]

/-- A log call changes nothing, if it is not refused. -/
theorem step_log {s t : LogSession} {level : Level} {event : Value} {fields : Fields}
    {answer : Answer} (h : s.step (.log level event fields) = .ok (t, answer)) : t = s := by
  simp only [step] at h
  split at h
  · cases h
  split at h
  · cases h; rfl
  split at h
  · cases h; rfl
  · cases h

/-- The session in which a scope is open. -/
def opened (s : LogSession) (scope : Fields) : LogSession :=
  { s with context := s.context.enter scope, scopes := scope :: s.scopes }

theorem step_enter (s : LogSession) {scope : Fields} (h : scope.has "self" = false) :
    s.step (.enter scope) = .ok (s.opened scope, .entered) := by
  simp [step, h, opened]

/-- The innermost scope is left, with whatever has been unbound while it was open. -/
theorem step_exit (s : LogSession) (scope inner : Fields) :
    ((s.opened scope).unbound inner).step .exit = .ok (s.unbound (scope ++ inner), .done) := by
  show Except.ok (_, Answer.done) = Except.ok (_, Answer.done)
  unfold unbound opened
  simp only
  rw [Context.exit_comm, Context.exit_enter, Context.exit_append]

/-- **After a body a session is as before**, without the names of all scopes that were entered. By
induction on the body: the names of a scope go with it, before or after those of the scopes in
it. -/
theorem perform_session (s : LogSession) (body : Body) :
    (s.perform body).session = s.unbound (s.perform body).entered := by
  induction body generalizing s with
  | done => rfl
  | error => rfl
  | log level event fields rest ih =>
    unfold perform
    cases h : s.step (.log level event fields) with
    | error fault => rfl
    | ok result =>
      obtain ⟨t, answer⟩ := result
      obtain rfl := step_log h
      exact ih t
  | within scope inner rest ihInner ihRest =>
    unfold perform
    cases hself : scope.has "self" with
    | true =>
      have hrefused : s.step (.enter scope) = .error .ownName := by simp [step, hself]
      rw [hrefused]
      rfl
    | false =>
      have hexit := s.step_exit scope ((s.opened scope).perform inner).entered
      rw [← ihInner] at hexit
      simp only [s.step_enter hself, hexit]
      cases ((s.opened scope).perform inner).completed with
      | false => rfl
      | true =>
        simp only [if_true]
        rw [ihRest, ← unbound_append]

/-- The fields of a scope that was entered are among those that go. -/
theorem entered_within (s : LogSession) {scope : Fields} (h : scope.has "self" = false)
    (inner rest : Body) : ∀ f ∈ scope, f ∈ (s.perform (.within scope inner rest)).entered := by
  intro f hf
  have hexit := s.step_exit scope ((s.opened scope).perform inner).entered
  rw [← perform_session] at hexit
  unfold perform
  simp only [s.step_enter h, hexit]
  split
  · exact List.mem_append_left _ (List.mem_append_left _ hf)
  · exact List.mem_append_left _ hf

end LogSession

/-! ## The scope of a table's creation -/

namespace Generator

/-- The fields that are bound while a table is created go when it is done. -/
theorem context_createTable (g : Generator) (ctx : Context) (items : List Item) :
    (g.createTable ctx items).context =
      match g.statements items with
      | .error _ => ctx
      | .ok _ => ctx.exit [("table_name", .none), ("dialect", .none)] := by
  cases h : g.statements items with
  | error err => rw [createTable_of_error h]; rfl
  | ok sql =>
    obtain ⟨e, d, table, he, -, ht⟩ := statements_eq_ok h
    rw [createTable_of_ok h he ht]
    exact ctx.exit_enter _

end Generator

/-- **When the context is restored.** Around any body, successful or not, the context after a scope
is the one before without the names of the scopes that were entered, so it is the one before iff
none of these names was bound. After the creation of a table it is the one before iff the statements
could not be made, or neither the table's name nor the dialect was bound. -/
theorem context_restored_iff (s : LogSession) {scope : Fields} (hself : scope.has "self" = false)
    (inner : Body) (g : Generator) (ctx : Context) (items : List Item) :
    let p := s.perform (.within scope inner .done)
    (∀ f ∈ scope, f ∈ p.entered) ∧ p.session = s.unbound p.entered ∧
      (p.session.context = s.context ↔ ∀ f ∈ p.entered, Fields.get? s.context f.1 = none) ∧
      ((g.createTable ctx items).context = ctx ↔
        (∃ err, g.statements items = .error err) ∨
          Fields.get? ctx "table_name" = none ∧ Fields.get? ctx "dialect" = none) := by
  have hsession := s.perform_session (.within scope inner .done)
  refine ⟨s.entered_within hself inner .done, hsession, ?_, ?_⟩
  · rw [hsession]
    exact Context.exit_eq_self_iff _ _
  · rw [Generator.context_createTable]
    cases g.statements items with
    | error err => simp
    | ok sql => simp [Context.exit_eq_self_iff]

/-! A table's scope inside that of a request, and around another table's scope that fails. -/

def requestSession : LogSession :=
  { setup := ⟨.info, .json⟩, context := [("request", .str "r1")] }

def usersScope : Fields := [("table", .str "users")]

/-- A scope in which something fails. -/
def failingOrders : Body := .within [("table", .str "orders")] .error .done

def ordersGenerator : Generator where
  table := .str "orders"
  candidate := { dialect := some (.dialect .mysql), channel := some { transactional := true } }

/-- A column that has its type. -/
def orderIdItem : Item := .column { dialect := .mysql, name := .str "id", type := .str "BIGINT" }

/-- The request is still bound afterwards, and neither table is. -/
theorem context_restored_iff_failingOrders :
    usersScope.has "self" = false ∧
      (requestSession.perform (.within usersScope failingOrders .done)).session.context =
        requestSession.context ∧
      (ordersGenerator.createTable requestSession.context [orderIdItem]).context =
        requestSession.context := by
  have hself : usersScope.has "self" = false := by decide
  obtain ⟨-, -, hscope, hcreation⟩ := context_restored_iff requestSession hself failingOrders
    ordersGenerator requestSession.context [orderIdItem]
  refine ⟨hself, hscope.2 ?_, hcreation.2 (.inr ⟨rfl, rfl⟩)⟩
  simp [LogSession.perform, LogSession.step, usersScope, failingOrders, requestSession, Fields.has,
    Fields.get?]

/-- A session in which a caller has bound the name of a table. -/
def tableSession : LogSession :=
  { setup := ⟨.info, .json⟩, context := [("table_name", .str "users")] }

/-- **A name that was bound already is lost**, behind a scope that binds it again and behind the
creation of a table. -/
theorem outer_binding_lost :
    (tableSession.perform (.within [("table_name", .str "orders")] .done .done)).session.context ≠
        tableSession.context ∧
      (ordersGenerator.createTable tableSession.context [orderIdItem]).context ≠
        tableSession.context := by
  have hscope : (tableSession.perform
      (.within [("table_name", .str "orders")] .done .done)).session.context = [] := rfl
  have hcreation :
      (ordersGenerator.createTable tableSession.context [orderIdItem]).context = [] := rfl
  rw [hscope, hcreation]
  simp [tableSession]

end TableDdl
