import TableDdl.Log.Record

/-!
# The logging context

Model of `LoggingContext`.

Fields that every log call adds to its own. Entering a scope binds the fields of the scope,
overwriting those that are bound; leaving it unbinds their names, also those that were bound before
the scope was entered (`get?_exit_of_mem`). Names that the scope does not mention stay as they are
(`get?_exit_of_not_mem`).

A field of a log call wins over the context (`Fields.get?_extend`).
-/

namespace TableDdl

/-- The bound fields. -/
abbrev Context := Fields

namespace Context

/-- Bind the fields of a scope. -/
def enter (ctx : Context) (scope : Fields) : Context :=
  scope.foldl (fun ctx f => Fields.put ctx f.1 f.2) ctx

/-- Unbind the names of a scope. -/
def exit (ctx : Context) (scope : Fields) : Context :=
  scope.foldl (fun ctx f => Fields.erase ctx f.1) ctx

/-- A log call as it is recorded: with the fields of the context that it does not have itself. -/
def record (ctx : Context) (level : Level) (event : String) (fields : Fields) : LogEvent :=
  ⟨level, event, fields.extend ctx⟩

theorem get?_exit_of_not_mem (ctx : Context) (scope : Fields) {name : String}
    (h : ∀ f ∈ scope, f.1 ≠ name) : (ctx.exit scope).get? name = Fields.get? ctx name := by
  induction scope generalizing ctx with
  | nil => rfl
  | cons f scope ih =>
    have := ih (Fields.erase ctx f.1) fun g hg => h g (List.mem_cons_of_mem _ hg)
    simp only [exit, List.foldl_cons] at this ⊢
    rw [this, Fields.get?_erase_of_ne _ (Ne.symm (h f List.mem_cons_self))]

theorem get?_exit_of_mem (ctx : Context) (scope : Fields) {name : String}
    (h : ∃ f ∈ scope, f.1 = name) : (ctx.exit scope).get? name = none := by
  induction scope generalizing ctx with
  | nil => simp at h
  | cons f scope ih =>
    by_cases ht : ∃ g ∈ scope, g.1 = name
    · exact ih (Fields.erase ctx f.1) ht
    · have hf : f.1 = name := by
        obtain ⟨g, hg, rfl⟩ := h
        rcases List.mem_cons.1 hg with rfl | hg
        · rfl
        · exact absurd ⟨g, hg, rfl⟩ ht
      have hn : ∀ g ∈ scope, g.1 ≠ name := fun g hg e => ht ⟨g, hg, e⟩
      have := get?_exit_of_not_mem (Fields.erase ctx f.1) scope hn
      simp only [exit, List.foldl_cons] at this ⊢
      rw [this, hf, Fields.get?_erase_self]

end Context

end TableDdl
