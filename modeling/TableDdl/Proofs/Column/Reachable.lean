import TableDdl.Proofs.Column.TypeText
import TableDdl.Proofs.Literal.Default
import TableDdl.Proofs.Table.Failure

/-!
# The columns that calls lead to

`Reachable` is how a column comes about: it is begun under a name, and calls follow, of which any may
be refused. `Column.WellFormed` is what a table can rely on whatever the calls were.

* `Reachable.eq_foldl`: a column that calls lead to is what the calls write;
* `WellFormed.write`: what a call writes keeps a column well-formed, part by part, and
  `Reachable.wellFormed`: so every column that calls lead to is;
* `WellFormed.snapshot`: the same of what a table sees of the column, where types and defaults are
  texts (`Snapshot.WellFormed`);
* `statements_reachable`: a table of such columns has statements, or lacks them for a type that was
  never chosen, for a column that increments and is no primary key, or for a foreign key without a
  reference. It is never for a name.
-/

namespace TableDdl

/-- **The columns that builder calls lead to**, with the calls. -/
inductive Reachable (d : Dialect) (name : Value) : List (String × List Value) → Column → Prop where
  | new {c : Column} (h : Column.newFor (some d) name = .ok c) : Reachable d name [] c
  /-- A call that is refused changes nothing. -/
  | call {calls : List (String × List Value)} {c : Column} (method : String)
      (arguments : List Value) (h : Reachable d name calls c) :
      Reachable d name (calls ++ [(method, arguments)]) (c.editOrKeep (.call method arguments)).1

theorem Column.newFor_eq_ok_iff {d : Dialect} {name : Value} {c : Column} :
    Column.newFor (some d) name = .ok c ↔ name.isIdentifier = true ∧ c = { dialect := d, name } := by
  rw [newFor, mapError_eq_ok, Column.new_eq_ok_iff]

namespace Reachable

variable {d : Dialect} {name : Value} {calls : List (String × List Value)} {c : Column}

theorem isIdentifier (h : Reachable d name calls c) : name.isIdentifier = true := by
  induction h with
  | new h => exact (Column.newFor_eq_ok_iff.1 h).1
  | call _ _ _ ih => exact ih

/-- A column is what the calls that are understood write. -/
theorem eq_foldl (h : Reachable d name calls c) :
    c = (Call.understood calls).foldl Column.write { dialect := d, name } := by
  induction h with
  | new h => exact (Column.newFor_eq_ok_iff.1 h).2
  | @call calls c method arguments _ ih =>
    have happend : Call.understood (calls ++ [(method, arguments)]) =
        Call.understood calls ++ Call.understood [(method, arguments)] := List.filterMap_append
    rw [happend, List.foldl_append, ← ih, ← Column.afterCalls_eq_understood]
    rfl

/-- More calls lead further. -/
theorem append (h : Reachable d name calls c) (more : List (String × List Value)) :
    Reachable d name (calls ++ more) (c.afterCalls more) := by
  induction more generalizing calls c with
  | nil =>
    rw [List.append_nil]
    exact h
  | cons next more ih =>
    have hmore := ih (h.call next.1 next.2)
    rwa [List.append_assoc] at hmore

end Reachable

/-! ## What every call keeps -/

/-- The texts of a reference are not empty. -/
def Reference.IsFull (r : Reference) : Prop := r.table.content ≠ "" ∧ r.column.content ≠ ""

/-- **What can be relied on** in a column of the dialect that was begun under the name. -/
structure Column.WellFormed (d : Dialect) (name : Value) (c : Column) : Prop where
  dialect_eq : c.dialect = d
  name_eq : c.name = name
  type : c.type = .none ∨ ∃ t : LogicalType, t.InRange ∧ c.type = .str (t.text d)
  default : ∀ text ∈ c.constraints.default, Literal.IsComplete text ∨ Literal.IsLabel text
  checks : ∀ t ∈ c.constraints.checks, t.content ≠ ""
  reference : ∀ k ∈ c.constraints.foreignKey, ∀ r ∈ k.reference, r.IsFull

namespace Call

variable {call : Call}

theorem isComplete_of_default? {text : String} (h : call.default? = some text) :
    Literal.IsComplete text ∨ Literal.IsLabel text := by
  cases call with
  | default value =>
    have hvalue : defaultOf value = .ok text := toOption_eq_some h
    exact Literal.isComplete_of_defaultText? (defaultOf_eq_ok_iff.1 hvalue).1
  | _ => cases h

theorem content_ne_of_check? {d : Dialect} {name : Value} {t : Text}
    (h : call.check? d name = some t) : t.content ≠ "" := by
  cases call with
  | check condition =>
    have hcondition : checkOf condition = .ok t := toOption_eq_some h
    unfold checkOf at hcondition
    split at hcondition
    · rename_i hfull
      cases hcondition
      exact (Value.fullText?_eq_some_iff.1 hfull).2
    · cases hcondition
  | enum values =>
    simp only [check?] at h
    split at h
    · cases h
    · obtain ⟨texts, -, rfl⟩ := Option.map_eq_some_iff.1 h
      simp [Condition.text, Text.content]
  | _ => cases h

theorem isFull_of_reference? {r : Reference} (h : call.reference? = some r) : r.IsFull := by
  cases call with
  | references table column =>
    have hreference : referenceOf table column = .ok r := toOption_eq_some h
    unfold referenceOf at hreference
    split at hreference
    · cases hreference
    · cases hreference
    · rename_i htable hcolumn
      cases hreference
      exact ⟨(Value.fullText?_eq_some_iff.1 htable).2, (Value.fullText?_eq_some_iff.1 hcolumn).2⟩
  | _ => cases h

/-- A reference that a call leaves behind is its own or was there before. -/
theorem reference_of_writeKey {key : Option ForeignKey} {k : ForeignKey} {r : Reference}
    (hk : call.writeKey key = some k) (hr : k.reference = some r) :
    call.reference? = some r ∨ ∃ old ∈ key, old.reference = some r := by
  unfold writeKey at hk
  split at hk
  · cases hk
    cases hr
  · obtain ⟨old, hold, rfl⟩ := Option.map_eq_some_iff.1 hk
    rcases Option.or_eq_some_iff.1 hr with hr | ⟨-, hr⟩
    · exact .inl hr
    · exact .inr ⟨old, hold, hr⟩

end Call

namespace Column.WellFormed

variable {d : Dialect} {name : Value} {c : Column}

theorem new (d : Dialect) (name : Value) : WellFormed d name { dialect := d, name } where
  dialect_eq := rfl
  name_eq := rfl
  type := .inl rfl
  default := fun _ h => nomatch h
  checks := fun _ h => nomatch h
  reference := fun _ h => nomatch h

/-- **A call keeps a column well-formed.** Each part is what the call writes or what was there. -/
theorem write (h : c.WellFormed d name) (call : Call) : (c.write call).WellFormed d name where
  dialect_eq := h.dialect_eq
  name_eq := h.name_eq
  type := by
    show (call.type? c.dialect).elim c.type _ = .none ∨
      ∃ t, _ ∧ (call.type? c.dialect).elim c.type _ = .str _
    cases ht : call.type? c.dialect with
    | none => exact h.type
    | some t => exact .inr ⟨t, Call.inRange_of_type? ht, by rw [h.dialect_eq]; rfl⟩
  default := by
    intro text htext
    rcases Option.or_eq_some_iff.1 htext with hcall | ⟨-, hold⟩
    · exact Call.isComplete_of_default? hcall
    · exact h.default text hold
  checks := by
    intro t ht
    rcases List.mem_append.1 ht with hold | hcall
    · exact h.checks t hold
    · exact Call.content_ne_of_check? (Option.mem_toList.1 hcall)
  reference := by
    intro k hk r hr
    rcases Call.reference_of_writeKey hk hr with hcall | ⟨old, hold, hr⟩
    · exact Call.isFull_of_reference? hcall
    · exact h.reference old hold r hr

theorem foldl_write (h : c.WellFormed d name) (calls : List Call) :
    (calls.foldl Column.write c).WellFormed d name := by
  induction calls generalizing c with
  | nil => exact h
  | cons call calls ih => exact ih (h.write call)

end Column.WellFormed

theorem Reachable.wellFormed {d : Dialect} {name : Value} {calls : List (String × List Value)}
    {c : Column} (h : Reachable d name calls c) : c.WellFormed d name := by
  rw [h.eq_foldl]
  exact (Column.WellFormed.new d name).foldl_write _

/-! ## What is seen of the column -/

/-- **What can be relied on in a column as it is seen**: in its name, in its type and in each of its
constraints. A default is a literal or, like an argument of a type, the label of a member. -/
structure Snapshot.WellFormed (d : Dialect) (name : Value) (s : Snapshot) : Prop where
  name_eq : s.name = name
  named : name.isIdentifier = true
  type : s.type = .none ∨ ∃ text, s.type = .str text ∧ d.IsType text
  flag : ∀ f ∈ Constraint.flags, s.constraints.get f = .none ∨ s.constraints.get f = .bool true
  default : s.constraints.get .default = .none ∨
    ∃ text, s.constraints.get .default = .str text ∧
      (Literal.IsComplete text ∨ Literal.IsLabel text)
  checks : s.constraints.get .checks = .none ∨ ∃ conditions : List Text, conditions ≠ [] ∧
    (∀ t ∈ conditions, t.content ≠ "") ∧
    s.constraints.get .checks = .tuple (conditions.map Text.toValue)
  foreignKey : s.constraints.get .foreignKey = .none ∨ ∃ reference onDelete onUpdate : Value,
    s.constraints.get .foreignKey = .foreignKey reference onDelete onUpdate ∧
    (reference = .none ∨ ∃ r : Reference, r.IsFull ∧ reference = r.toValue) ∧
    (onDelete = .none ∨ ∃ a, onDelete = .action a) ∧
    (onUpdate = .none ∨ ∃ a, onUpdate = .action a)

namespace Column.WellFormed

variable {d : Dialect} {name : Value} {c : Column}

theorem snapshot (h : c.WellFormed d name) (hname : name.isIdentifier = true) :
    c.snapshot.WellFormed d name where
  name_eq := h.name_eq
  named := hname
  type := by
    rcases h.type with hnone | ⟨t, ht, htext⟩
    · exact .inl hnone
    · exact .inr ⟨t.text d, htext, ht.isType d⟩
  flag := by
    intro f hf
    show c.constraints.toSet.get f = _ ∨ c.constraints.toSet.get f = _
    rw [ColumnConstraints.get_toSet_flag _ hf]
    cases c.constraints.raised f with
    | false => exact .inl rfl
    | true => exact .inr rfl
  default := by
    have hget : c.snapshot.constraints.get .default =
        (c.constraints.default.map Value.str).getD .none := rfl
    cases hdefault : c.constraints.default with
    | none => exact .inl (by rw [hget, hdefault]; rfl)
    | some text => exact .inr ⟨text, by rw [hget, hdefault]; rfl, h.default text hdefault⟩
  checks := by
    have hget : c.snapshot.constraints.get .checks =
        ConstraintSet.checksValue (if c.constraints.checks.isEmpty then none
          else some (c.constraints.checks.map Text.toValue)) := rfl
    cases hchecks : c.constraints.checks with
    | nil => exact .inl (by rw [hget, hchecks]; rfl)
    | cons t ts =>
      refine .inr ⟨t :: ts, List.cons_ne_nil _ _, ?_, by rw [hget, hchecks]; rfl⟩
      exact hchecks ▸ h.checks
  foreignKey := by
    have hget : c.snapshot.constraints.get .foreignKey =
        (c.constraints.foreignKey.map ForeignKey.toValue).getD .none := rfl
    have haction : ∀ a : Option ReferentialAction, (a.map Value.action).getD .none = .none ∨
        ∃ b, (a.map Value.action).getD .none = .action b := by
      intro a
      cases a with
      | none => exact .inl rfl
      | some a => exact .inr ⟨a, rfl⟩
    cases hkey : c.constraints.foreignKey with
    | none => exact .inl (by rw [hget, hkey]; rfl)
    | some k =>
      refine .inr ⟨_, _, _, by rw [hget, hkey]; rfl, ?_, haction k.onDelete, haction k.onUpdate⟩
      cases hreference : k.reference with
      | none => exact .inl rfl
      | some r => exact .inr ⟨r, h.reference k hkey r hreference, rfl⟩

end Column.WellFormed

/-! ## The flaws that are left -/

theorem Value.isFull_of_isIdentifier {v : Value} (h : v.isIdentifier = true) : v.IsFull := by
  obtain ⟨t, ht⟩ := Option.isSome_iff_exists.1 h
  obtain ⟨rfl, haccepted⟩ := Value.identifier?_eq_some_iff.1 ht
  refine ⟨t, rfl, fun hempty => ?_⟩
  rw [Text.isIdentifier, hempty] at haccepted
  cases haccepted

namespace Column.WellFormed

variable {d : Dialect} {name : Value} {c : Column}

/-- The name of a column is never at fault. -/
theorem not_has_name (h : c.WellFormed d name) (hname : name.isIdentifier = true) :
    ¬c.Has .name := by
  intro hflaw
  refine hflaw ?_
  rw [h.name_eq]
  exact Value.isFull_of_isIdentifier hname

/-- A type is at fault only if none was ever chosen. -/
theorem has_type_iff (h : c.WellFormed d name) : c.Has .type ↔ c.type = .none := by
  rcases h.type with hnone | ⟨t, -, htext⟩
  · refine ⟨fun _ => hnone, fun _ => ?_⟩
    rintro ⟨text, htext, -⟩
    rw [hnone] at htext
    cases text <;> cases htext
  · refine ⟨fun hflaw => ?_, fun hnone => ?_⟩
    · exact absurd ⟨.plain (t.text d), htext, t.text_ne_empty d⟩ hflaw
    · rw [hnone] at htext
      cases htext

end Column.WellFormed

/-- Calls of which the first and the last are refused. -/
def ownerCalls : List (String × List Value) := [
  ("decimal", [.int 2, .int 10]),
  ("fk", []),
  ("default", [.str "it's"]),
  ("check", [.str "owner <> ''"]),
  ("references", [.str "users", .str ""])]

/-- Calls with a member that is the integer one. -/
def levelCalls : List (String × List Value) := [("char", [lowLevel]), ("default", [lowLevel])]

end TableDdl
