import TableDdl.Value

/-!
# Constraint sets

Model of `ConstraintSet`.

The constraints of one column, each of them a value or unset. A set is built from named values and
changed by further named values; both refuse a name that is no constraint, and checks that cannot be
gone through. The checks of a set are a list of conditions, or unset.

Setting a field and reading it back gives the value (`get_set_self`), and every other field stays
(`get_set_of_ne`). For checks the value read back is the list of their members as a tuple.
-/

namespace TableDdl

/-- The constraints that a column can have. -/
inductive Constraint where
  | unsigned
  | notNull
  | autoIncrement
  | default
  | unique
  | primaryKey
  | foreignKey
  | checks
  | index
  deriving DecidableEq, Repr

namespace Constraint

def all : List Constraint :=
  [.unsigned, .notNull, .autoIncrement, .default, .unique, .primaryKey, .foreignKey, .checks, .index]

theorem mem_all (c : Constraint) : c ∈ all := by cases c <;> simp [all]

def name : Constraint → String
  | .unsigned => "unsigned"
  | .notNull => "not_null"
  | .autoIncrement => "auto_increment"
  | .default => "default"
  | .unique => "unique"
  | .primaryKey => "primary_key"
  | .foreignKey => "foreign_key"
  | .checks => "checks"
  | .index => "index"

def ofName? (name : String) : Option Constraint := all.find? (·.name == name)

theorem ofName?_name (c : Constraint) : ofName? c.name = some c := by cases c <;> decide

end Constraint

/-- Why a constraint set cannot be built or changed. -/
inductive ConstraintSetError where
  | unknownConstraint (name : String)
  | checksNotListable (value : Value)

/-- Constraints by name; `Value.none` is an unset constraint. -/
structure ConstraintSet where
  unsigned : Value := .none
  notNull : Value := .none
  autoIncrement : Value := .none
  default : Value := .none
  unique : Value := .none
  primaryKey : Value := .none
  foreignKey : Value := .none
  checks : Option (List Value) := none
  index : Value := .none

namespace ConstraintSet

/-- Checks as a value: unset, or a tuple of conditions. -/
def checksValue : Option (List Value) → Value
  | none => .none
  | some conditions => .tuple conditions

def get (s : ConstraintSet) : Constraint → Value
  | .unsigned => s.unsigned
  | .notNull => s.notNull
  | .autoIncrement => s.autoIncrement
  | .default => s.default
  | .unique => s.unique
  | .primaryKey => s.primaryKey
  | .foreignKey => s.foreignKey
  | .checks => checksValue s.checks
  | .index => s.index

/-- The conditions that a value given as checks stands for. -/
def checksOf : Value → Except ConstraintSetError (Option (List Value))
  | .none => .ok none
  | v => match v.elements? with
    | some conditions => .ok (some conditions)
    | none => .error (.checksNotListable v)

def set (s : ConstraintSet) (c : Constraint) (v : Value) : Except ConstraintSetError ConstraintSet :=
  match c with
  | .unsigned => .ok { s with unsigned := v }
  | .notNull => .ok { s with notNull := v }
  | .autoIncrement => .ok { s with autoIncrement := v }
  | .default => .ok { s with default := v }
  | .unique => .ok { s with unique := v }
  | .primaryKey => .ok { s with primaryKey := v }
  | .foreignKey => .ok { s with foreignKey := v }
  | .checks => (checksOf v).map fun conditions => { s with checks := conditions }
  | .index => .ok { s with index := v }

/-- A copy with the named constraints replaced, in order, `ConstraintSet.update`. -/
def update (s : ConstraintSet) : List (String × Value) → Except ConstraintSetError ConstraintSet
  | [] => .ok s
  | (name, v) :: changes =>
    match Constraint.ofName? name with
    | none => .error (.unknownConstraint name)
    | some c => do (← s.set c v).update changes

/-- The set with exactly the given constraints. -/
def ofFields (fields : List (String × Value)) : Except ConstraintSetError ConstraintSet :=
  ConstraintSet.update {} fields

/-- A copy with one more condition at the end of the checks, `ConstraintSet.with_check`. -/
def withCheck (s : ConstraintSet) (condition : Value) : ConstraintSet :=
  { s with checks := some (s.checks.getD [] ++ [condition]) }

/-- A change to a set. -/
inductive Change where
  | update (fields : List (String × Value))
  | withCheck (condition : Value)

def change (s : ConstraintSet) : Change → Except ConstraintSetError ConstraintSet
  | .update fields => s.update fields
  | .withCheck condition => .ok (s.withCheck condition)

/-- What comes of each change in turn; a refused change leaves the set as it is. -/
def trail (s : ConstraintSet) : List Change → List (Except ConstraintSetError ConstraintSet)
  | [] => []
  | c :: cs =>
    match s.change c with
    | .ok t => .ok t :: t.trail cs
    | .error e => .error e :: s.trail cs

/-- The constraints that are set, with their names, `ConstraintSet.to_dict`. -/
def fields (s : ConstraintSet) : List (String × Value) :=
  Constraint.all.filterMap fun c => if (s.get c).isNone then none else some (c.name, s.get c)

theorem ext_get {s t : ConstraintSet} (h : ∀ c, s.get c = t.get c) : s = t := by
  have hc : s.checks = t.checks := by
    have := h .checks
    cases hs : s.checks <;> cases ht : t.checks <;> simp_all [get, checksValue]
  obtain ⟨⟩ := s
  obtain ⟨⟩ := t
  have h1 := h .unsigned; have h2 := h .notNull; have h3 := h .autoIncrement
  have h4 := h .default; have h5 := h .unique; have h6 := h .primaryKey
  have h7 := h .foreignKey; have h9 := h .index
  simp_all [get]

theorem get_set_self {s t : ConstraintSet} {c : Constraint} {v : Value} (h : s.set c v = .ok t)
    (hc : c ≠ .checks) : t.get c = v := by
  cases c <;> first | exact absurd rfl hc | (cases h; rfl)

theorem get_set_of_ne {s t : ConstraintSet} {c d : Constraint} {v : Value} (h : s.set c v = .ok t)
    (hd : d ≠ c) : t.get d = s.get d := by
  cases c <;> try (cases h; cases d <;> first | rfl | exact absurd rfl hd)
  simp only [set] at h
  cases hv : checksOf v with
  | error e => simp [hv, Except.map] at h
  | ok conditions =>
    rw [hv] at h
    cases h
    cases d <;> first | rfl | exact absurd rfl hd

end ConstraintSet

end TableDdl
