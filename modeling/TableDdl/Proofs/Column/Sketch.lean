import TableDdl.Column.Edit
import TableDdl.Proofs.Result

/-!
# Columns without a dialect

What builder calls say about a column, apart from its dialect. A `Sketch` keeps the type as it was
asked for and the checks by where they come from. `Sketch.column` is the column that a sketch stands
for in a dialect: the type as the dialect writes it, and among the checks the membership checks of
enumerations only where the dialect has no enumerations of its own.

Sketches take the same calls as columns (`Sketch.apply`). The dialect only decides whether the digits
of a fixed-point number have to be written:

* `effect_of_apply`: what a call can do to a sketch, and `run_induction`: what follows for all calls
  of a list;
* `apply_column`: a call on the column of a sketch is refused iff it is refused on the sketch, for
  the same reason, and yields the column of the new sketch otherwise;
* `trail_column`, `afterEdits_column`: the same for lists of calls by name, where the calls that are
  refused are skipped;
* `apply_eq_apply`: the dialect makes no difference to a call, unless the call is for a fixed-point
  number with more digits than can be written.

So for all other calls the columns of two dialects differ only in what `Sketch.column` writes for a
dialect.
-/

namespace TableDdl

/-- A type as it is asked for. -/
inductive LogicalType where
  | simple (t : SimpleType)
  | decimal (total places : Value)
  | char (length : Value)
  | varchar (length : Value)
  | enum (values : List Text)

/-- The type as a dialect writes it. -/
def LogicalType.text (d : Dialect) : LogicalType → String
  | .simple t => d.simpleType t
  | .decimal total places => d.decimalType total places
  | .char length => d.charType length
  | .varchar length => d.varcharType length
  | .enum values => d.enumType (Literal.quoteAll (values.map Text.content))

/-- The arguments of a type are as the type asks for. -/
def LogicalType.InRange : LogicalType → Prop
  | .simple _ => True
  | .decimal total places =>
    ∃ t p : Int, total.int? = some t ∧ places.int? = some p ∧ 0 ≤ p ∧ p ≤ t
  | .char length => ∃ n : Int, length.int? = some n ∧ 0 ≤ n ∧ n ≤ maxCharLength
  | .varchar length => ∃ n : Int, length.int? = some n ∧ 0 ≤ n ∧ n ≤ maxVarcharLength
  | .enum values => values ≠ []

/-- A check, by where it comes from. -/
inductive Condition where
  | asked (condition : Text)
  /-- The column holds one of the values. -/
  | membership (values : List Text)
  /-- The column is not negative. -/
  | sign

namespace Condition

def isAsked : Condition → Bool
  | .asked _ => true
  | _ => false

/-- The check as it is written for the column `name`. -/
def text (name : Value) : Condition → Text
  | .asked condition => condition
  | .membership values =>
    .plain (name.display ++ " IN (" ++ Literal.quoteAll (values.map Text.content) ++ ")")
  | .sign => .plain (name.display ++ " >= 0")

end Condition

structure Sketch where
  name : Value
  type : Option LogicalType := none
  /-- All constraints but the checks. -/
  constraints : ColumnConstraints := {}
  checks : List Condition := []

namespace Sketch

/-- The checks that a column of the dialect collects. -/
def checksIn (s : Sketch) (d : Dialect) : List Text :=
  (if d.nativeEnum then s.checks.filter Condition.isAsked else s.checks).map (·.text s.name)

/-- **The column of a sketch in a dialect.** -/
def column (s : Sketch) (d : Dialect) : Column where
  dialect := d
  name := s.name
  type := (s.type.map fun t => .str (t.text d)).getD .none
  constraints := { s.constraints with checks := s.checksIn d }

/-! ## Calls on a sketch -/

def withType (s : Sketch) (t : LogicalType) : Sketch := { s with type := some t }

def constrain (s : Sketch) (f : ColumnConstraints → ColumnConstraints) : Sketch :=
  { s with constraints := f s.constraints }

def withCheck (s : Sketch) (condition : Condition) : Sketch :=
  { s with checks := s.checks ++ [condition] }

def updateForeignKey (s : Sketch) (f : ForeignKey → ForeignKey) : Except ColumnError Sketch :=
  match s.constraints.foreignKey with
  | none => .error .undefinedForeignKey
  | some key => .ok (s.constrain fun k => { k with foreignKey := some (f key) })

def apply (s : Sketch) (d : Dialect) : Call → Except ColumnError Sketch
  | .simple t => .ok (s.withType (.simple t))
  | .decimal total places => do
    let (t, p) ← decimalOf d total places
    return s.withType (.decimal t p)
  | .char length => do return s.withType (.char (← lengthOf maxCharLength length))
  | .varchar length => do return s.withType (.varchar (← lengthOf maxVarcharLength length))
  | .enum values => do
    let texts ← enumOf values
    return (s.withType (.enum texts)).withCheck (.membership texts)
  | .unsigned => .ok (s.constrain fun k => { k with unsigned := true })
  | .notNull => .ok (s.constrain fun k => { k with notNull := true })
  | .autoIncrement => .ok (s.constrain fun k => { k with autoIncrement := true })
  | .default value => do
    let text ← defaultOf value
    return s.constrain fun k => { k with default := some text }
  | .unique => .ok (s.constrain fun k => { k with unique := true })
  | .primaryKey => .ok (s.constrain fun k => { k with primaryKey := true })
  | .foreignKey => .ok (s.constrain fun k => { k with foreignKey := some {} })
  | .references table column => do
    let reference ← referenceOf table column
    s.updateForeignKey fun key => { key with reference := some reference }
  | .onUpdate action => do
    let a ← actionOf action
    s.updateForeignKey fun key => { key with onUpdate := some a }
  | .onDelete action => do
    let a ← actionOf action
    s.updateForeignKey fun key => { key with onDelete := some a }
  | .check condition => do return s.withCheck (.asked (← checkOf condition))
  | .index => .ok (s.constrain fun k => { k with index := true })
  | .pk => .ok ((s.withType (.simple .bigInt)).constrain fun k =>
      { k with unsigned := true, autoIncrement := true, primaryKey := true })
  | .fk => .ok ((s.withType (.simple .bigInt)).constrain fun k =>
      { k with unsigned := true, foreignKey := some {} })
  | .ip => .ok (s.withType (.varchar (.int 39)))
  | .uuid => .ok (s.withType (.varchar (.int 36)))

/-- A call by name, like `Column.edit`. -/
def edit (s : Sketch) (d : Dialect) (method : String) (arguments : List Value) :
    Except Error Sketch :=
  match Call.ofMethod method arguments with
  | .error e => .error (.usage e)
  | .ok call => (s.apply d call).mapError .ofColumn

/-- The sketch after a call by name, and why the call was refused if it was. -/
def editOrKeep (s : Sketch) (d : Dialect) (method : String) (arguments : List Value) :
    Sketch × Option Error :=
  match s.edit d method arguments with
  | .ok next => (next, none)
  | .error err => (s, some err)

/-- The sketch after calls by name; those that are refused are skipped. -/
def run (s : Sketch) (d : Dialect) : List (String × List Value) → Sketch
  | [] => s
  | (method, arguments) :: calls => (s.editOrKeep d method arguments).1.run d calls

/-- How each of the calls went. -/
def refusals (s : Sketch) (d : Dialect) : List (String × List Value) → List (Option Error)
  | [] => []
  | (method, arguments) :: calls =>
    (s.editOrKeep d method arguments).2 :: (s.editOrKeep d method arguments).1.refusals d calls

end Sketch

/-! ## Arguments that were let through -/

theorem decimalOf_eq_ok {d : Dialect} {total places : Value} {out : Value × Value}
    (h : decimalOf d total places = .ok out) : (LogicalType.decimal out.1 out.2).InRange := by
  unfold decimalOf at h
  split at h
  next t p ht hp =>
    split at h
    next hrange =>
      split at h
      · cases h
      · cases h
        exact ⟨t, p, ht, hp, hrange.2⟩
    next => cases h
  next => cases h

theorem lengthOf_eq_ok {maximum : Nat} {v w : Value} (h : lengthOf maximum v = .ok w) :
    ∃ n : Int, w.int? = some n ∧ 0 ≤ n ∧ n ≤ maximum := by
  unfold lengthOf at h
  split at h
  next n hn =>
    split at h
    next hrange =>
      cases h
      exact ⟨n, hn, hrange⟩
    next => cases h
  next => cases h

theorem enumOf_eq_ok {values : List Value} {texts : List Text} (h : enumOf values = .ok texts) :
    texts ≠ [] := by
  unfold enumOf at h
  split at h
  · cases h
  · cases h
    assumption
  · cases h

/-! ## What a call can do -/

namespace Sketch

/-- **The ways in which a call changes a sketch.** Only the calls that are named here bring in text
of their own; all others choose a type, set flags or start a foreign key. -/
inductive Effect (s : Sketch) : Call → Sketch → Prop where
  | mark {call : Call} (type : Option LogicalType) (k : ColumnConstraints)
      (htype : type = s.type ∨ ∃ t : LogicalType, type = some t ∧ t.InRange)
      (hdefault : k.default = s.constraints.default)
      (hkey : k.foreignKey = s.constraints.foreignKey ∨ k.foreignKey = some {}) :
      Effect s call { s with type, constraints := k }
  | enum {values : List Value} {texts : List Text} (h : enumOf values = .ok texts) :
      Effect s (.enum values) ((s.withType (.enum texts)).withCheck (.membership texts))
  | check {condition : Value} {text : Text} (h : checkOf condition = .ok text) :
      Effect s (.check condition) (s.withCheck (.asked text))
  | default {value : Value} {text : String} (h : defaultOf value = .ok text) :
      Effect s (.default value) (s.constrain fun k => { k with default := some text })
  | reference {table column : Value} {reference : Reference} {key : ForeignKey}
      (h : referenceOf table column = .ok reference) (hkey : s.constraints.foreignKey = some key) :
      Effect s (.references table column)
        (s.constrain fun k => { k with foreignKey := some { key with reference := some reference } })
  | action {call : Call} {key : ForeignKey} (onDelete onUpdate : Option ReferentialAction)
      (hkey : s.constraints.foreignKey = some key) :
      Effect s call
        (s.constrain fun k => { k with foreignKey := some { key with onDelete, onUpdate } })

theorem updateForeignKey_eq_ok {s t : Sketch} {f : ForeignKey → ForeignKey}
    (h : s.updateForeignKey f = .ok t) : ∃ key, s.constraints.foreignKey = some key ∧
      t = s.constrain fun k => { k with foreignKey := some (f key) } := by
  unfold updateForeignKey at h
  cases hk : s.constraints.foreignKey with
  | none => rw [hk] at h; cases h
  | some key => rw [hk] at h; cases h; exact ⟨key, rfl, rfl⟩

theorem effect_of_apply {s t : Sketch} {d : Dialect} {call : Call} (h : s.apply d call = .ok t) :
    Effect s call t := by
  cases call with
  | simple type => cases h; exact .mark _ _ (.inr ⟨_, rfl, trivial⟩) rfl (.inl rfl)
  | decimal total places =>
    obtain ⟨_, hv, h⟩ := bind_eq_ok h
    cases h
    exact .mark _ _ (.inr ⟨_, rfl, decimalOf_eq_ok hv⟩) rfl (.inl rfl)
  | char length =>
    obtain ⟨_, hv, h⟩ := bind_eq_ok h
    cases h
    exact .mark _ _ (.inr ⟨_, rfl, lengthOf_eq_ok hv⟩) rfl (.inl rfl)
  | varchar length =>
    obtain ⟨_, hv, h⟩ := bind_eq_ok h
    cases h
    exact .mark _ _ (.inr ⟨_, rfl, lengthOf_eq_ok hv⟩) rfl (.inl rfl)
  | enum values =>
    obtain ⟨texts, hv, h⟩ := bind_eq_ok h
    cases h
    exact .enum hv
  | check condition =>
    obtain ⟨text, hv, h⟩ := bind_eq_ok h
    cases h
    exact .check hv
  | default value =>
    obtain ⟨text, hv, h⟩ := bind_eq_ok h
    cases h
    exact .default hv
  | references table column =>
    obtain ⟨reference, hv, h⟩ := bind_eq_ok h
    obtain ⟨key, hkey, rfl⟩ := updateForeignKey_eq_ok h
    exact .reference hv hkey
  | onUpdate action =>
    obtain ⟨a, -, h⟩ := bind_eq_ok h
    obtain ⟨key, hkey, rfl⟩ := updateForeignKey_eq_ok h
    exact .action key.onDelete (some a) hkey
  | onDelete action =>
    obtain ⟨a, -, h⟩ := bind_eq_ok h
    obtain ⟨key, hkey, rfl⟩ := updateForeignKey_eq_ok h
    exact .action (some a) key.onUpdate hkey
  | unsigned => cases h; exact .mark _ _ (.inl rfl) rfl (.inl rfl)
  | notNull => cases h; exact .mark _ _ (.inl rfl) rfl (.inl rfl)
  | autoIncrement => cases h; exact .mark _ _ (.inl rfl) rfl (.inl rfl)
  | unique => cases h; exact .mark _ _ (.inl rfl) rfl (.inl rfl)
  | primaryKey => cases h; exact .mark _ _ (.inl rfl) rfl (.inl rfl)
  | foreignKey => cases h; exact .mark _ _ (.inl rfl) rfl (.inr rfl)
  | index => cases h; exact .mark _ _ (.inl rfl) rfl (.inl rfl)
  | pk => cases h; exact .mark _ _ (.inr ⟨_, rfl, trivial⟩) rfl (.inl rfl)
  | fk => cases h; exact .mark _ _ (.inr ⟨_, rfl, trivial⟩) rfl (.inr rfl)
  | ip => cases h; exact .mark _ _ (.inr ⟨_, rfl, 39, rfl, by decide, by decide⟩) rfl (.inl rfl)
  | uuid => cases h; exact .mark _ _ (.inr ⟨_, rfl, 36, rfl, by decide, by decide⟩) rfl (.inl rfl)

/-- No call changes the name. -/
theorem Effect.name {s t : Sketch} {call : Call} (h : Effect s call t) : t.name = s.name := by
  cases h <;> rfl

/-- A call by name either takes effect or leaves the sketch as it is. -/
theorem editOrKeep_cases (s : Sketch) (d : Dialect) (method : String) (arguments : List Value) :
    (s.editOrKeep d method arguments).1 = s ∨
      ∃ call, Call.ofMethod method arguments = .ok call ∧
        Effect s call (s.editOrKeep d method arguments).1 := by
  unfold editOrKeep edit
  cases hc : Call.ofMethod method arguments with
  | error e => exact .inl rfl
  | ok call =>
    simp only
    cases ha : s.apply d call with
    | error e => exact .inl rfl
    | ok t => exact .inr ⟨call, rfl, effect_of_apply ha⟩

/-- **What every effect keeps, a run keeps.** Only the calls that are understood can have an effect. -/
theorem run_induction {P : Sketch → Prop} {s : Sketch} {d : Dialect}
    {calls : List (String × List Value)} (hs : P s)
    (step : ∀ s t method arguments call, (method, arguments) ∈ calls →
      Call.ofMethod method arguments = .ok call → Effect s call t → P s → P t) :
    P (s.run d calls) := by
  induction calls generalizing s with
  | nil => exact hs
  | cons c calls ih =>
    obtain ⟨method, arguments⟩ := c
    apply ih
    · rcases s.editOrKeep_cases d method arguments with h | ⟨call, hc, he⟩
      · rwa [h]
      · exact step _ _ _ _ _ List.mem_cons_self hc he hs
    · exact fun s t m a call hm => step s t m a call (List.mem_cons_of_mem _ hm)

theorem name_run (s : Sketch) (d : Dialect) (calls : List (String × List Value)) :
    (s.run d calls).name = s.name :=
  run_induction (P := fun t => t.name = s.name) rfl fun _ _ _ _ _ _ _ he h => he.name.trans h

end Sketch

/-! ## The dialect can be chosen at the end -/

namespace Sketch

theorem withType_column (s : Sketch) (t : LogicalType) (d : Dialect) :
    (s.withType t).column d = (s.column d).withType (t.text d) := rfl

theorem withCheck_asked_column (s : Sketch) (condition : Text) (d : Dialect) :
    (s.withCheck (.asked condition)).column d = (s.column d).withCheck condition := by
  have h : (s.withCheck (.asked condition)).checksIn d = s.checksIn d ++ [condition] := by
    unfold checksIn withCheck
    cases d.nativeEnum with
    | true =>
      simp only [if_true, List.filter_append, List.map_append]
      rfl
    | false => exact List.map_append
  unfold column
  rw [h]
  rfl

/-- Only a dialect without enumerations of its own checks for membership. -/
theorem withCheck_membership_column (s : Sketch) (values : List Text) (d : Dialect) :
    (s.withCheck (.membership values)).column d =
      if d.nativeEnum then s.column d
      else (s.column d).withCheck ((Condition.membership values).text s.name) := by
  have h : (s.withCheck (.membership values)).checksIn d =
      if d.nativeEnum then s.checksIn d
      else s.checksIn d ++ [(Condition.membership values).text s.name] := by
    unfold checksIn withCheck
    cases d.nativeEnum with
    | true =>
      simp only [if_true, List.filter_append, List.map_append]
      exact List.append_nil _
    | false => exact List.map_append
  unfold column
  rw [h]
  cases d.nativeEnum <;> rfl

theorem withEnum_column (s : Sketch) (values : List Text) (d : Dialect)
    (hname : s.name.display? = some s.name.display) :
    (s.column d).withEnum values =
      .ok (((s.withType (.enum values)).withCheck (.membership values)).column d) := by
  rw [withCheck_membership_column, withType_column, Column.withEnum_of_display? hname]
  rfl

theorem updateForeignKey_column (s : Sketch) (f : ForeignKey → ForeignKey) (d : Dialect) :
    (s.column d).updateForeignKey f = (s.updateForeignKey f).map (·.column d) := by
  unfold Column.updateForeignKey updateForeignKey
  show (match s.constraints.foreignKey with | none => _ | some key => _) = _
  cases s.constraints.foreignKey <;> rfl

/-- **A call does the same before and after the dialect is chosen.** One case for each call: its
arguments are looked at without the column, and what it then does to the sketch, it does to the
column. -/
theorem apply_column (s : Sketch) (d : Dialect) (call : Call)
    (hname : s.name.display? = some s.name.display) :
    (s.column d).apply call = (s.apply d call).map (·.column d) := by
  cases call with
  | decimal total places =>
    show (decimalOf d total places).bind _ = _
    simp only [apply]
    cases decimalOf d total places <;> rfl
  | char length =>
    simp only [Column.apply, apply]
    cases lengthOf maxCharLength length <;> rfl
  | varchar length =>
    simp only [Column.apply, apply]
    cases lengthOf maxVarcharLength length <;> rfl
  | enum values =>
    simp only [Column.apply, apply]
    cases enumOf values with
    | error e => rfl
    | ok texts => exact s.withEnum_column texts d hname
  | default value =>
    simp only [Column.apply, apply]
    cases defaultOf value <;> rfl
  | references table column =>
    simp only [Column.apply, apply]
    cases referenceOf table column with
    | error e => rfl
    | ok reference => exact s.updateForeignKey_column _ d
  | onUpdate action =>
    simp only [Column.apply, apply]
    cases actionOf action with
    | error e => rfl
    | ok a => exact s.updateForeignKey_column _ d
  | onDelete action =>
    simp only [Column.apply, apply]
    cases actionOf action with
    | error e => rfl
    | ok a => exact s.updateForeignKey_column _ d
  | check condition =>
    simp only [Column.apply, apply]
    cases checkOf condition with
    | error e => rfl
    | ok text => exact congrArg Except.ok (s.withCheck_asked_column text d).symm
  | simple t => rfl
  | unsigned => rfl
  | notNull => rfl
  | autoIncrement => rfl
  | unique => rfl
  | primaryKey => rfl
  | foreignKey => rfl
  | index => rfl
  | pk => rfl
  | fk => rfl
  | ip => rfl
  | uuid => rfl

/-- A call by name: the same refusal, and the column of the same sketch. -/
theorem editOrKeep_column (s : Sketch) (d : Dialect) (method : String) (arguments : List Value)
    (hname : s.name.display? = some s.name.display) :
    (s.column d).editOrKeep (.call method arguments) =
      ((s.editOrKeep d method arguments).1.column d, (s.editOrKeep d method arguments).2) := by
  unfold Column.editOrKeep editOrKeep
  cases h : Call.ofMethod method arguments with
  | error e => simp only [Column.edit, Column.editHalfway?, edit, h]; rfl
  | ok call =>
    simp only [Column.edit, Column.editHalfway?, edit, h, s.apply_column d call hname]
    cases s.apply d call with
    | error e =>
      show (((s.column d).halfway? call).getD _, _) = _
      rw [Column.halfway?_of_display? hname]
      rfl
    | ok t => rfl

theorem name_editOrKeep (s : Sketch) (d : Dialect) (method : String) (arguments : List Value) :
    (s.editOrKeep d method arguments).1.name = s.name :=
  s.name_run d [(method, arguments)]

end Sketch

/-! ## Programs -/

/-- The name of a column and the calls that build it, each by its method and its arguments. -/
structure Program where
  name : String
  calls : List (String × List Value)

namespace Program

def edits (p : Program) : List Edit := p.calls.map fun c => .call c.1 c.2

/-- The column that a program builds in a dialect; calls that are refused are skipped. -/
def column (p : Program) (d : Dialect) : Except Error Column := do
  let c ← Column.newFor (some d) (.str p.name)
  return p.edits.foldl (fun c e => (c.editOrKeep e).1) c

/-- How each call of a program went. -/
def refusals (p : Program) (d : Dialect) : Except Error (List (Option Error)) := do
  let c ← Column.newFor (some d) (.str p.name)
  return (c.trail p.edits).map Prod.snd

/-- What a program says about its column. -/
def sketch (p : Program) (d : Dialect) : Sketch := Sketch.run { name := .str p.name } d p.calls

end Program

/-- A new column is an empty sketch in its dialect. -/
theorem Column.newFor_some (d : Dialect) (name : Value) :
    Column.newFor (some d) name =
      if name.isIdentifier then .ok (Sketch.column { name } d)
      else .error (.ofColumn (ColumnError.invalidName name).raised) := by
  unfold Column.newFor Column.new
  simp only
  split
  · cases d <;> rfl
  · rfl

theorem Sketch.afterEdits_column (s : Sketch) (d : Dialect) (calls : List (String × List Value))
    (hname : s.name.display? = some s.name.display) :
    (calls.map fun c => Edit.call c.1 c.2).foldl (fun c e => (c.editOrKeep e).1) (s.column d)
      = (s.run d calls).column d := by
  induction calls generalizing s with
  | nil => rfl
  | cons call calls ih =>
    simp only [List.map_cons, List.foldl_cons, s.editOrKeep_column _ _ _ hname]
    exact ih _ (by rwa [s.name_editOrKeep])

theorem Sketch.trail_column (s : Sketch) (d : Dialect) (calls : List (String × List Value))
    (hname : s.name.display? = some s.name.display) :
    ((s.column d).trail (calls.map fun c => Edit.call c.1 c.2)).map Prod.snd =
      s.refusals d calls := by
  induction calls generalizing s with
  | nil => rfl
  | cons call calls ih =>
    simp only [List.map_cons, Column.trail, s.editOrKeep_column _ _ _ hname, refusals]
    rw [ih _ (by rwa [s.name_editOrKeep])]

namespace Program

/-- **A program yields its sketch in each dialect**, if it has a valid name. -/
theorem column_eq (p : Program) (d : Dialect) :
    p.column d =
      if (Value.str p.name).isIdentifier then .ok ((p.sketch d).column d)
      else .error (.column (.invalidName (.str p.name))) := by
  unfold column
  rw [Column.newFor_some]
  split
  · exact congrArg Except.ok (Sketch.afterEdits_column { name := .str p.name } d p.calls rfl)
  · rfl

theorem refusals_eq (p : Program) (d : Dialect) :
    p.refusals d =
      if (Value.str p.name).isIdentifier then .ok (Sketch.refusals { name := .str p.name } d p.calls)
      else .error (.column (.invalidName (.str p.name))) := by
  unfold refusals
  rw [Column.newFor_some]
  split
  · exact congrArg Except.ok (Sketch.trail_column { name := .str p.name } d p.calls rfl)
  · rfl

end Program

/-! ## Where the dialect makes no difference -/

/-- The digits of a fixed-point number can be written, if they are allowed at all. -/
def Call.HasWritableDigits : Call → Prop
  | .decimal total places => decimalOf .sqlite total places = .ok (total, places) →
    total.display?.isSome = true ∧ places.display?.isSome = true
  | _ => True

theorem decimalOf_eq_decimalOf {total places : Value}
    (h : (Call.decimal total places).HasWritableDigits) (d e : Dialect) :
    decimalOf d total places = decimalOf e total places := by
  have hsame (d : Dialect) : decimalOf d total places = decimalOf .sqlite total places := by
    unfold Call.HasWritableDigits at h
    unfold decimalOf at h ⊢
    split
    next t p ht hp =>
      by_cases hdomain : 0 ≤ t ∧ 0 ≤ p ∧ p ≤ t
      · simp only [ht, hp, if_pos hdomain, Dialect.writesDigits, Bool.false_and, Bool.false_eq_true,
          if_false, forall_const] at h ⊢
        rw [h.1, h.2]
        cases d <;> rfl
      · rw [if_neg hdomain, if_neg hdomain]
    next => rfl
  rw [hsame d, hsame e]

/-- A number with too many digits is allowed where they are left out. -/
theorem decimalOf_endless {total : Int} (htotal : 0 ≤ total)
    (hendless : (Value.int total).display? = none) (d : Dialect) :
    decimalOf d (.int total) (.int 0) =
      if d.writesDigits then .error .unwritable else .ok (.int total, .int 0) := by
  show (if 0 ≤ total ∧ (0 : Int) ≤ 0 ∧ 0 ≤ total then
    if d.writesDigits && !((Value.int total).display?.isSome && _) then _ else _ else _) = _
  rw [if_pos ⟨htotal, Int.le_refl 0, htotal⟩, hendless]
  cases d <;> rfl

/-- **Of all calls only fixed-point numbers depend on the dialect**, if their digits are too many. -/
theorem Sketch.apply_eq_apply {call : Call} (h : call.HasWritableDigits) (s : Sketch)
    (d e : Dialect) : s.apply d call = s.apply e call := by
  cases call with
  | decimal total places => simp only [apply, decimalOf_eq_decimalOf h d e]
  | _ => rfl

namespace Program

def HasWritableDigits (p : Program) : Prop :=
  ∀ c ∈ p.calls, ∀ call, Call.ofMethod c.1 c.2 = .ok call → call.HasWritableDigits

end Program

namespace Sketch

section
variable {calls : List (String × List Value)}
  (h : ∀ c ∈ calls, ∀ call, Call.ofMethod c.1 c.2 = .ok call → call.HasWritableDigits)
  (s : Sketch) (d e : Dialect)
include h

theorem editOrKeep_eq_editOrKeep {method : String} {arguments : List Value}
    (hm : (method, arguments) ∈ calls) :
    s.editOrKeep d method arguments = s.editOrKeep e method arguments := by
  unfold editOrKeep edit
  cases hc : Call.ofMethod method arguments with
  | error err => rfl
  | ok call => simp only [s.apply_eq_apply (h _ hm call hc) d e]

theorem run_eq_run : s.run d calls = s.run e calls := by
  induction calls generalizing s with
  | nil => rfl
  | cons c calls ih =>
    rw [run, run, s.editOrKeep_eq_editOrKeep h d e List.mem_cons_self]
    exact ih (fun c hc => h c (List.mem_cons_of_mem _ hc)) _

theorem refusals_eq_refusals : s.refusals d calls = s.refusals e calls := by
  induction calls generalizing s with
  | nil => rfl
  | cons c calls ih =>
    rw [refusals, refusals, s.editOrKeep_eq_editOrKeep h d e List.mem_cons_self]
    exact congrArg _ (ih (fun c hc => h c (List.mem_cons_of_mem _ hc)) _)

end

end Sketch

namespace Program

theorem sketch_eq_sketch {p : Program} (h : p.HasWritableDigits) (d e : Dialect) :
    p.sketch d = p.sketch e := Sketch.run_eq_run h _ d e

/-- **Calls are refused in every dialect alike.** -/
theorem refusals_eq_refusals {p : Program} (h : p.HasWritableDigits) (d e : Dialect) :
    p.refusals d = p.refusals e := by
  rw [p.refusals_eq, p.refusals_eq, Sketch.refusals_eq_refusals h _ d e]

end Program

end TableDdl
