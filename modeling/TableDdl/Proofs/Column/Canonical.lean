import Mathlib.Data.List.Induction
import TableDdl.Proofs.Column.Sketch

/-!
# The column that calls leave behind

A list of calls leaves a column that can be read off the calls without following them one by one.
Each part of a column has its own rule. The last call that writes a type or a default decides it, a
flag is raised once and for all, conditions are collected in order, and a foreign key is what has
been said of it since it was last started.

* `Column.write` is what a call does to a column, part by part, where a refused call writes nothing:
  `doesWrite_apply` says that this is what `Column.apply` does, and `halfway?_eq_some` that a call
  which fails half-way has done it too;
* `afterCalls_eq_carriedOut`, `afterCalls_eq_understood`: so calls in turn write, whether the
  refused ones are left out or not;
* `type_foldl_write`, `raised_foldl_write`, `default_foldl_write`, `checks_foldl_write`,
  `foldl_writeKey_none` and `foldl_writeKey_start` are the rules for the parts;
* `snapshot_afterCalls`: the column after any calls is determined by those that were carried out, by
  these rules, and calls that say the same leave the same column. So the order of calls matters only
  among calls that write the same part.
-/

namespace TableDdl

/-! ## Flags -/

/-- The constraints that are there or not. -/
def Constraint.flags : List Constraint :=
  [.unsigned, .notNull, .autoIncrement, .unique, .primaryKey, .index]

/-- Whether a flag is there. -/
def ColumnConstraints.raised (k : ColumnConstraints) : Constraint → Bool
  | .unsigned => k.unsigned
  | .notNull => k.notNull
  | .autoIncrement => k.autoIncrement
  | .unique => k.unique
  | .primaryKey => k.primaryKey
  | .index => k.index
  | .default | .foreignKey | .checks => false

theorem ColumnConstraints.get_toSet_flag (k : ColumnConstraints) {f : Constraint}
    (h : f ∈ Constraint.flags) : k.toSet.get f = flagValue (k.raised f) := by
  simp only [Constraint.flags, List.mem_cons, List.not_mem_nil, or_false] at h
  rcases h with rfl | rfl | rfl | rfl | rfl | rfl <;> rfl

/-- Constraints that agree in every part. -/
theorem ColumnConstraints.ext_raised {k l : ColumnConstraints}
    (hflags : ∀ f, k.raised f = l.raised f) (hdefault : k.default = l.default)
    (hkey : k.foreignKey = l.foreignKey) (hchecks : k.checks = l.checks) : k = l := by
  obtain ⟨⟩ := k
  obtain ⟨⟩ := l
  have h1 := hflags .unsigned
  have h2 := hflags .notNull
  have h3 := hflags .autoIncrement
  have h4 := hflags .unique
  have h5 := hflags .primaryKey
  have h6 := hflags .index
  simp_all [raised]

/-! ## What a call writes -/

namespace Call

/-- The type that a call writes for a dialect. -/
def type? (d : Dialect) : Call → Option LogicalType
  | .simple t => some (.simple t)
  | .decimal total places => (decimalOf d total places).toOption.map fun n => .decimal n.1 n.2
  | .char length => (lengthOf maxCharLength length).toOption.map .char
  | .varchar length => (lengthOf maxVarcharLength length).toOption.map .varchar
  | .enum values => (enumOf values).toOption.map .enum
  | .pk | .fk => some (.simple .bigInt)
  | .ip => some (.varchar (.int 39))
  | .uuid => some (.varchar (.int 36))
  | _ => none

/-- The flags that a call raises. -/
def flags : Call → List Constraint
  | .unsigned => [.unsigned]
  | .notNull => [.notNull]
  | .autoIncrement => [.autoIncrement]
  | .unique => [.unique]
  | .primaryKey => [.primaryKey]
  | .index => [.index]
  | .pk => [.unsigned, .autoIncrement, .primaryKey]
  | .fk => [.unsigned]
  | _ => []

theorem flags_subset (call : Call) : call.flags ⊆ Constraint.flags := by
  cases call <;> simp [flags, Constraint.flags]

def raises (flag : Constraint) (call : Call) : Bool := call.flags.contains flag

/-- The literal that a call sets as default. -/
def default? : Call → Option String
  | .default value => (defaultOf value).toOption
  | _ => none

/-- The condition that a call adds to the column `name`. Without enumerations of its own a dialect
needs one for their values, which mentions the name. -/
def check? (d : Dialect) (name : Value) : Call → Option Text
  | .check condition => (checkOf condition).toOption
  | .enum values =>
    if d.nativeEnum || name.display?.isNone then none
    else (enumOf values).toOption.map fun texts => (Condition.membership texts).text name
  | _ => none

def startsKey : Call → Bool
  | .foreignKey | .fk => true
  | _ => false

def reference? : Call → Option Reference
  | .references table column => (referenceOf table column).toOption
  | _ => none

def onDelete? : Call → Option ReferentialAction
  | .onDelete action => (actionOf action).toOption
  | _ => none

def onUpdate? : Call → Option ReferentialAction
  | .onUpdate action => (actionOf action).toOption
  | _ => none

/-- A call that starts a foreign key or says something of one. -/
def writesKey (call : Call) : Bool :=
  call.startsKey || call.reference?.isSome || call.onDelete?.isSome || call.onUpdate?.isSome

/-- What a call makes of a foreign key. Nothing can be said of one that has not been started. -/
def writeKey (key : Option ForeignKey) (call : Call) : Option ForeignKey :=
  if call.startsKey then some {}
  else key.map fun k =>
    { reference := call.reference?.or k.reference
      onDelete := call.onDelete?.or k.onDelete
      onUpdate := call.onUpdate?.or k.onUpdate }

end Call

/-- **What a call does to a column.** -/
def Column.write (c : Column) (call : Call) : Column where
  dialect := c.dialect
  name := c.name
  type := (call.type? c.dialect).elim c.type fun t => .str (t.text c.dialect)
  constraints := {
    unsigned := c.constraints.unsigned || call.raises .unsigned
    notNull := c.constraints.notNull || call.raises .notNull
    autoIncrement := c.constraints.autoIncrement || call.raises .autoIncrement
    default := call.default?.or c.constraints.default
    unique := c.constraints.unique || call.raises .unique
    primaryKey := c.constraints.primaryKey || call.raises .primaryKey
    foreignKey := call.writeKey c.constraints.foreignKey
    checks := c.constraints.checks ++ (call.check? c.dialect c.name).toList
    index := c.constraints.index || call.raises .index }

theorem Call.writeKey_of_not_writesKey {call : Call} (h : call.writesKey = false)
    (key : Option ForeignKey) : call.writeKey key = key := by
  simp only [writesKey, Bool.or_eq_false_iff, Option.isSome_eq_false_iff, Option.isNone_iff_eq_none]
    at h
  obtain ⟨⟨⟨hs, hr⟩, hd⟩, hu⟩ := h
  unfold writeKey
  rw [hs, hr, hd, hu]
  cases key <;> rfl

namespace Column

/-! ## A call does what it writes -/

/-- The outcome of a call is what the call writes, or a refusal of a call that writes nothing. -/
def DoesWrite (c : Column) (call : Call) (outcome : Except ColumnError Column) : Prop :=
  outcome = .ok (c.write call) ∨ (∃ e, outcome = .error e) ∧ c.write call = c

section
variable (c : Column) (call : Call) {α : Type} (argument : Except ColumnError α)

theorem write_eq_self (ht : call.type? c.dialect = none) (hf : call.flags = []) (hd : call.default? = none)
    (hc : call.check? c.dialect c.name = none)
    (hk : call.writeKey c.constraints.foreignKey = c.constraints.foreignKey) : c.write call = c := by
  simp [write, ht, Call.raises, hf, hd, hc, hk]

/-- A call that is refused only for its argument. -/
theorem doesWrite_bind {next : α → Column} (hself : argument.toOption = none → c.write call = c)
    (hnext : ∀ a, argument.toOption = some a → c.write call = next a) :
    c.DoesWrite call (argument.bind fun a => .ok (next a)) := by
  cases argument with
  | error e => exact .inr ⟨⟨e, rfl⟩, hself rfl⟩
  | ok a => exact .inl (congrArg Except.ok (hnext a rfl).symm)

/-- A call that writes a type, which depends on its argument. -/
theorem doesWrite_type (type : α → LogicalType)
    (ht : call.type? c.dialect = argument.toOption.map type)
    (hf : call.flags = []) (hd : call.default? = none) (hc : call.check? c.dialect c.name = none)
    (hk : call.writeKey c.constraints.foreignKey = c.constraints.foreignKey) :
    c.DoesWrite call (argument.bind fun a => .ok (c.withType ((type a).text c.dialect))) := by
  refine c.doesWrite_bind call argument
    (fun h => c.write_eq_self call (by rw [ht, h]; rfl) hf hd hc hk) fun a h => ?_
  simp [write, withType, ht, h, Call.raises, hf, hd, hc, hk]

/-- A call that says something of a foreign key, if there is one. -/
theorem doesWrite_key (f : α → ForeignKey → ForeignKey) (ht : call.type? c.dialect = none)
    (hf : call.flags = []) (hd : call.default? = none) (hc : call.check? c.dialect c.name = none)
    (hk : ∀ key, call.writeKey key = key.map fun k => argument.toOption.elim k fun a => f a k) :
    c.DoesWrite call (argument.bind fun a => c.updateForeignKey (f a)) := by
  cases argument with
  | error e =>
    refine .inr ⟨⟨e, rfl⟩, c.write_eq_self call ht hf hd hc ?_⟩
    rw [hk]
    exact Option.map_id'
  | ok a =>
    show c.DoesWrite call (c.updateForeignKey (f a))
    unfold updateForeignKey
    cases hkey : c.constraints.foreignKey with
    | none =>
      refine .inr ⟨⟨_, rfl⟩, c.write_eq_self call ht hf hd hc ?_⟩
      rw [hk, hkey]
      rfl
    | some k =>
      refine .inl (congrArg Except.ok ?_)
      simp [write, constrain, ht, Call.raises, hf, hd, hc, hk, hkey, Except.toOption]

end

/-- What an enumeration writes on a column that needs no check for it. -/
theorem write_enum_of_nativeEnum {c : Column} {values : List Value} {texts : List Text}
    (ht : enumOf values = .ok texts)
    (hcheck : (c.dialect.nativeEnum || c.name.display?.isNone) = true) :
    c.write (.enum values) = c.withEnumType texts := by
  have hkey : (Call.enum values).writeKey c.constraints.foreignKey = c.constraints.foreignKey :=
    Call.writeKey_of_not_writesKey rfl _
  simp [write, withEnumType, withType, LogicalType.text, Call.type?, Call.raises, Call.flags,
    Call.default?, Call.check?, ht, hcheck, hkey, Except.toOption]

/-- What is left of a call half-way is what the call writes. -/
theorem halfway?_eq_some {c half : Column} {call : Call} (h : c.halfway? call = some half) :
    (∃ e, c.apply call = .error e) ∧ half = c.write call := by
  cases call with
  | enum values =>
    simp only [halfway?] at h
    split at h
    · rename_i texts e ht ha
      cases h
      obtain ⟨-, hname, -⟩ := withEnum_eq_error_iff.1 ((c.apply_enum ht).symm.trans ha)
      rw [write_enum_of_nativeEnum ht (by simp [hname])]
      exact ⟨⟨e, ha⟩, rfl⟩
    · cases h
  | _ => cases h

/-- **A call does what it writes, or it is refused and writes nothing**, unless it fails half-way.
Calls without arguments are never refused; the others are if an argument is, or if there is no
foreign key to speak of. -/
theorem doesWrite_apply (c : Column) {call : Call} (hhalf : c.halfway? call = none) :
    c.DoesWrite call (c.apply call) := by
  have hkey (h : call.writesKey = false) :=
    Call.writeKey_of_not_writesKey h c.constraints.foreignKey
  cases call with
  | simple | unsigned | notNull | autoIncrement | unique | primaryKey | foreignKey | index | pk | fk
  | ip | uuid =>
    left
    simp [apply, write, constrain, withType, withBigInt, LogicalType.text, Call.type?, Call.raises,
      Call.flags, Call.default?, Call.check?, Call.writeKey, Call.startsKey, Call.reference?,
      Call.onDelete?, Call.onUpdate?]
  | decimal total places =>
    exact c.doesWrite_type (.decimal total places) (decimalOf c.dialect total places)
      (fun digits => .decimal digits.1 digits.2) rfl rfl rfl rfl (hkey rfl)
  | char length =>
    exact c.doesWrite_type (.char length) (lengthOf maxCharLength length) .char rfl rfl rfl rfl
      (hkey rfl)
  | varchar length =>
    exact c.doesWrite_type (.varchar length) (lengthOf maxVarcharLength length) .varchar rfl rfl rfl
      rfl (hkey rfl)
  | references table column =>
    refine c.doesWrite_key (.references table column) (referenceOf table column)
      (fun r k => { k with reference := some r }) rfl rfl rfl rfl fun key => ?_
    cases h : referenceOf table column <;>
      simp [Call.writeKey, Call.startsKey, Call.reference?, Call.onDelete?, Call.onUpdate?, h,
        Except.toOption]
  | onUpdate action =>
    refine c.doesWrite_key (.onUpdate action) (actionOf action)
      (fun a k => { k with onUpdate := some a }) rfl rfl rfl rfl fun key => ?_
    cases h : actionOf action <;>
      simp [Call.writeKey, Call.startsKey, Call.reference?, Call.onDelete?, Call.onUpdate?, h,
        Except.toOption]
  | onDelete action =>
    refine c.doesWrite_key (.onDelete action) (actionOf action)
      (fun a k => { k with onDelete := some a }) rfl rfl rfl rfl fun key => ?_
    cases h : actionOf action <;>
      simp [Call.writeKey, Call.startsKey, Call.reference?, Call.onDelete?, Call.onUpdate?, h,
        Except.toOption]
  | default value =>
    refine c.doesWrite_bind (.default value) (defaultOf value)
      (fun h => c.write_eq_self _ rfl rfl h rfl (hkey rfl)) fun text h => ?_
    simp [write, constrain, Call.type?, Call.raises, Call.flags, Call.default?, h, Call.check?,
      hkey rfl]
  | check condition =>
    refine c.doesWrite_bind (.check condition) (checkOf condition)
      (fun h => c.write_eq_self _ rfl rfl rfl h (hkey rfl)) fun text h => ?_
    simp [write, withCheck, constrain, Call.type?, Call.raises, Call.flags, Call.default?,
      Call.check?, h, hkey rfl]
  | enum values =>
    cases ht : enumOf values with
    | error e =>
      refine .inr ⟨⟨e, by simp only [apply, ht]; rfl⟩, c.write_eq_self _ ?_ rfl rfl ?_ (hkey rfl)⟩
      · simp [Call.type?, ht, Except.toOption]
      · simp [Call.check?, ht, Except.toOption]
    | ok texts =>
      rw [c.apply_enum ht]
      left
      cases hn : c.dialect.nativeEnum with
      | true => rw [write_enum_of_nativeEnum ht (by simp [hn]), withEnum, if_pos hn]
      | false =>
        cases hname : c.name.display? with
        | some name =>
          rw [withEnum_of_display? hname, hn, ← Value.display_of_display? hname]
          simp [write, withEnumType, withType, withCheck, constrain, LogicalType.text,
            Condition.text, Call.type?, Call.raises, Call.flags, Call.default?, Call.check?, ht, hn,
            hname, hkey rfl, Except.toOption]
        | none =>
          -- Then the call fails after it has chosen the type.
          have hfails : c.withEnum texts = .error .unwritable :=
            withEnum_eq_error_iff.2 ⟨hn, hname, rfl⟩
          simp only [halfway?, ht, c.apply_enum ht, hfails] at hhalf
          cases hhalf

end Column

/-! ## Calls in turn -/

/-- The calls by name that make sense, whether they are refused or not. -/
def Call.understood (calls : List (String × List Value)) : List Call :=
  calls.filterMap fun c => (Call.ofMethod c.1 c.2).toOption

namespace Column

/-- The column after calls by name; those that are refused are skipped. -/
def afterCalls (c : Column) : List (String × List Value) → Column
  | [] => c
  | (method, arguments) :: calls => (c.editOrKeep (.call method arguments)).1.afterCalls calls

/-- **The calls that are carried out.** -/
def carriedOut (c : Column) : List (String × List Value) → List Call
  | [] => []
  | (method, arguments) :: calls =>
    let rest := (c.editOrKeep (.call method arguments)).1.carriedOut calls
    match Call.ofMethod method arguments, (c.editOrKeep (.call method arguments)).2 with
    | .ok call, none => call :: rest
    | _, _ => rest

/-- A call by name does what it writes, and if it is refused it writes nothing, unless it fails
half-way. -/
theorem editOrKeep_of_ofMethod (c : Column) {method : String} {arguments : List Value} {call : Call}
    (h : Call.ofMethod method arguments = .ok call) :
    c.editOrKeep (.call method arguments) = (c.write call, none) ∨
      (∃ e, c.editOrKeep (.call method arguments) = (c.write call, some e)) ∧
        (c.halfway? call = none → c.write call = c) := by
  have he : c.edit (.call method arguments) = (c.apply call).mapError .ofColumn := by
    simp only [edit, h]
  have hedit : c.editHalfway? (.call method arguments) = c.halfway? call := by
    simp only [editHalfway?, h]
    rfl
  unfold editOrKeep
  rw [he, hedit]
  cases hhalf : c.halfway? call with
  | some half =>
    obtain ⟨⟨e, herror⟩, rfl⟩ := halfway?_eq_some hhalf
    rw [herror]
    refine .inr ⟨⟨_, rfl⟩, fun hnone => ?_⟩
    cases hnone
  | none =>
    rcases c.doesWrite_apply hhalf with hok | ⟨⟨e, herror⟩, hself⟩
    · rw [hok]
      exact .inl rfl
    · rw [herror, hself]
      exact .inr ⟨⟨_, rfl⟩, fun _ => rfl⟩

theorem editOrKeep_of_usage (c : Column) {method : String} {arguments : List Value} {e : UsageError}
    (h : Call.ofMethod method arguments = .error e) :
    c.editOrKeep (.call method arguments) = (c, some (.usage e)) := by
  simp only [editOrKeep, edit, editHalfway?, h]
  rfl

/-- A call by name changes neither the dialect nor the name. -/
theorem editOrKeep_keeps (c : Column) (method : String) (arguments : List Value) :
    (c.editOrKeep (.call method arguments)).1.dialect = c.dialect ∧
      (c.editOrKeep (.call method arguments)).1.name = c.name := by
  cases h : Call.ofMethod method arguments with
  | error e =>
    rw [c.editOrKeep_of_usage h]
    exact ⟨rfl, rfl⟩
  | ok call =>
    rcases c.editOrKeep_of_ofMethod h with hok | ⟨⟨e, herror⟩, -⟩
    · rw [hok]
      exact ⟨rfl, rfl⟩
    · rw [herror]
      exact ⟨rfl, rfl⟩

/-- If the name can be written, only the calls that are carried out write anything. -/
theorem afterCalls_eq_carriedOut (c : Column) (hname : c.name.display? = some c.name.display)
    (calls : List (String × List Value)) :
    c.afterCalls calls = (c.carriedOut calls).foldl write c := by
  induction calls generalizing c with
  | nil => rfl
  | cons call calls ih =>
    obtain ⟨method, arguments⟩ := call
    simp only [afterCalls, carriedOut]
    cases h : Call.ofMethod method arguments with
    | error e =>
      rw [c.editOrKeep_of_usage h]
      exact ih c hname
    | ok call =>
      rcases c.editOrKeep_of_ofMethod h with hok | ⟨⟨e, herror⟩, hself⟩
      · rw [hok]
        exact ih (c.write call) hname
      · rw [herror, hself (halfway?_of_display? hname call)]
        exact ih c hname

theorem afterCalls_eq_understood (c : Column) (calls : List (String × List Value)) :
    c.afterCalls calls = (Call.understood calls).foldl write c := by
  induction calls generalizing c with
  | nil => rfl
  | cons call calls ih =>
    obtain ⟨method, arguments⟩ := call
    simp only [afterCalls, Call.understood, ih]
    cases h : Call.ofMethod method arguments with
    | error e =>
      rw [c.editOrKeep_of_usage h, List.filterMap_cons_none (by simp only [h]; rfl)]
    | ok call =>
      rw [List.filterMap_cons_some (b := call) (by simp only [h]; rfl), List.foldl_cons]
      rcases c.editOrKeep_of_ofMethod h with hok | ⟨⟨e, herror⟩, -⟩
      · rw [hok]
      · rw [herror]

/-! ## The rules for the parts -/

section
variable (c : Column) (calls : List Call)

@[simp] theorem dialect_foldl_write : (calls.foldl write c).dialect = c.dialect := by
  induction calls generalizing c with
  | nil => rfl
  | cons call calls ih => exact ih _

@[simp] theorem name_foldl_write : (calls.foldl write c).name = c.name := by
  induction calls generalizing c with
  | nil => rfl
  | cons call calls ih => exact ih _

/-- The last type counts. -/
theorem type_foldl_write : (calls.foldl write c).type =
    (calls.filterMap (Call.type? c.dialect)).getLast?.elim c.type fun t => .str (t.text c.dialect) := by
  induction calls using List.reverseRecOn with
  | nil => rfl
  | append_singleton calls call ih =>
    rw [List.foldl_append, List.filterMap_append, List.getLast?_append]
    show ((call.type? _).elim _ fun t => _) = _
    rw [ih, dialect_foldl_write]
    cases h : call.type? c.dialect <;> simp [h]

theorem raised_write (call : Call) (f : Constraint) : (c.write call).constraints.raised f =
    (c.constraints.raised f || call.raises f) := by
  have hflag (h : f ∉ Constraint.flags) : call.raises f = false := by
    refine Bool.eq_false_iff.2 fun hr => h (call.flags_subset ?_)
    simpa [Call.raises] using hr
  cases f with
  | unsigned | notNull | autoIncrement | unique | primaryKey | index => rfl
  | default | foreignKey | checks => rw [hflag (by decide)]; rfl

/-- A flag that has been raised stays. -/
theorem raised_foldl_write (f : Constraint) : (calls.foldl write c).constraints.raised f =
    (c.constraints.raised f || calls.any (·.raises f)) := by
  induction calls using List.reverseRecOn with
  | nil => simp
  | append_singleton calls call ih =>
    rw [List.foldl_append, List.any_append, ← Bool.or_assoc, ← ih]
    exact (raised_write _ call f).trans (by simp)

/-- The last default counts. -/
theorem default_foldl_write : (calls.foldl write c).constraints.default =
    (calls.filterMap Call.default?).getLast?.or c.constraints.default := by
  induction calls using List.reverseRecOn with
  | nil => rfl
  | append_singleton calls call ih =>
    rw [List.foldl_append, List.filterMap_append, List.getLast?_append]
    show call.default?.or _ = _
    rw [ih]
    cases h : call.default? <;> simp [h]

/-- All conditions are kept, in order. -/
theorem checks_foldl_write : (calls.foldl write c).constraints.checks =
    c.constraints.checks ++ calls.filterMap (Call.check? c.dialect c.name) := by
  induction calls using List.reverseRecOn with
  | nil => simp
  | append_singleton calls call ih =>
    rw [List.foldl_append, List.filterMap_append]
    show _ ++ _ = _
    rw [ih, dialect_foldl_write, name_foldl_write]
    cases h : Call.check? c.dialect c.name call <;> simp [h]

theorem foreignKey_foldl_write : (calls.foldl write c).constraints.foreignKey =
    calls.foldl Call.writeKey c.constraints.foreignKey := by
  induction calls generalizing c with
  | nil => rfl
  | cons call calls ih => exact ih _

end

end Column

/-! ## The parts of a foreign key -/

/-- A part of a foreign key with the calls that say it. -/
structure KeyPart (α : Type) where
  part : ForeignKey → Option α
  said : Call → Option α
  part_new : part {} = none
  part_writeKey : ∀ k call, call.startsKey = false →
    (call.writeKey (some k)).map part = some ((said call).or (part k))

namespace KeyPart

def reference : KeyPart Reference where
  part := ForeignKey.reference
  said := Call.reference?
  part_new := rfl
  part_writeKey k call h := by simp [Call.writeKey, h]

def onDelete : KeyPart ReferentialAction where
  part := ForeignKey.onDelete
  said := Call.onDelete?
  part_new := rfl
  part_writeKey k call h := by simp [Call.writeKey, h]

def onUpdate : KeyPart ReferentialAction where
  part := ForeignKey.onUpdate
  said := Call.onUpdate?
  part_new := rfl
  part_writeKey k call h := by simp [Call.writeKey, h]

section
variable {α : Type} (p : KeyPart α)

/-- A call that starts a foreign key, with nothing said, or that says the part. -/
def writes (call : Call) : Bool := call.startsKey || (p.said call).isSome

/-- What a call makes of the part, where `none` is no foreign key. -/
def write (part : Option (Option α)) (call : Call) : Option (Option α) :=
  if call.startsKey then some none else part.map (p.said call).or

theorem write_eq_self {call : Call} (h : p.writes call = false) (part : Option (Option α)) :
    p.write part call = part := by
  simp only [writes, Bool.or_eq_false_iff, Option.isSome_eq_false_iff,
    Option.isNone_iff_eq_none] at h
  unfold write
  rw [h.1, h.2]
  cases part <;> rfl

theorem map_writeKey (key : Option ForeignKey) (call : Call) :
    (call.writeKey key).map p.part = p.write (key.map p.part) call := by
  cases h : call.startsKey with
  | true => simp [Call.writeKey, write, h, p.part_new]
  | false =>
    cases key with
    | none => simp [Call.writeKey, write, h]
    | some k => rw [p.part_writeKey k call h]; simp [write, h]

/-- A part of a foreign key is written independently of the others. -/
theorem map_foldl_writeKey (key : Option ForeignKey) (calls : List Call) :
    (calls.foldl Call.writeKey key).map p.part = calls.foldl p.write (key.map p.part) :=
  (List.foldl_hom _ fun key call => (p.map_writeKey key call).symm).symm

/-- Only the calls that write a part matter to it. -/
theorem foldl_write_filter (part : Option (Option α)) (calls : List Call) :
    (calls.filter p.writes).foldl p.write part = calls.foldl p.write part := by
  induction calls generalizing part with
  | nil => rfl
  | cons call calls ih =>
    cases h : p.writes call with
    | true => rw [List.filter_cons_of_pos h, List.foldl_cons, List.foldl_cons, ih]
    | false =>
      rw [List.filter_cons_of_neg (by simp [h]), List.foldl_cons, p.write_eq_self h, ih]

/-- **What was said last since the last start counts.** -/
theorem foldl_write_start {before since : List Call} {start : Call}
    (hstart : start.startsKey = true) (h : ∀ call ∈ since, call.startsKey = false)
    (part : Option (Option α)) : (before ++ start :: since).foldl p.write part =
      some (since.filterMap p.said).getLast? := by
  rw [List.foldl_append, List.foldl_cons, write, if_pos hstart]
  induction since using List.reverseRecOn with
  | nil => rfl
  | append_singleton since call ih =>
    obtain ⟨hsince, hcall⟩ := List.forall_mem_append.1 h
    rw [List.foldl_append, ih hsince, List.filterMap_append, List.getLast?_append]
    show p.write _ call = _
    rw [write, hcall call List.mem_cons_self]
    cases hs : p.said call <;> simp [hs]

end

end KeyPart

/-- Foreign keys, or none, that agree in every part. -/
theorem ForeignKey.ext_parts {k l : Option ForeignKey}
    (hreference : k.map (·.reference) = l.map (·.reference))
    (hdelete : k.map (·.onDelete) = l.map (·.onDelete))
    (hupdate : k.map (·.onUpdate) = l.map (·.onUpdate)) : k = l := by
  cases k with
  | none => exact (Option.map_eq_none_iff.1 hreference.symm).symm
  | some k =>
    cases l with
    | none => simp at hreference
    | some l =>
      simp only [Option.map_some, Option.some.injEq] at hreference hdelete hupdate
      obtain ⟨⟩ := k
      obtain ⟨⟩ := l
      simp_all

namespace Call

/-- Nothing can be said of a foreign key that is not started. -/
theorem foldl_writeKey_none {calls : List Call} (h : ∀ call ∈ calls, call.startsKey = false) :
    calls.foldl writeKey none = none := by
  induction calls with
  | nil => rfl
  | cons call calls ih =>
    obtain ⟨hcall, hcalls⟩ := List.forall_mem_cons.1 h
    rw [List.foldl_cons, writeKey, hcall]
    exact ih hcalls

/-- A foreign key is what was said of it since it was last started. -/
theorem foldl_writeKey_start {before since : List Call} {start : Call}
    (hstart : start.startsKey = true) (h : ∀ call ∈ since, call.startsKey = false)
    (key : Option ForeignKey) : (before ++ start :: since).foldl writeKey key = some {
      reference := (since.filterMap reference?).getLast?
      onDelete := (since.filterMap onDelete?).getLast?
      onUpdate := (since.filterMap onUpdate?).getLast? } := by
  have part {α : Type} (p : KeyPart α) :
      ((before ++ start :: since).foldl writeKey key).map p.part =
        some (since.filterMap p.said).getLast? := by
    rw [p.map_foldl_writeKey, p.foldl_write_start hstart h]
  exact ForeignKey.ext_parts (part .reference) (part .onDelete) (part .onUpdate)

/-- A foreign key that has been started has been started last by one of the calls. -/
theorem exists_last_start {calls : List Call} (h : ∃ call ∈ calls, call.startsKey = true) :
    ∃ before start since, calls = before ++ start :: since ∧ start.startsKey = true ∧
      ∀ call ∈ since, call.startsKey = false := by
  induction calls with
  | nil => simp at h
  | cons first calls ih =>
    by_cases hlater : ∃ call ∈ calls, call.startsKey = true
    · obtain ⟨before, start, since, rfl, hstart, hsince⟩ := ih hlater
      exact ⟨first :: before, start, since, rfl, hstart, hsince⟩
    · have hsince : ∀ call ∈ calls, call.startsKey = false := by simpa using hlater
      have hfirst : first.startsKey = true := by simpa [hlater] using h
      exact ⟨[], first, calls, rfl, hfirst, hsince⟩

/-- **Calls that say the same of a column.** Their last type and last default are the same, they raise
the same flags and add the same conditions, and for each part of a foreign key the calls that write
it are the same in the same order. -/
structure Alike (d : Dialect) (name : Value) (calls others : List Call) : Prop where
  type : (calls.filterMap (type? d)).getLast? = (others.filterMap (type? d)).getLast?
  flag : ∀ f, calls.any (·.raises f) = others.any (·.raises f)
  default : (calls.filterMap default?).getLast? = (others.filterMap default?).getLast?
  reference : calls.filter KeyPart.reference.writes = others.filter KeyPart.reference.writes
  onDelete : calls.filter KeyPart.onDelete.writes = others.filter KeyPart.onDelete.writes
  onUpdate : calls.filter KeyPart.onUpdate.writes = others.filter KeyPart.onUpdate.writes
  checks : calls.filterMap (check? d name) = others.filterMap (check? d name)

theorem Alike.foldl_writeKey {d : Dialect} {name : Value} {calls others : List Call}
    (h : Alike d name calls others) (key : Option ForeignKey) :
    calls.foldl writeKey key = others.foldl writeKey key := by
  have part {α : Type} (p : KeyPart α) (hp : calls.filter p.writes = others.filter p.writes) :
      (calls.foldl writeKey key).map p.part = (others.foldl writeKey key).map p.part := by
    rw [p.map_foldl_writeKey, p.map_foldl_writeKey, ← p.foldl_write_filter, hp,
      p.foldl_write_filter]
  exact ForeignKey.ext_parts (part .reference h.reference) (part .onDelete h.onDelete)
    (part .onUpdate h.onUpdate)

/-- Calls that say the same write the same. -/
theorem Alike.foldl_write {c : Column} {calls others : List Call}
    (h : Alike c.dialect c.name calls others) :
    calls.foldl Column.write c = others.foldl Column.write c := by
  have hconstraints :
      (calls.foldl Column.write c).constraints = (others.foldl Column.write c).constraints := by
    apply ColumnConstraints.ext_raised
    · intro f
      rw [Column.raised_foldl_write, Column.raised_foldl_write, h.flag f]
    · rw [Column.default_foldl_write, Column.default_foldl_write, h.default]
    · rw [Column.foreignKey_foldl_write, Column.foreignKey_foldl_write, h.foldl_writeKey]
    · rw [Column.checks_foldl_write, Column.checks_foldl_write, h.checks]
  have htype : (calls.foldl Column.write c).type = (others.foldl Column.write c).type := by
    rw [Column.type_foldl_write, Column.type_foldl_write, h.type]
  have hdialect := (c.dialect_foldl_write calls).trans (c.dialect_foldl_write others).symm
  have hname := (c.name_foldl_write calls).trans (c.name_foldl_write others).symm
  generalize calls.foldl Column.write c = a at *
  generalize others.foldl Column.write c = b at *
  cases a
  cases b
  simp_all

end Call

/-! ## What is seen of the column -/

/-- **What is seen of the column `name` after calls that were carried out.** -/
structure Snapshot.Canonical (d : Dialect) (name : Value) (done : List Call) (s : Snapshot) :
    Prop where
  name_eq : s.name = name
  /-- The last type counts. -/
  type : s.type = (done.filterMap (Call.type? d)).getLast?.elim .none fun t => .str (t.text d)
  flag : ∀ f ∈ Constraint.flags,
    s.constraints.get f = if done.any (·.raises f) then .bool true else .none
  /-- The last default counts. -/
  default : s.constraints.get .default = (done.filterMap Call.default?).getLast?.elim .none .str
  noKey : s.constraints.get .foreignKey = .none ↔ ∀ call ∈ done, call.startsKey = false
  /-- Of each part, what was said last since the last start counts. -/
  key : ∀ before start since, done = before ++ start :: since → start.startsKey = true →
    (∀ call ∈ since, call.startsKey = false) →
    s.constraints.get .foreignKey = ForeignKey.toValue {
      reference := (since.filterMap Call.reference?).getLast?
      onDelete := (since.filterMap Call.onDelete?).getLast?
      onUpdate := (since.filterMap Call.onUpdate?).getLast? }
  checks : s.constraints.get .checks =
    match done.filterMap (Call.check? d name) with
    | [] => .none
    | conditions => .tuple (conditions.map Text.toValue)

/-- A foreign key is seen as what was said of it since it was last started. -/
theorem Column.get_foreignKey_of_start (c : Column) {before since : List Call} {start : Call}
    (hstart : start.startsKey = true) (hsince : ∀ call ∈ since, call.startsKey = false) :
    ((before ++ start :: since).foldl write c).snapshot.constraints.get .foreignKey =
      ForeignKey.toValue {
        reference := (since.filterMap Call.reference?).getLast?
        onDelete := (since.filterMap Call.onDelete?).getLast?
        onUpdate := (since.filterMap Call.onUpdate?).getLast? } := by
  show ((List.foldl write _ _).constraints.foreignKey.map ForeignKey.toValue).getD .none = _
  rw [foreignKey_foldl_write, Call.foldl_writeKey_start hstart hsince]
  rfl

theorem Column.canonical_foldl_write (d : Dialect) (name : Value) (done : List Call) :
    Snapshot.Canonical d name done (done.foldl write { dialect := d, name }).snapshot := by
  refine ⟨name_foldl_write _ done, type_foldl_write _ done, ?_, ?_, ?_, ?_, ?_⟩
  · intro f hf
    refine (ColumnConstraints.get_toSet_flag _ hf).trans ?_
    have hnew : ({ } : ColumnConstraints).raised f = false := by cases f <;> rfl
    rw [raised_foldl_write, hnew, Bool.false_or]
    rfl
  · show ((done.foldl write _).constraints.default.map Value.str).getD .none = _
    rw [default_foldl_write]
    cases (done.filterMap Call.default?).getLast? <;> rfl
  · constructor
    · intro hnone
      by_contra hstarts
      obtain ⟨before, start, since, rfl, hstart, hsince⟩ :=
        Call.exists_last_start (by simpa using hstarts : ∃ call ∈ done, call.startsKey = true)
      rw [get_foreignKey_of_start _ hstart hsince] at hnone
      cases hnone
    · intro h
      show ((done.foldl write _).constraints.foreignKey.map ForeignKey.toValue).getD .none = _
      rw [foreignKey_foldl_write, Call.foldl_writeKey_none h]
      rfl
  · rintro before start since rfl hstart hsince
    exact get_foreignKey_of_start _ hstart hsince
  · show ConstraintSet.checksValue (if (done.foldl write _).constraints.checks.isEmpty then none
      else some ((done.foldl write _).constraints.checks.map Text.toValue)) = _
    rw [checks_foldl_write]
    show ConstraintSet.checksValue (if (done.filterMap (Call.check? d name)).isEmpty then none
      else some ((done.filterMap (Call.check? d name)).map Text.toValue)) = _
    cases done.filterMap (Call.check? d name) <;> rfl

/-- **A column is determined by the calls that were carried out.** It starts with a valid name and
nothing else. After any calls its type is that of the last call that wrote one, a flag is set iff a
call raised it, its default is the last one, its foreign key is what was said of it since it was last
started, and its conditions are all that were added, in order. The same rules hold with the refused
calls left in, since they say nothing: a flag is set iff a call that raises it was made at all. Hence
calls that say the same lead to the same column. -/
theorem snapshot_afterCalls (d : Dialect) (name : Value) (hname : name.isIdentifier = true) :
    ∃ c, Column.newFor (some d) name = .ok c ∧
      (∀ calls, (c.afterCalls calls).dialect = d ∧
        Snapshot.Canonical d name (c.carriedOut calls) (c.afterCalls calls).snapshot ∧
        Snapshot.Canonical d name (Call.understood calls) (c.afterCalls calls).snapshot) ∧
      ∀ calls others, Call.Alike d name (Call.understood calls) (Call.understood others) →
        c.afterCalls calls = c.afterCalls others := by
  have hwritable : name.display? = some name.display := Value.display?_of_isIdentifier hname
  refine ⟨{ dialect := d, name }, ?_, fun calls => ⟨?_, ?_, ?_⟩, fun calls others h => ?_⟩
  · rw [Column.newFor, Column.new, if_pos hname]
    rfl
  · rw [Column.afterCalls_eq_carriedOut _ hwritable, Column.dialect_foldl_write]
  · rw [Column.afterCalls_eq_carriedOut _ hwritable]
    exact Column.canonical_foldl_write d name _
  · rw [Column.afterCalls_eq_understood]
    exact Column.canonical_foldl_write d name _
  · rw [Column.afterCalls_eq_understood, Column.afterCalls_eq_understood, h.foldl_write]

/-- Calls of which some are refused, and of which some undo others. -/
def tangledCalls : List (String × List Value) := [
  ("on_delete", [.action .cascade]),
  ("fk", []),
  ("references", [.str "users", .str "id"]),
  ("enum", [.str "new", .str "sold"]),
  ("char", [.int 300]),
  ("foreign_key", []),
  ("on_update", [.action .setNull]),
  ("ref", [.str "shops", .str "id"]),
  ("index", [.bool true]),
  ("check", [.str "shop <> ''"])]

/-- The calls of `tangledCalls` that are understood, in an order of their own. -/
def orderedCalls : List (String × List Value) := [
  ("on_delete", [.action .cascade]),
  ("fk", []),
  ("references", [.str "users", .str "id"]),
  ("foreign_key", []),
  ("ref", [.str "shops", .str "id"]),
  ("on_update", [.action .setNull]),
  ("enum", [.str "new", .str "sold"]),
  ("check", [.str "shop <> ''"]),
  ("char", [.int 300])]

theorem snapshot_afterCalls_tangledCalls :
    (Value.str "shop").isIdentifier = true ∧
      ∃ c, Column.newFor (some .postgresql) (.str "shop") = .ok c ∧
        (c.afterCalls tangledCalls).snapshot.type = .str "VARCHAR" ∧
        (c.afterCalls tangledCalls).snapshot.constraints.get .unsigned = .bool true ∧
        (c.afterCalls tangledCalls).snapshot.constraints.get .index = .none ∧
        (c.afterCalls tangledCalls).snapshot.constraints.get .foreignKey =
          .foreignKey (.reference (.str "shops") (.str "id")) .none (.action .setNull) ∧
        (c.afterCalls tangledCalls).snapshot.constraints.get .checks =
          .tuple [.str "shop IN ('new', 'sold')", .str "shop <> ''"] ∧
        c.afterCalls tangledCalls = c.afterCalls orderedCalls := by
  have hname : (Value.str "shop").isIdentifier = true := by decide
  obtain ⟨c, hc, hcanonical, halike⟩ := snapshot_afterCalls .postgresql (.str "shop") hname
  have hdone : c.carriedOut tangledCalls = [.fk, .references (.str "users") (.str "id"),
      .enum [.str "new", .str "sold"], .foreignKey, .onUpdate (.action .setNull),
      .references (.str "shops") (.str "id"), .check (.str "shop <> ''")] := by
    cases hc
    rfl
  have h := (hcanonical tangledCalls).2.1
  rw [hdone] at h
  have hordered : Call.Alike .postgresql (.str "shop") (Call.understood tangledCalls)
      (Call.understood orderedCalls) :=
    ⟨rfl, fun f => by cases f <;> rfl, rfl, rfl, rfl, rfl, rfl⟩
  exact ⟨hname, c, hc, h.type, h.flag .unsigned (by decide), h.flag .index (by decide),
    h.key [_, _, _] .foreignKey _ rfl rfl (by simp [Call.startsKey]), h.checks,
    halike _ _ hordered⟩

end TableDdl
