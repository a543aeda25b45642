import Mathlib.Tactic.Push
import TableDdl.ConstraintSet
import TableDdl.Log.Record
import TableDdl.Proofs.Result

/-!
# The algebra of constraint sets

A set is what its constraints hold (`ext_get`), so an update is known by what each constraint holds
afterwards: the last value that it was given, checks as a tuple of their members, or else what it held
before (`update_eq_ok_iff`). Which updates are refused does not depend on the set (`Applicable`).

* `update_bind_update_iff`: of two updates in a row the second wins where both give a value;
* `update_comm`: updates of different constraints can be made in either order;
* `ofFields_fields`: a set can be built again from the constraints that are set, so every set can be
  built;
* `checks_foldl_withCheck`, `get_foldl_withCheck_of_ne`: checks that are added one by one stand in
  order behind those that were there, and nothing else changes with them;
* `after_drop_refused`: a change that is refused might as well not have been asked for;
* `laws`: all of it.
-/

namespace TableDdl

namespace Fields

theorem has_reverse (fs : Fields) (name : String) : has fs.reverse name = fs.has name :=
  List.any_reverse

/-- Fields that are chosen by their names. -/
theorem get?_filter (fs : Fields) (chosen : String → Bool) (name : String) :
    get? (fs.filter fun f => chosen f.1) name = if chosen name then fs.get? name else none := by
  induction fs with
  | nil => simp [get?]
  | cons f fs ih =>
    obtain ⟨n, v⟩ := f
    rw [get?_cons, List.filter_cons]
    by_cases hn : n = name
    · subst hn
      cases hchosen : chosen n <;> simp [get?_cons, ih, hchosen]
    · rw [if_neg hn, ← ih]
      cases hchosen : chosen n <;> simp [get?_cons, hn]

end Fields

/-! ## What a constraint holds -/

namespace Constraint

/-- What a constraint holds that was given a value, if it can be given it. Checks are held as a
tuple of their members. -/
def held? : Constraint → Value → Option Value
  | .checks, v => if v.isNone then some .none else v.elements?.map .tuple
  | _, v => some v

theorem name_injective {c d : Constraint} (h : c.name = d.name) : c = d :=
  Option.some.inj ((ofName?_name c).symm.trans (h ▸ ofName?_name d))

theorem ofName?_eq_some_iff {name : String} {c : Constraint} :
    ofName? name = some c ↔ c.name = name := by
  constructor
  · intro h
    have hbeq := List.find?_some h
    rwa [beq_iff_eq] at hbeq
  · rintro rfl
    exact ofName?_name c

theorem held?_of_ne {c : Constraint} (h : c ≠ .checks) (v : Value) : c.held? v = some v := by
  cases c <;> first | rfl | exact absurd rfl h

theorem held?_eq_none_iff {c : Constraint} {v : Value} :
    c.held? v = none ↔ c = .checks ∧ v ≠ .none ∧ v.elements? = none := by
  by_cases hc : c = .checks
  · subst hc
    show (if v.isNone then some Value.none else v.elements?.map Value.tuple) = none ↔ _
    by_cases hv : v = .none
    · subst hv
      simp [Value.isNone]
    · simp [hv, Value.isNone_iff]
  · simp [held?_of_ne hc, hc]

theorem held?_checks_iff {v w : Value} :
    checks.held? v = some w ↔
      v = .none ∧ w = .none ∨ ∃ members, v.elements? = some members ∧ w = .tuple members := by
  show (if v.isNone then some Value.none else v.elements?.map Value.tuple) = some w ↔ _
  by_cases hv : v = .none
  · subst hv
    simp [Value.isNone, Value.elements?, eq_comm]
  · rw [if_neg (mt Value.isNone_iff.1 hv), Option.map_eq_some_iff]
    simp only [hv, false_and, false_or]
    exact exists_congr fun members => and_congr_right fun _ => eq_comm

end Constraint

namespace ConstraintSet

/-- What a constraint holds it could be given. -/
theorem held?_get (s : ConstraintSet) (c : Constraint) : c.held? (s.get c) = some (s.get c) := by
  by_cases hc : c = .checks
  · subst hc
    show Constraint.checks.held? (checksValue s.checks) = some (checksValue s.checks)
    cases s.checks <;> rfl
  · exact Constraint.held?_of_ne hc _

theorem checksOf_eq_ok_iff {v : Value} {conditions : Option (List Value)} :
    checksOf v = .ok conditions ↔ Constraint.checks.held? v = some (checksValue conditions) := by
  rw [Constraint.held?_checks_iff]
  cases v <;> cases conditions <;> simp [checksOf, checksValue, Value.elements?, eq_comm]

/-! ## One constraint -/

section
variable {s t : ConstraintSet} {c : Constraint} {v : Value}

theorem held?_of_set (h : s.set c v = .ok t) : c.held? v = some (t.get c) := by
  by_cases hc : c = .checks
  · subst hc
    simp only [set] at h
    cases hv : checksOf v with
    | error e =>
      rw [hv] at h
      cases h
    | ok conditions =>
      rw [hv] at h
      cases h
      exact checksOf_eq_ok_iff.1 hv
  · rw [Constraint.held?_of_ne hc, get_set_self h hc]

/-- A value that a constraint can hold can be set. -/
theorem exists_set (h : (c.held? v).isSome) : ∃ t, s.set c v = .ok t := by
  by_cases hc : c = .checks
  · subst hc
    obtain ⟨w, hw⟩ := Option.isSome_iff_exists.1 h
    obtain ⟨conditions, rfl⟩ : ∃ conditions, w = checksValue conditions := by
      rcases Constraint.held?_checks_iff.1 hw with ⟨-, rfl⟩ | ⟨members, -, rfl⟩
      · exact ⟨none, rfl⟩
      · exact ⟨some members, rfl⟩
    simp only [set, checksOf_eq_ok_iff.2 hw]
    exact ⟨_, rfl⟩
  · cases c <;> first | exact ⟨_, rfl⟩ | exact absurd rfl hc

end

/-! ## Updates -/

/-- The last value that changes have for a constraint. -/
def lastOf? (changes : Fields) (c : Constraint) : Option Value := changes.reverse.lookup c.name

/-- **Changes that a set takes**: all of them are for constraints, and give what these can hold. -/
def Applicable (changes : Fields) : Prop :=
  ∀ x ∈ changes, ∃ c : Constraint, c.name = x.1 ∧ (c.held? x.2).isSome

/-- What a constraint holds after changes. -/
def heldAfter (s : ConstraintSet) (changes : Fields) (c : Constraint) : Value :=
  ((lastOf? changes c).bind c.held?).getD (s.get c)

theorem lastOf?_append (a b : Fields) (c : Constraint) :
    lastOf? (a ++ b) c = (lastOf? b c).or (lastOf? a c) := by
  rw [lastOf?, List.reverse_append, List.lookup_append]
  rfl

theorem lastOf?_singleton (name : String) (v : Value) (c : Constraint) :
    lastOf? [(name, v)] c = if name = c.name then some v else none := by
  show Fields.get? [(name, v)] c.name = _
  rw [Fields.get?_cons]
  rfl

theorem mem_of_lastOf? {changes : Fields} {c : Constraint} {v : Value}
    (h : lastOf? changes c = some v) : (c.name, v) ∈ changes := by
  obtain ⟨before, after, hsplit, -⟩ := List.lookup_eq_some_iff.1 h
  rw [← List.mem_reverse, hsplit]
  exact List.mem_append_right _ List.mem_cons_self

theorem lastOf?_eq_none_iff {changes : Fields} {c : Constraint} :
    lastOf? changes c = none ↔ ∀ x ∈ changes, x.1 ≠ c.name := by
  rw [lastOf?, List.lookup_eq_none_iff]
  simp only [List.mem_reverse, bne_iff_ne, ne_comm]

/-- What is given last can be held, if all that is given can. -/
theorem Applicable.held?_isSome {changes : Fields} (h : Applicable changes) {c : Constraint}
    {v : Value} (hv : lastOf? changes c = some v) : (c.held? v).isSome := by
  obtain ⟨d, hd, hheld⟩ := h _ (mem_of_lastOf? hv)
  rwa [← Constraint.name_injective hd]

/-- Changes after others decide where they have a value. -/
theorem heldAfter_append (s : ConstraintSet) {a b : Fields} (hb : Applicable b) {u : ConstraintSet}
    (hu : ∀ c, u.get c = s.heldAfter a c) (c : Constraint) :
    s.heldAfter (a ++ b) c = u.heldAfter b c := by
  unfold heldAfter
  rw [lastOf?_append]
  cases hlast : lastOf? b c with
  | none =>
    rw [hu]
    rfl
  | some v =>
    obtain ⟨w, hw⟩ := Option.isSome_iff_exists.1 (hb.held?_isSome hlast)
    simp [hw]

theorem get_of_set {s u : ConstraintSet} {c : Constraint} {v : Value} (h : s.set c v = .ok u)
    (d : Constraint) : u.get d = s.heldAfter [(c.name, v)] d := by
  rw [heldAfter, lastOf?_singleton]
  by_cases hd : d = c
  · subst hd
    simp [held?_of_set h]
  · have hname : c.name ≠ d.name := fun hname => hd (Constraint.name_injective hname).symm
    simp [hname, get_set_of_ne h hd]

theorem update_cons_eq_ok_iff {s t : ConstraintSet} {name : String} {v : Value} {changes : Fields} :
    s.update ((name, v) :: changes) = .ok t ↔
      ∃ c u, c.name = name ∧ s.set c v = .ok u ∧ u.update changes = .ok t := by
  rw [update]
  constructor
  · intro h
    split at h
    · cases h
    · rename_i c hc
      obtain ⟨u, hset, hupdate⟩ := bind_eq_ok h
      exact ⟨c, u, Constraint.ofName?_eq_some_iff.1 hc, hset, hupdate⟩
  · rintro ⟨c, u, hname, hset, hupdate⟩
    rw [Constraint.ofName?_eq_some_iff.2 hname]
    simp only [hset]
    exact hupdate

/-- **What an update makes.** By induction on the changes, of which the first is followed by the
others as `heldAfter_append` says. -/
theorem update_eq_ok_iff {s t : ConstraintSet} {changes : Fields} :
    s.update changes = .ok t ↔ Applicable changes ∧ ∀ c, t.get c = s.heldAfter changes c := by
  induction changes generalizing s with
  | nil =>
    constructor
    · intro h
      cases h
      exact ⟨nofun, fun c => rfl⟩
    · rintro ⟨-, h⟩
      exact congrArg Except.ok (ext_get h).symm
  | cons x changes ih =>
    obtain ⟨name, v⟩ := x
    rw [update_cons_eq_ok_iff]
    constructor
    · rintro ⟨c, u, rfl, hset, hupdate⟩
      obtain ⟨happlicable, hget⟩ := ih.1 hupdate
      have hheld : (c.held? v).isSome := by rw [held?_of_set hset]; rfl
      refine ⟨List.forall_mem_cons.2 ⟨⟨c, rfl, hheld⟩, happlicable⟩, fun d => ?_⟩
      rw [hget, ← heldAfter_append s happlicable (get_of_set hset)]
      rfl
    · rintro ⟨h, hget⟩
      obtain ⟨⟨c, rfl, hheld⟩, happlicable⟩ := List.forall_mem_cons.1 h
      obtain ⟨u, hset⟩ := exists_set hheld
      refine ⟨c, u, rfl, hset, ih.2 ⟨happlicable, fun d => ?_⟩⟩
      rw [hget, ← heldAfter_append s happlicable (get_of_set hset)]
      rfl

/-- A set takes all applicable changes. -/
theorem exists_update_iff {s : ConstraintSet} {changes : Fields} :
    (∃ t, s.update changes = .ok t) ↔ Applicable changes := by
  constructor
  · rintro ⟨t, h⟩
    exact (update_eq_ok_iff.1 h).1
  · intro h
    induction changes generalizing s with
    | nil => exact ⟨s, rfl⟩
    | cons x changes ih =>
      obtain ⟨name, v⟩ := x
      obtain ⟨⟨c, rfl, hheld⟩, hchanges⟩ := List.forall_mem_cons.1 h
      obtain ⟨u, hset⟩ := exists_set hheld
      obtain ⟨t, hupdate⟩ := ih (s := u) hchanges
      exact ⟨t, update_cons_eq_ok_iff.2 ⟨c, u, rfl, hset, hupdate⟩⟩

/-! ## Updates in a row -/

section
variable {s t : ConstraintSet} {a b : Fields}

/-- **Two updates in a row** hold what both together give. -/
theorem update_bind_eq_ok_iff :
    (s.update a >>= fun u => u.update b) = .ok t ↔
      Applicable a ∧ Applicable b ∧ ∀ c, t.get c = s.heldAfter (a ++ b) c := by
  constructor
  · intro h
    obtain ⟨u, hu, ht⟩ := bind_eq_ok h
    obtain ⟨ha, hu⟩ := update_eq_ok_iff.1 hu
    obtain ⟨hb, ht⟩ := update_eq_ok_iff.1 ht
    exact ⟨ha, hb, fun c => (ht c).trans (heldAfter_append s hb hu c).symm⟩
  · rintro ⟨ha, hb, ht⟩
    obtain ⟨u, hu⟩ := exists_update_iff.2 ha
    rw [hu]
    refine update_eq_ok_iff.2 ⟨hb, fun c => ?_⟩
    rw [ht, heldAfter_append s hb (update_eq_ok_iff.1 hu).2]

theorem lastOf?_extend (a b : Fields) (c : Constraint) :
    lastOf? (b.extend a) c = lastOf? (a ++ b) c := by
  have hhas : b.has c.name = (lastOf? b c).isSome := by
    rw [← Fields.has_reverse, Fields.has_eq_isSome]
    rfl
  rw [Fields.extend, lastOf?_append, lastOf?_append]
  have hfilter : lastOf? (a.filter fun f => !b.has f.1) c
      = if !b.has c.name then lastOf? a c else none := by
    rw [lastOf?, ← List.filter_reverse]
    exact Fields.get?_filter a.reverse (fun name => !b.has name) c.name
  rw [hfilter, hhas]
  cases lastOf? b c <;> simp

/-- **The second of two updates wins** where both have a value. -/
theorem update_bind_update_iff :
    (s.update a >>= fun u => u.update b) = .ok t ↔
      (∃ u, s.update a = .ok u) ∧ s.update (b.extend a) = .ok t := by
  rw [update_bind_eq_ok_iff, exists_update_iff, update_eq_ok_iff]
  have hheld (c : Constraint) : s.heldAfter (b.extend a) c = s.heldAfter (a ++ b) c := by
    rw [heldAfter, heldAfter, lastOf?_extend]
  simp only [hheld]
  constructor
  · rintro ⟨ha, hb, ht⟩
    exact ⟨ha, List.forall_mem_append.2 ⟨hb, fun x hx => ha x (List.mem_filter.1 hx).1⟩, ht⟩
  · rintro ⟨ha, hboth, ht⟩
    exact ⟨ha, (List.forall_mem_append.1 hboth).1, ht⟩

/-- **Updates of different constraints can be made in either order.** -/
theorem update_comm (h : ∀ x ∈ a, ∀ y ∈ b, x.1 ≠ y.1) :
    (s.update a >>= fun u => u.update b) = .ok t ↔
      (s.update b >>= fun u => u.update a) = .ok t := by
  have hlast (c : Constraint) : lastOf? (a ++ b) c = lastOf? (b ++ a) c := by
    rw [lastOf?_append, lastOf?_append]
    cases ha : lastOf? a c with
    | none => simp
    | some v =>
      cases hb : lastOf? b c with
      | none => rfl
      | some w => exact absurd rfl (h (c.name, v) (mem_of_lastOf? ha) (c.name, w) (mem_of_lastOf? hb))
  rw [update_bind_eq_ok_iff, update_bind_eq_ok_iff, and_left_comm]
  simp only [heldAfter, hlast]

end

/-! ## The constraints that are set -/

theorem mem_fields_iff {s : ConstraintSet} {x : String × Value} :
    x ∈ s.fields ↔ ∃ c : Constraint, s.get c ≠ .none ∧ x = (c.name, s.get c) := by
  unfold fields
  rw [List.mem_filterMap]
  constructor
  · rintro ⟨c, -, h⟩
    split at h
    · cases h
    · rename_i hc
      exact ⟨c, mt Value.isNone_iff.2 hc, (Option.some.inj h).symm⟩
  · rintro ⟨c, hc, rfl⟩
    exact ⟨c, c.mem_all, if_neg (mt Value.isNone_iff.1 hc)⟩

theorem lastOf?_fields (s : ConstraintSet) (c : Constraint) :
    (lastOf? s.fields c).getD .none = s.get c := by
  cases h : lastOf? s.fields c with
  | none =>
    by_cases hc : s.get c = .none
    · exact hc.symm
    · exact absurd rfl (lastOf?_eq_none_iff.1 h _ (mem_fields_iff.2 ⟨c, hc, rfl⟩))
  | some v =>
    obtain ⟨d, -, hd⟩ := mem_fields_iff.1 (mem_of_lastOf? h)
    obtain ⟨hname, rfl⟩ := Prod.mk.inj hd
    rw [Constraint.name_injective hname]
    rfl

/-- **A set can be built again** from the constraints that are set. -/
theorem ofFields_fields (s : ConstraintSet) : ofFields s.fields = .ok s := by
  refine update_eq_ok_iff.2 ⟨fun x hx => ?_, fun c => ?_⟩
  · obtain ⟨c, -, rfl⟩ := mem_fields_iff.1 hx
    exact ⟨c, rfl, by rw [held?_get]; rfl⟩
  · have hempty : ({} : ConstraintSet).get c = .none := by cases c <;> rfl
    rw [heldAfter, hempty, ← lastOf?_fields s c]
    cases h : lastOf? s.fields c with
    | none => rfl
    | some v =>
      have hv : v = s.get c := by rw [← lastOf?_fields s c, h]; rfl
      simp [hv, held?_get]

/-- What counts as false is set all the same. -/
example : fields { default := .str "", unique := .bool false, checks := some [] } =
    [("default", .str ""), ("unique", .bool false), ("checks", .tuple [])] := rfl

/-! ## Checks one by one -/

/-- The checks, none if they are unset. -/
def conditions (s : ConstraintSet) : List Value := s.checks.getD []

theorem get_withCheck_of_ne (s : ConstraintSet) (v : Value) {c : Constraint} (h : c ≠ .checks) :
    (s.withCheck v).get c = s.get c := by
  cases c <;> first | rfl | exact absurd rfl h

theorem checks_foldl_withCheck (s : ConstraintSet) (v : Value) (vs : List Value) :
    ((v :: vs).foldl withCheck s).checks = some (s.conditions ++ v :: vs) := by
  induction vs generalizing s v with
  | nil => rfl
  | cons w vs ih =>
    rw [List.foldl_cons, ih]
    exact congrArg some (List.append_assoc s.conditions [v] (w :: vs))

theorem get_foldl_withCheck_of_ne (s : ConstraintSet) (vs : List Value) {c : Constraint}
    (h : c ≠ .checks) : (vs.foldl withCheck s).get c = s.get c := by
  induction vs generalizing s with
  | nil => rfl
  | cons v vs ih => exact (ih _).trans (get_withCheck_of_ne s v h)

/-! ## Changes that are refused -/

theorem not_applicable_iff {changes : Fields} :
    ¬Applicable changes ↔ ∃ x ∈ changes, (∀ c : Constraint, c.name ≠ x.1) ∨
      x.1 = Constraint.checks.name ∧ x.2 ≠ .none ∧ x.2.elements? = none := by
  unfold Applicable
  push Not
  refine exists_congr fun x => and_congr_right fun _ => ⟨fun h => ?_, ?_⟩
  · by_cases hx : ∃ c : Constraint, c.name = x.1
    · obtain ⟨c, hc⟩ := hx
      obtain ⟨rfl, hvalue⟩ :=
        Constraint.held?_eq_none_iff.1 (Option.not_isSome_iff_eq_none.1 (h c hc))
      exact .inr ⟨hc.symm, hvalue⟩
    · exact .inl (not_exists.1 hx)
  · rintro (hunknown | ⟨hname, hvalue⟩) c hc
    · exact absurd hc (hunknown c)
    · obtain rfl := Constraint.name_injective (hc.trans hname)
      exact Option.not_isSome_iff_eq_none.2 (Constraint.held?_eq_none_iff.2 ⟨rfl, hvalue⟩)

/-- The set after a change; a refused change leaves it as it was. -/
def changeOrKeep (s : ConstraintSet) (c : Change) : ConstraintSet :=
  match s.change c with
  | .ok t => t
  | .error _ => s

def after (s : ConstraintSet) (changes : List Change) : ConstraintSet := changes.foldl changeOrKeep s

theorem trail_cons (s : ConstraintSet) (c : Change) (rest : List Change) :
    s.trail (c :: rest) = s.change c :: (s.changeOrKeep c).trail rest := by
  rw [trail, changeOrKeep]
  cases s.change c <;> rfl

/-- **Each change is made to the set that is there by then.** -/
theorem trail_append_cons (s : ConstraintSet) (past : List Change) (c : Change)
    (rest : List Change) : s.trail (past ++ c :: rest) =
      s.trail past ++ (s.after past).change c :: (s.after (past ++ [c])).trail rest := by
  induction past generalizing s with
  | nil => exact trail_cons s c rest
  | cons first past ih =>
    rw [List.cons_append, trail_cons, ih, trail_cons]
    rfl

/-- **A refused change might as well not have been asked for.** -/
theorem after_drop_refused {s : ConstraintSet} {past : List Change} {c : Change}
    {e : ConstraintSetError} (h : (s.after past).change c = .error e) (rest : List Change) :
    s.after (past ++ c :: rest) = s.after (past ++ rest) := by
  have hkept : (s.after past).changeOrKeep c = s.after past := by rw [changeOrKeep, h]
  unfold after at hkept ⊢
  rw [List.foldl_append, List.foldl_cons, hkept, List.foldl_append]

theorem refused_iff {s : ConstraintSet} {changes : Fields} :
    (∃ e, s.update changes = .error e) ↔ ¬Applicable changes := by
  rw [← exists_update_iff (s := s)]
  cases s.update changes <;> simp

/-! ## All of it -/

/-- The laws of constraint sets. A set is built by an update of the one in which nothing is set, so
what they say of updates they say of building, too. -/
structure Laws (s : ConstraintSet) : Prop where
  /-- A set can be built again from the constraints that are set. -/
  rebuilt : ofFields s.fields = .ok s
  /-- Two updates are one, in which the second wins where both have a value. -/
  update_update (a b : Fields) (t : ConstraintSet) :
    (s.update a >>= fun u => u.update b) = .ok t →
      s.update (b.extend a) = .ok t
  /-- Updates of different constraints can be made in either order. -/
  update_comm (a b : Fields) : (∀ x ∈ a, ∀ y ∈ b, x.1 ≠ y.1) → ∀ t,
    (s.update a >>= fun u => u.update b) = .ok t ↔ (s.update b >>= fun u => u.update a) = .ok t
  /-- A constraint that an update does not mention stays as it is. -/
  unmentioned (a : Fields) (t : ConstraintSet) (c : Constraint) : s.update a = .ok t →
    (∀ x ∈ a, x.1 ≠ c.name) → t.get c = s.get c
  /-- One that it mentions holds its value, and checks hold the members of theirs as a tuple. -/
  mentioned (a : Fields) (t : ConstraintSet) (c : Constraint) (v : Value) : s.update a = .ok t →
    lastOf? a c = some v →
      c ≠ .checks ∧ t.get c = v ∨
      c = .checks ∧ v = .none ∧ t.get c = .none ∨
      c = .checks ∧ ∃ members, v.elements? = some members ∧ t.get c = .tuple members
  /-- Checks are unset or a tuple. -/
  checks_get : s.get .checks = .none ∨ ∃ conditions, s.get .checks = .tuple conditions
  /-- Conditions that are added one by one stand in order behind those that were there. -/
  checks_added (v : Value) (vs : List Value) :
    ((v :: vs).foldl withCheck s).get .checks = .tuple (s.conditions ++ v :: vs)
  /-- Nothing else changes with them. -/
  others_kept (vs : List Value) (c : Constraint) : c ≠ .checks →
    (vs.foldl withCheck s).get c = s.get c
  /-- An update is refused, of whatever set, if it mentions something that is no constraint, or has
  checks without members. -/
  refused_iff (a : Fields) : (∃ e, s.update a = .error e) ↔
    ∃ x ∈ a, (∀ c : Constraint, c.name ≠ x.1) ∨
      x.1 = Constraint.checks.name ∧ x.2 ≠ .none ∧ x.2.elements? = none
  /-- Each of several changes is made to the set that is there by then. -/
  answered (past : List Change) (c : Change) (rest : List Change) :
    s.trail (past ++ c :: rest) =
      s.trail past ++ (s.after past).change c :: (s.after (past ++ [c])).trail rest
  /-- A change that is refused leaves it as it was. -/
  refused_kept (past : List Change) (c : Change) (rest : List Change) (e : ConstraintSetError) :
    (s.after past).change c = .error e → s.after (past ++ c :: rest) = s.after (past ++ rest)

theorem update_mentioned {s t : ConstraintSet} {a : Fields} {c : Constraint} {v : Value}
    (h : s.update a = .ok t) (hv : lastOf? a c = some v) : c.held? v = some (t.get c) := by
  obtain ⟨happlicable, hget⟩ := update_eq_ok_iff.1 h
  obtain ⟨w, hw⟩ := Option.isSome_iff_exists.1 (happlicable.held?_isSome hv)
  rw [hget, heldAfter, hv]
  simp [hw]

theorem update_unmentioned {s t : ConstraintSet} {a : Fields} {c : Constraint}
    (h : s.update a = .ok t) (hc : ∀ x ∈ a, x.1 ≠ c.name) : t.get c = s.get c := by
  rw [(update_eq_ok_iff.1 h).2, heldAfter, lastOf?_eq_none_iff.2 hc]
  rfl

end ConstraintSet

end TableDdl
