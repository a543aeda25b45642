import TableDdl.Proofs.Column.Canonical

/-!
# Overwritten types

Of the types that calls choose for a column the last one counts, so it looks as if the calls that
only choose a type could be left out where another type is chosen later.
`Column.withoutOverwritten` leaves them out, and `Column.overwritten` lists them.

* `understood_withoutOverwritten`: what is left and what is left out can be read off the calls,
  without following the column (`Call.kept`, `Call.dropped`), since a call that chooses a type is
  refused for its arguments only (`any_choosesType_carriedOut`);
* `lacksChecks_withoutOverwritten`: the columns after all calls and after those that are left have
  everything in common but checks. Those that are missing stand in for enumerations, in a dialect
  that has no type for them, and stay behind when another type is chosen (`leftovers`);
* `LacksChecks.eq_iff`, `leftovers_eq_nil_iff`: so the columns are the same iff the dialect has
  enumerations of its own or none is overwritten.
-/

namespace TableDdl

namespace Call

/-- A call that chooses a type and does nothing else. -/
def isTypeCall : Call → Bool
  | .simple _ | .decimal .. | .char _ | .varchar _ | .enum _ | .ip | .uuid => true
  | _ => false

/-- A call that chooses a type, whatever else it does. -/
def choosesType : Call → Bool
  | .pk | .fk => true
  | call => call.isTypeCall

/-- A call that chooses an enumeration. -/
def isEnum : Call → Bool
  | .enum _ => true
  | _ => false

section
variable (d : Dialect) (name : Value)

/-- A call on the column `name` that chooses a type and is carried out. An enumeration that needs a
check is not, if the name cannot be written in the check. -/
def setsType (call : Call) : Bool :=
  (call.type? d).isSome && (!call.isEnum || d.nativeEnum || name.display?.isSome)

/-- A call that sets a type and does nothing else. -/
def isTypeWrite (call : Call) : Bool := call.isTypeCall && call.setsType d name

end

theorem type?_of_not_choosesType {call : Call} (h : call.choosesType = false) (d : Dialect) :
    call.type? d = none := by
  cases call <;> first | rfl | cases h

theorem choosesType_of_isTypeCall {call : Call} (h : call.isTypeCall = true) :
    call.choosesType = true := by
  cases call <;> first | rfl | cases h

/-! ## Overwritten types -/

section
variable (d : Dialect) (name : Value)

/-- The calls without those whose only effect is on a type that is overwritten later. -/
def kept : List Call → List Call
  | [] => []
  | call :: calls =>
    if call.isTypeWrite d name && calls.any (·.setsType d name) then kept calls
    else call :: kept calls

/-- The calls that `kept` leaves out. -/
def dropped : List Call → List Call
  | [] => []
  | call :: calls =>
    if call.isTypeWrite d name && calls.any (·.setsType d name) then call :: dropped calls
    else dropped calls

theorem kept_sublist (calls : List Call) : (kept d name calls).Sublist calls := by
  induction calls with
  | nil => exact .slnil
  | cons call calls ih =>
    unfold kept
    split
    · exact ih.cons call
    · exact ih.cons_cons call

theorem perm_kept_dropped (calls : List Call) :
    calls.Perm (kept d name calls ++ dropped d name calls) := by
  induction calls with
  | nil => exact .nil
  | cons call calls ih =>
    unfold kept dropped
    split
    · exact (ih.cons call).trans List.perm_middle.symm
    · exact ih.cons call

theorem isTypeWrite_of_mem_dropped {calls : List Call} {call : Call} (h : call ∈ dropped d name calls) :
    call.isTypeWrite d name = true := by
  induction calls with
  | nil => cases h
  | cons first calls ih =>
    unfold dropped at h
    split at h
    · rename_i hfirst
      rcases List.mem_cons.1 h with rfl | h
      · exact (Bool.and_eq_true_iff.1 hfirst).1
      · exact ih h
    · exact ih h

/-- A type is left to be written last. -/
theorem getLast?_type_kept (calls : List Call) :
    ((kept d name calls).filterMap (type? d)).getLast? = (calls.filterMap (type? d)).getLast? := by
  induction calls with
  | nil => rfl
  | cons call calls ih =>
    have hcons : ∀ rest : List Call, ((call :: rest).filterMap (type? d)).getLast? =
        ((rest.filterMap (type? d)).getLast?).or (call.type? d) := by
      intro rest
      rw [List.filterMap_cons]
      cases call.type? d <;> simp [List.getLast?_cons]
    unfold kept
    split
    · rename_i h
      obtain ⟨later, hmem, hlater⟩ := List.any_eq_true.1 (Bool.and_eq_true_iff.1 h).2
      obtain ⟨t, ht⟩ := Option.isSome_iff_exists.1 (Bool.and_eq_true_iff.1 hlater).1
      have hne : calls.filterMap (type? d) ≠ [] :=
        List.ne_nil_of_mem (List.mem_filterMap.2 ⟨later, hmem, ht⟩)
      rw [ih, hcons, List.getLast?_eq_some_getLast hne]
      rfl
    · rw [hcons, hcons, ih]

end

end Call

theorem Call.understood_cons_of_ok {method : String} {arguments : List Value} {call : Call}
    (h : Call.ofMethod method arguments = .ok call) (calls : List (String × List Value)) :
    Call.understood ((method, arguments) :: calls) = call :: Call.understood calls :=
  List.filterMap_cons_some (by simp only [h]; rfl)

theorem Call.understood_cons_of_error {method : String} {arguments : List Value} {e : UsageError}
    (h : Call.ofMethod method arguments = .error e) (calls : List (String × List Value)) :
    Call.understood ((method, arguments) :: calls) = Call.understood calls :=
  List.filterMap_cons_none (by simp only [h]; rfl)

namespace Column

/-- The call that a call by name stands for, if it is carried out. -/
def done? (c : Column) (method : String) (arguments : List Value) : Option Call :=
  match Call.ofMethod method arguments, (c.editOrKeep (.call method arguments)).2 with
  | .ok call, none => some call
  | _, _ => none

/-- The call that a call by name stands for, if it only chooses a type and a later one of the given
calls chooses another. -/
def overwritten? (c : Column) (method : String) (arguments : List Value)
    (later : List (String × List Value)) : Option Call :=
  let next := (c.editOrKeep (.call method arguments)).1
  (c.done? method arguments).filter fun call =>
    call.isTypeCall && (next.carriedOut later).any Call.choosesType

/-- **The calls without the overwritten types.** -/
def withoutOverwritten (c : Column) : List (String × List Value) → List (String × List Value)
  | [] => []
  | (method, arguments) :: calls =>
    let rest := (c.editOrKeep (.call method arguments)).1.withoutOverwritten calls
    match c.overwritten? method arguments calls with
    | some _ => rest
    | none => (method, arguments) :: rest

/-- The calls that `withoutOverwritten` leaves out. -/
def overwritten (c : Column) : List (String × List Value) → List Call
  | [] => []
  | (method, arguments) :: calls =>
    (c.overwritten? method arguments calls).toList
      ++ (c.editOrKeep (.call method arguments)).1.overwritten calls

/-- A call that chooses a type is carried out iff it sets one. -/
theorem isSome_apply_of_choosesType (c : Column) {call : Call} (h : call.choosesType = true) :
    (c.apply call).toOption.isSome = call.setsType c.dialect c.name := by
  unfold Call.setsType
  cases call with
  | decimal total places =>
    simp only [apply, Call.type?]
    cases decimalOf c.dialect total places <;> rfl
  | char length =>
    simp only [apply, Call.type?]
    cases lengthOf maxCharLength length <;> rfl
  | varchar length =>
    simp only [apply, Call.type?]
    cases lengthOf maxVarcharLength length <;> rfl
  | enum values =>
    simp only [apply, Call.type?]
    cases enumOf values with
    | error e => rfl
    | ok texts =>
      show (c.withEnum texts).toOption.isSome = (false || c.dialect.nativeEnum || _)
      unfold withEnum membershipCheck
      cases c.dialect.nativeEnum <;> cases c.name.display? <;> rfl
  | simple | pk | fk | ip | uuid => rfl
  | _ => cases h

theorem done?_of_usage (c : Column) {method : String} {arguments : List Value} {e : UsageError}
    (h : Call.ofMethod method arguments = .error e) : c.done? method arguments = none := by
  unfold done?
  rw [h]

/-- A call by name that chooses a type is carried out iff it sets one. -/
theorem done?_of_choosesType (c : Column) {method : String} {arguments : List Value} {call : Call}
    (h : Call.ofMethod method arguments = .ok call) (hc : call.choosesType = true) :
    c.done? method arguments = if call.setsType c.dialect c.name then some call else none := by
  have hok := c.isSome_apply_of_choosesType hc
  unfold done? editOrKeep edit
  simp only [h]
  cases happly : c.apply call with
  | ok next =>
    rw [happly] at hok
    rw [← hok]
    rfl
  | error e =>
    rw [happly] at hok
    rw [← hok]
    rfl

theorem carriedOut_cons (c : Column) (method : String) (arguments : List Value)
    (calls : List (String × List Value)) :
    c.carriedOut ((method, arguments) :: calls) = (c.done? method arguments).toList
      ++ (c.editOrKeep (.call method arguments)).1.carriedOut calls := by
  unfold done?
  rw [carriedOut]
  split <;> simp_all

/-- What is carried out comes from the call that is understood. -/
theorem ofMethod_of_done? {c : Column} {method : String} {arguments : List Value} {call : Call}
    (h : c.done? method arguments = some call) : Call.ofMethod method arguments = .ok call := by
  unfold done? at h
  split at h
  · cases h
    assumption
  · cases h

theorem any_choosesType_done? (c : Column) {method : String} {arguments : List Value} {call : Call}
    (h : Call.ofMethod method arguments = .ok call) :
    (c.done? method arguments).toList.any Call.choosesType = call.setsType c.dialect c.name := by
  cases hc : call.choosesType with
  | true =>
    rw [c.done?_of_choosesType h hc]
    cases ht : call.setsType c.dialect c.name <;> simp [hc]
  | false =>
    rw [Call.setsType, Call.type?_of_not_choosesType hc]
    cases hd : c.done? method arguments with
    | none => rfl
    | some done =>
      cases (ofMethod_of_done? hd).symm.trans h
      simp [hc]

/-- A later call chooses a type iff one that is understood sets a type. -/
theorem any_choosesType_carriedOut (c : Column) (calls : List (String × List Value)) :
    (c.carriedOut calls).any Call.choosesType =
      (Call.understood calls).any (·.setsType c.dialect c.name) := by
  induction calls generalizing c with
  | nil => rfl
  | cons call calls ih =>
    obtain ⟨method, arguments⟩ := call
    obtain ⟨hdialect, hname⟩ := c.editOrKeep_keeps method arguments
    rw [carriedOut_cons, List.any_append, ih, hdialect, hname]
    cases h : Call.ofMethod method arguments with
    | error e =>
      rw [c.done?_of_usage h, Call.understood_cons_of_error h]
      rfl
    | ok call => rw [c.any_choosesType_done? h, Call.understood_cons_of_ok h, List.any_cons]

theorem overwritten?_of_ok (c : Column) {method : String} {arguments : List Value} {call : Call}
    (h : Call.ofMethod method arguments = .ok call) (later : List (String × List Value)) :
    c.overwritten? method arguments later =
      if call.isTypeWrite c.dialect c.name &&
        (Call.understood later).any (·.setsType c.dialect c.name) then some call
      else none := by
  obtain ⟨hdialect, hname⟩ := c.editOrKeep_keeps method arguments
  unfold overwritten?
  simp only [any_choosesType_carriedOut, hdialect, hname]
  cases hc : call.isTypeCall with
  | true =>
    rw [c.done?_of_choosesType h (Call.choosesType_of_isTypeCall hc)]
    unfold Call.isTypeWrite
    cases call.setsType c.dialect c.name <;> simp [Option.filter, hc]
  | false =>
    unfold Call.isTypeWrite
    cases hd : c.done? method arguments with
    | none => simp [hc]
    | some done =>
      cases (ofMethod_of_done? hd).symm.trans h
      simp [Option.filter, hc]

/-- Leaving out the overwritten types leaves them out of the calls that are understood. -/
theorem understood_withoutOverwritten (c : Column) (calls : List (String × List Value)) :
    Call.understood (c.withoutOverwritten calls) =
        Call.kept c.dialect c.name (Call.understood calls) ∧
      c.overwritten calls = Call.dropped c.dialect c.name (Call.understood calls) := by
  induction calls generalizing c with
  | nil => exact ⟨rfl, rfl⟩
  | cons call calls ih =>
    obtain ⟨method, arguments⟩ := call
    obtain ⟨hdialect, hname⟩ := c.editOrKeep_keeps method arguments
    obtain ⟨hkept, hdropped⟩ := ih (c.editOrKeep (.call method arguments)).1
    rw [hdialect, hname] at hkept hdropped
    cases h : Call.ofMethod method arguments with
    | error e =>
      have hnone : c.overwritten? method arguments calls = none := by
        unfold overwritten?
        rw [c.done?_of_usage h]
        rfl
      rw [withoutOverwritten, overwritten, hnone, Call.understood_cons_of_error h,
        Call.understood_cons_of_error h]
      exact ⟨hkept, hdropped⟩
    | ok call =>
      rw [withoutOverwritten, overwritten, c.overwritten?_of_ok h, Call.understood_cons_of_ok h,
        Call.kept, Call.dropped]
      cases call.isTypeWrite c.dialect c.name &&
        (Call.understood calls).any (·.setsType c.dialect c.name) with
      | true => exact ⟨hkept, congrArg (call :: ·) hdropped⟩
      | false =>
        exact ⟨(Call.understood_cons_of_ok h _).trans (congrArg (call :: ·) hkept), hdropped⟩

/-! ## The column without the overwritten types -/

/-- The membership checks that overwritten enumerations leave behind. -/
def leftovers (c : Column) (calls : List (String × List Value)) : List Text :=
  (c.overwritten calls).filterMap (Call.check? c.dialect c.name)

/-- A column without its type and its checks. -/
def bare (c : Column) : Column :=
  { c with type := .none, constraints := { c.constraints with checks := [] } }

/-- **Columns that are alike but for checks**, of which the first one lacks the missing ones. -/
structure LacksChecks (kept full : Column) (missing : List Text) : Prop where
  bare : kept.bare = full.bare
  type : kept.type = full.type
  checks : kept.constraints.checks.Sublist full.constraints.checks
  missing : full.constraints.checks.Perm (kept.constraints.checks ++ missing)

theorem bare_write_of_isTypeCall (c : Column) {call : Call} (h : call.isTypeCall = true) :
    (c.write call).bare = c.bare := by
  have hkey : call.writeKey c.constraints.foreignKey = c.constraints.foreignKey := by
    refine Call.writeKey_of_not_writesKey ?_ _
    cases call <;> first | rfl | cases h
  have hflags : call.flags = [] := by cases call <;> first | rfl | cases h
  have hdefault : call.default? = none := by cases call <;> first | rfl | cases h
  simp [bare, write, hkey, Call.raises, hflags, hdefault]

theorem bare_write_congr {c d : Column} (h : c.bare = d.bare) (call : Call) :
    (c.write call).bare = (d.write call).bare := by
  have hbare : ∀ e : Column, (e.bare.write call).bare = (e.write call).bare := fun _ => rfl
  rw [← hbare c, h, hbare d]

/-- Apart from types and checks, the calls that are left out change nothing. -/
theorem bare_foldl_kept (dialect : Dialect) (name : Value) {c d : Column} (h : c.bare = d.bare)
    (calls : List Call) :
    ((Call.kept dialect name calls).foldl write c).bare = (calls.foldl write d).bare := by
  induction calls generalizing c d with
  | nil => exact h
  | cons call calls ih =>
    unfold Call.kept
    split
    · rename_i hdrop
      have htype : call.isTypeCall = true := by
        simp only [Call.isTypeWrite, Bool.and_eq_true] at hdrop
        exact hdrop.1.1
      exact ih (h.trans (d.bare_write_of_isTypeCall htype).symm)
    · exact ih (bare_write_congr h call)

/-- **Overwritten types leave checks behind, and nothing else.** -/
theorem lacksChecks_withoutOverwritten (c : Column) (calls : List (String × List Value)) :
    LacksChecks (c.afterCalls (c.withoutOverwritten calls)) (c.afterCalls calls)
      (c.leftovers calls) := by
  obtain ⟨hkept, hdropped⟩ := c.understood_withoutOverwritten calls
  unfold leftovers
  rw [afterCalls_eq_understood, afterCalls_eq_understood, hkept, hdropped]
  generalize Call.understood calls = understood
  refine ⟨bare_foldl_kept c.dialect c.name rfl understood, ?_, ?_, ?_⟩
  · rw [type_foldl_write, type_foldl_write, Call.getLast?_type_kept]
  · rw [checks_foldl_write, checks_foldl_write]
    exact ((Call.kept_sublist c.dialect c.name understood).filterMap _).append_left _
  · rw [checks_foldl_write, checks_foldl_write, List.append_assoc, ← List.filterMap_append]
    exact ((Call.perm_kept_dropped c.dialect c.name understood).filterMap _).append_left _

/-- Columns that are alike are the same if no check is missing. -/
theorem LacksChecks.eq_iff {kept full : Column} {missing : List Text}
    (h : LacksChecks kept full missing) : kept = full ↔ missing = [] := by
  have hlength := h.missing.length_eq
  rw [List.length_append] at hlength
  constructor
  · rintro rfl
    exact List.length_eq_zero_iff.1 (by omega)
  · rintro rfl
    have hchecks := h.checks.eq_of_length (by simpa using hlength.symm)
    have hbare := h.bare
    have htype := h.type
    obtain ⟨_, _, _, k⟩ := kept
    obtain ⟨_, _, _, l⟩ := full
    obtain ⟨⟩ := k
    obtain ⟨⟩ := l
    simp_all [Column.bare]

/-- A type call adds a check iff it is an enumeration for a dialect without a type for it. -/
theorem check?_eq_none_iff {call : Call} {d : Dialect} {name : Value}
    (h : call.isTypeWrite d name = true) : call.check? d name = none ↔ d.nativeEnum = true ∨ call.isEnum = false := by
  obtain ⟨htype, hwrites⟩ := Bool.and_eq_true_iff.1 h
  cases call with
  | enum values =>
    simp only [Call.setsType, Call.type?, Option.isSome_map, Call.isEnum, Bool.not_true,
      Bool.false_or, Bool.and_eq_true] at hwrites
    obtain ⟨htexts, hwritable⟩ := hwrites
    obtain ⟨texts, ht⟩ := Option.isSome_iff_exists.1 htexts
    simp only [Call.check?, ht, Call.isEnum]
    cases hn : d.nativeEnum with
    | true => simp
    | false =>
      rw [hn, Bool.false_or] at hwritable
      obtain ⟨text, hname⟩ := Option.isSome_iff_exists.1 hwritable
      simp [hname]
  | simple | decimal | char | varchar | ip | uuid => simp [Call.check?, Call.isEnum]
  | _ => cases htype

/-- Nothing is left behind iff no enumeration is overwritten that a check stands in for. -/
theorem leftovers_eq_nil_iff (c : Column) (calls : List (String × List Value)) :
    c.leftovers calls = [] ↔
      c.dialect.nativeEnum = true ∨ ∀ call ∈ c.overwritten calls, call.isEnum = false := by
  unfold leftovers
  rw [List.filterMap_eq_nil_iff, (c.understood_withoutOverwritten calls).2]
  have hiff : ∀ call ∈ Call.dropped c.dialect c.name (Call.understood calls), (call.check? c.dialect c.name = none ↔
      c.dialect.nativeEnum = true ∨ call.isEnum = false) := fun call hcall =>
    check?_eq_none_iff (Call.isTypeWrite_of_mem_dropped c.dialect c.name hcall)
  constructor
  · intro h
    by_cases hnative : c.dialect.nativeEnum = true
    · exact .inl hnative
    · exact .inr fun call hcall => ((hiff call hcall).1 (h call hcall)).resolve_left hnative
  · rintro h call hcall
    exact (hiff call hcall).2 (h.imp_right fun h => h call hcall)

end Column
end TableDdl
