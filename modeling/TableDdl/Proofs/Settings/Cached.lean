import Mathlib.Data.List.Induction
import TableDdl.Settings.Cache

/-!
# What the cache of settings gives out

A cache is asked for settings again and again, each time under sources of its own, and cleared in
between. What counts is what it was asked since the last clear (`asked`): the settings that are held
are the first of these that load (`held_after_eq`), and sources that do not load leave nothing behind.

Instances have different numbers. Whatever is held or made from some point on has a number above all
that were made before, once the cache has been cleared (`AtLeast`).

* `step_change`: a step gives out what is held, loads, fails or clears;
* `settings_answer`: the settings of an answer, by the sources alone;
* `answer_of_connected`, `number_lt_of_clear`: which answers are the same instance;
* `answers_cached`: all of it.
-/

namespace TableDdl
namespace SettingsCache

/-! ## What a step does -/

/-- The cache with an instance that was just made. -/
def holding (c : SettingsCache) (settings : Settings) : SettingsCache :=
  { held := some ⟨c.made, settings⟩, made := c.made + 1 }

/-- What comes of asking for settings. -/
abbrev Answer := Except (List SettingError) SettingsInstance

/-- What a step may do. -/
inductive Change (c : SettingsCache) : Step → SettingsCache → Option Answer → Prop where
  | kept {sources : Sources} {i : SettingsInstance} (hheld : c.held = some i) :
      Change c (.get sources) c (some (.ok i))
  | loaded {sources : Sources} {settings : Settings} (hheld : c.held = none)
      (hload : Settings.load sources = .ok settings) :
      Change c (.get sources) (c.holding settings) (some (.ok ⟨c.made, settings⟩))
  | failed {sources : Sources} {problems : List SettingError} (hheld : c.held = none)
      (hload : Settings.load sources = .error problems) :
      Change c (.get sources) c (some (.error problems))
  | cleared : Change c .clear c.clear none

/-- **Every step is one of the four changes.** -/
theorem step_change (c : SettingsCache) (st : Step) : Change c st (c.step st).1 (c.step st).2 := by
  cases st with
  | clear => exact .cleared
  | get sources =>
    show Change c (.get sources) (c.get sources).1 (some (c.get sources).2)
    unfold get
    cases hheld : c.held with
    | some i => exact .kept hheld
    | none =>
      cases hload : Settings.load sources with
      | ok settings => exact .loaded hheld hload
      | error problems => exact .failed hheld hload

/-- No instance below this number is held, or will be made. -/
structure AtLeast (c : SettingsCache) (n : Nat) : Prop where
  le_made : n ≤ c.made
  le_number : ∀ i, c.held = some i → n ≤ i.number

namespace Change

variable {c next : SettingsCache} {st : Step} {answer : Option Answer}

theorem number_lt_made (h : Change c st next answer) (hc : ∀ i, c.held = some i → i.number < c.made) :
    ∀ i, next.held = some i → i.number < next.made := by
  cases h with
  | kept | failed => exact hc
  | loaded =>
    intro i hi
    cases hi
    exact Nat.lt_succ_self _
  | cleared => exact nofun

theorem atLeast (h : Change c st next answer) {n : Nat} (hc : c.AtLeast n) : next.AtLeast n := by
  cases h with
  | kept | failed => exact hc
  | cleared => exact ⟨hc.le_made, nofun⟩
  | loaded =>
    refine ⟨Nat.le_succ_of_le hc.le_made, fun i hi => ?_⟩
    cases hi
    exact hc.le_made

/-- What is given out is held afterwards. -/
theorem held_of_answer (h : Change c st next answer) {i : SettingsInstance}
    (hi : answer = some (.ok i)) : next.held = some i := by
  cases h with
  | kept hheld => cases hi; exact hheld
  | loaded => cases hi; rfl
  | failed | cleared => cases hi

end Change

/-! ## What a run does -/

/-- The cache after some steps. -/
def after (past : List Step) : SettingsCache := (run {} past).1

/-- What comes of asking for settings after some steps. -/
def answer (past : List Step) (sources : Sources) : Answer := ((after past).get sources).2

theorem run_append (c : SettingsCache) (past rest : List Step) :
    c.run (past ++ rest) =
      (((c.run past).1.run rest).1, (c.run past).2 ++ ((c.run past).1.run rest).2) := by
  induction past generalizing c with
  | nil => rfl
  | cons st past ih => simp only [List.cons_append, run, ih]

theorem length_run (c : SettingsCache) (steps : List Step) : (c.run steps).2.length = steps.length := by
  induction steps generalizing c with
  | nil => rfl
  | cons st steps ih => exact congrArg Nat.succ (ih _)

theorem after_append (past rest : List Step) : after (past ++ rest) = ((after past).run rest).1 := by
  rw [after, run_append]
  rfl

theorem after_append_singleton (past : List Step) (st : Step) :
    after (past ++ [st]) = ((after past).step st).1 := after_append past [st]

/-- A run answers each of its steps as the cache that is there by then. -/
theorem run_getElem? (past rest : List Step) (st : Step) :
    (run {} (past ++ st :: rest)).2[past.length]? = some ((after past).step st).2 := by
  rw [run_append, List.getElem?_append_right (Nat.le_of_eq (length_run _ _)), length_run, Nat.sub_self]
  rfl

/-- **The steps of a run are changes.** -/
theorem change_after (past : List Step) (st : Step) :
    Change (after past) st (after (past ++ [st])) ((after past).step st).2 := by
  rw [after_append_singleton]
  exact step_change _ st

theorem number_lt_made_after (past : List Step) :
    ∀ i, (after past).held = some i → i.number < (after past).made := by
  induction past using List.reverseRecOn with
  | nil => exact nofun
  | append_singleton past st ih => exact (change_after past st).number_lt_made ih

theorem atLeast_after_append {n : Nat} {before : List Step} (since : List Step)
    (h : (after before).AtLeast n) : (after (before ++ since)).AtLeast n := by
  induction since using List.reverseRecOn with
  | nil => rwa [List.append_nil]
  | append_singleton since st ih =>
    rw [← List.append_assoc]
    exact (change_after _ st).atLeast ih

/-- What is held stays until a clear. -/
theorem held_after_append {i : SettingsInstance} {before since : List Step}
    (h : (after before).held = some i) (hsince : Step.clear ∉ since) :
    (after (before ++ since)).held = some i := by
  induction since using List.reverseRecOn with
  | nil => rwa [List.append_nil]
  | append_singleton since st ih =>
    rw [List.mem_append, not_or, List.mem_singleton] at hsince
    have hheld := ih hsince.1
    rw [← List.append_assoc, after_append_singleton]
    cases st with
    | get sources => rw [step, get_of_held hheld]; exact hheld
    | clear => exact absurd rfl hsince.2

/-! ## The settings of an answer -/

/-- The sources of what was asked since the last clear, in order. -/
def asked (past : List Step) : List Sources :=
  past.foldl (fun sources st => match st with
    | .get s => sources ++ [s]
    | .clear => []) []

/-- The settings of the first sources that load. -/
def firstLoaded? (sources : List Sources) : Option Settings :=
  sources.findSome? fun s => (Settings.load s).toOption

theorem asked_get (past : List Step) (sources : Sources) :
    asked (past ++ [.get sources]) = asked past ++ [sources] := List.foldl_append

theorem asked_clear (past : List Step) : asked (past ++ [.clear]) = [] := List.foldl_append

theorem firstLoaded?_append_singleton (before : List Sources) (sources : Sources) :
    firstLoaded? (before ++ [sources]) =
      (firstLoaded? before).or (Settings.load sources).toOption := by
  rw [firstLoaded?, List.findSome?_append]
  simp [firstLoaded?]

/-- **What is held are the first settings that could be loaded** since the last clear. -/
theorem held_after_eq (past : List Step) :
    (after past).held.map SettingsInstance.settings = firstLoaded? (asked past) := by
  induction past using List.reverseRecOn with
  | nil => rfl
  | append_singleton past st ih =>
    have hchange := change_after past st
    generalize ((after past).step st).2 = given at hchange
    cases st with
    | clear =>
      rw [asked_clear, after_append_singleton]
      rfl
    | get sources =>
      rw [asked_get, firstLoaded?_append_singleton, ← ih]
      generalize after (past ++ [.get sources]) = next at hchange
      cases hchange with
      | kept hheld => simp [hheld]
      | loaded hheld hload => simp [hheld, hload, holding, Except.toOption]
      | failed hheld hload => simp [hheld, hload, Except.toOption]

/-- **The settings of an answer** are the first that could be loaded since the last clear, or else
those of the sources asked now, if they load. -/
theorem settings_answer (past : List Step) (sources : Sources) :
    (answer past sources).map SettingsInstance.settings =
      match firstLoaded? (asked past) with
      | some settings => .ok settings
      | none => Settings.load sources := by
  rw [← held_after_eq, answer, get]
  cases (after past).held with
  | some i => rfl
  | none => cases Settings.load sources <;> rfl

/-! ## Instances -/

section
variable {before between : List Step} {first sources : Sources} {i j : SettingsInstance}

theorem held_of_answer (h : answer before first = .ok i) :
    (after (before ++ [.get first])).held = some i :=
  (change_after before (.get first)).held_of_answer (congrArg some h)

/-- **What was given out is given out until a clear**, whatever the sources are by then. -/
theorem answer_of_connected (h : answer before first = .ok i) (hbetween : Step.clear ∉ between)
    (sources : Sources) : answer (before ++ .get first :: between) sources = .ok i := by
  have hheld := held_after_append (held_of_answer h) hbetween
  rw [List.append_assoc, List.singleton_append] at hheld
  rw [answer, get_of_held hheld]

/-- **What is given out after a clear is new.** At the first clear all that were made are behind. -/
theorem number_lt_of_clear (h : answer before first = .ok i) (hbetween : Step.clear ∈ between)
    (hj : answer (before ++ .get first :: between) sources = .ok j) : i.number < j.number := by
  obtain ⟨connected, rest, rfl, hconnected⟩ := List.eq_append_cons_of_mem hbetween
  have hheld := held_after_append (held_of_answer h) hconnected
  have hcleared : (after (before ++ [.get first] ++ connected ++ [.clear])).AtLeast
      (after (before ++ [.get first] ++ connected)).made := by
    rw [after_append_singleton]
    exact ⟨Nat.le_refl _, nofun⟩
  have hlast := atLeast_after_append (rest ++ [.get sources]) hcleared
  have hj := held_of_answer hj
  simp only [List.append_assoc, List.cons_append, List.nil_append] at hheld hlast hj
  exact Nat.lt_of_lt_of_le (number_lt_made_after _ i hheld) (hlast.le_number j hj)

/-- A call that fails leaves the cache as it was. -/
theorem after_of_error {past : List Step} {problems : List SettingError}
    (h : answer past sources = .error problems) (rest : List Step) :
    after (past ++ .get sources :: rest) = after (past ++ rest) := by
  have hkept : after (past ++ [.get sources]) = after past := by
    have hchange := change_after past (.get sources)
    have hgiven : ((after past).step (.get sources)).2 = some (.error problems) := congrArg some h
    rw [hgiven] at hchange
    generalize after (past ++ [.get sources]) = next at hchange
    cases hchange
    rfl
  rw [← List.singleton_append, ← List.append_assoc, after_append, hkept, ← after_append]

end

/-! ## All of it -/

/-- **What a cache gives out**, whatever it was asked before and however often it was cleared.

The settings are the first that could be loaded since the last clear. If there are none, the sources
of this call are read, and it has their settings or their problems. The instance that it gives out is
given out again until a clear, under all sources, and those that are given out after a clear are new.
A call that fails is as good as not made. -/
theorem answers_cached (past : List Step) (sources : Sources) :
    (∀ rest, (run {} (past ++ .get sources :: rest)).2[past.length]? =
      some (some (answer past sources))) ∧
    (answer past sources).map SettingsInstance.settings =
      (match firstLoaded? (asked past) with
      | some settings => .ok settings
      | none => Settings.load sources) ∧
    (∀ i, answer past sources = .ok i → ∀ between later,
      (Step.clear ∉ between → answer (past ++ .get sources :: between) later = .ok i) ∧
      (Step.clear ∈ between → ∀ j, answer (past ++ .get sources :: between) later = .ok j →
        i.number < j.number)) ∧
    (∀ problems, answer past sources = .error problems → ∀ rest later,
      answer (past ++ .get sources :: rest) later = answer (past ++ rest) later) := by
  refine ⟨fun rest => run_getElem? past rest (.get sources), settings_answer past sources, ?_, ?_⟩
  · intro i hi between later
    exact ⟨fun h => answer_of_connected hi h later, fun h j hj => number_lt_of_clear hi h hj⟩
  · intro problems herror rest later
    rw [answer, after_of_error herror rest, answer]

/-- Settings that cannot be loaded, and two that can, with a clear between them and the second. -/
example :
    let wrong : Sources := { environment := [("TABLEGEN_LOG_LEVEL", "LOUD")] }
    let shop : Sources := { environment := [("TABLEGEN_APP_NAME", "shop")] }
    (run {} [.get wrong, .get {}, .get shop, .get wrong, .clear, .get shop]).2.map
        (fun given => given.bind fun a => a.toOption.map fun i => (i.number, i.settings.appName)) =
      [none, some (0, "tablegen"), some (0, "tablegen"), some (0, "tablegen"), none,
        some (1, "shop")] := by
  decide +kernel

end SettingsCache
end TableDdl
