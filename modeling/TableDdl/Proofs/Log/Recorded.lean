import Mathlib.Data.List.Induction
import TableDdl.Proofs.Log.Scope
import TableDdl.Proofs.Result

/-!
# What is recorded

Which log calls lead to a record, and what is in it, after any scopes that have been entered and left.

* `after_eq`, `get?_replay`: the context binds a name to what the last scope that mentions it
  gave it, unless that scope, or another one that mentions it, has been left since (`Binds`);
* `get?_recordOf`: a record has a field of its call, or else of the context, under every name that is
  not reserved;
* `step_log_of_not_refuses`: a call that is not refused is recorded iff its level is high enough;
* `recorded_of_settings`: all of it, for every setting and every sequence of steps. Some calls are
  refused by their names or by the console (`Refuses`, `call_refused`).
-/

namespace TableDdl

/-! ## Scopes -/

/-- A scope that is entered or left. -/
inductive ScopeEvent where
  | entered (scope : Fields)
  | left (scope : Fields)

namespace ScopeEvent

def Mentions (name : String) : ScopeEvent → Prop
  | .entered scope => scope.has name = true
  | .left scope => scope.has name = true

def apply (ctx : Context) : ScopeEvent → Context
  | .entered scope => ctx.enter scope
  | .left scope => ctx.exit scope

end ScopeEvent

/-- **What a name is bound to after some events**: the value in the last scope that was entered with
it, if no scope with it has been left or entered since. -/
def Binds (events : List ScopeEvent) (name : String) (v : Value) : Prop :=
  ∃ before scope later, events = before ++ .entered scope :: later ∧
    (Fields.ofPairs scope).get? name = some v ∧ ∀ e ∈ later, ¬ e.Mentions name

namespace Fields

theorem has_iff {fs : Fields} {name : String} : fs.has name = true ↔ ∃ f ∈ fs, f.1 = name := by
  simp [has]

theorem ofPairs_append_singleton (fs : Fields) (f : String × Value) :
    ofPairs (fs ++ [f]) = (ofPairs fs).put f.1 f.2 := List.foldl_append

theorem isSome_get?_ofPairs (fs : Fields) (name : String) :
    ((ofPairs fs).get? name).isSome = fs.has name := by
  induction fs using List.reverseRecOn with
  | nil => rfl
  | append_singleton fs f ih =>
    rw [ofPairs_append_singleton, has_append, ← ih]
    by_cases h : f.1 = name
    · subst h
      simp [get?_put_self, has]
    · simp [get?_put_of_ne _ _ (Ne.symm h), has, h]

end Fields

namespace Context

/-- What a scope gives counts before what was bound. -/
theorem get?_enter (ctx : Context) (scope : Fields) (name : String) :
    (ctx.enter scope).get? name = ((Fields.ofPairs scope).get? name).or (Fields.get? ctx name) := by
  induction scope using List.reverseRecOn with
  | nil => rfl
  | append_singleton scope f ih =>
    have happend : ctx.enter (scope ++ [f]) = Fields.put (ctx.enter scope) f.1 f.2 :=
      List.foldl_append
    rw [happend, Fields.ofPairs_append_singleton]
    by_cases h : f.1 = name
    · subst h
      rw [Fields.get?_put_self, Fields.get?_put_self]
      rfl
    · rw [Fields.get?_put_of_ne _ _ (Ne.symm h), Fields.get?_put_of_ne _ _ (Ne.symm h), ih]

theorem get?_exit (ctx : Context) (scope : Fields) (name : String) :
    (ctx.exit scope).get? name = if scope.has name then none else Fields.get? ctx name := by
  split
  next h => exact get?_exit_of_mem _ _ (Fields.has_iff.1 h)
  next h => exact get?_exit_of_not_mem _ _ fun f hf he => h (Fields.has_iff.2 ⟨f, hf, he⟩)

end Context

/-- The last event decides, if it mentions the name. -/
theorem binds_append_singleton {events : List ScopeEvent} {e : ScopeEvent} {name : String}
    {v : Value} :
    Binds (events ++ [e]) name v ↔
      (∃ scope, e = .entered scope ∧ (Fields.ofPairs scope).get? name = some v) ∨
        ¬ e.Mentions name ∧ Binds events name v := by
  constructor
  · rintro ⟨before, scope, later, hevents, hget, hlater⟩
    rcases List.eq_nil_or_concat later with rfl | ⟨later, last, rfl⟩
    · obtain ⟨-, hlast⟩ := List.append_inj' hevents rfl
      exact .inl ⟨scope, List.singleton_inj.1 hlast, hget⟩
    · rw [List.concat_eq_append] at hevents hlater
      rw [← List.cons_append, ← List.append_assoc] at hevents
      obtain ⟨rfl, hlast⟩ := List.append_inj' hevents rfl
      obtain rfl := List.singleton_inj.1 hlast
      have hmentions : ¬ e.Mentions name := hlater e (List.mem_append_right _ List.mem_cons_self)
      exact .inr ⟨hmentions, before, scope, later, rfl, hget,
        fun x hx => hlater x (List.mem_append_left _ hx)⟩
  · rintro (⟨scope, rfl, hget⟩ | ⟨hmentions, before, scope, later, rfl, hget, hlater⟩)
    · exact ⟨events, scope, [], rfl, hget, nofun⟩
    · refine ⟨before, scope, later ++ [e], by simp, hget, fun x hx => ?_⟩
      rcases List.mem_append.1 hx with hx | hx
      · exact hlater x hx
      · rwa [List.mem_singleton.1 hx]

/-- **The context binds a name as the events say.** -/
theorem get?_replay (events : List ScopeEvent) (name : String) (v : Value) :
    Fields.get? (events.foldl ScopeEvent.apply []) name = some v ↔ Binds events name v := by
  induction events using List.reverseRecOn with
  | nil =>
    refine iff_of_false nofun ?_
    rintro ⟨before, scope, later, h, -⟩
    simp at h
  | append_singleton events e ih =>
    rw [List.foldl_append, binds_append_singleton, ← ih]
    cases e with
    | entered scope =>
      show (Context.enter _ scope).get? name = some v ↔ _
      rw [Context.get?_enter, Option.or_eq_some_iff, ← Option.not_isSome_iff_eq_none,
        Fields.isSome_get?_ofPairs]
      simp [ScopeEvent.Mentions]
    | left scope =>
      show (Context.exit _ scope).get? name = some v ↔ _
      rw [Context.get?_exit]
      simp [ScopeEvent.Mentions]

/-! ## Records -/

/-- The names that a record keeps for what the steps write. -/
def reservedNames : List String :=
  ["event", "message", "level", "logger", "timestamp", "stack", "stack_info", "exc_info"]

/-- A value as it is recorded: bytes are read as text. -/
def Value.decoded : Value → Value
  | .bytes bs => .str (Unicode.decodeLossy bs)
  | v => v

namespace Fields

theorem mem_of_get? {fs : Fields} {name : String} {v : Value} (h : fs.get? name = some v) :
    (name, v) ∈ fs := by
  induction fs with
  | nil => cases h
  | cons f fs ih =>
    obtain ⟨n, w⟩ := f
    rw [get?_cons] at h
    split at h
    next hn =>
      cases h
      rw [hn]
      exact List.mem_cons_self
    · exact List.mem_cons_of_mem _ (ih h)

/-- All values are text, integers, truth values or nothing. -/
def AllPlain (fs : Fields) : Prop := ∀ f ∈ fs, f.2.isPlain = true

theorem AllPlain.nil : AllPlain [] := nofun

theorem AllPlain.put {fs : Fields} (h : fs.AllPlain) (name : String) {v : Value}
    (hv : v.isPlain = true) : (fs.put name v).AllPlain := by
  induction fs with
  | nil =>
    intro f hf
    rw [List.mem_singleton.1 hf]
    exact hv
  | cons g fs ih =>
    obtain ⟨hg, hfs⟩ := List.forall_mem_cons.1 h
    rw [Fields.put]
    split
    · exact List.forall_mem_cons.2 ⟨hv, hfs⟩
    · exact List.forall_mem_cons.2 ⟨hg, ih hfs⟩

theorem AllPlain.filter {fs : Fields} (h : fs.AllPlain) (p : String × Value → Bool) :
    AllPlain (fs.filter p) :=
  fun f hf => h f (List.mem_filter.1 hf).1

theorem AllPlain.extend {fs more : Fields} (h : fs.AllPlain) (hmore : more.AllPlain) :
    (fs.extend more).AllPlain :=
  List.forall_mem_append.2 ⟨h, hmore.filter _⟩

theorem AllPlain.enter {ctx : Context} (h : AllPlain ctx) {scope : Fields}
    (hscope : scope.AllPlain) : AllPlain (ctx.enter scope) := by
  induction scope generalizing ctx with
  | nil => exact h
  | cons f scope ih =>
    obtain ⟨hf, hscope⟩ := List.forall_mem_cons.1 hscope
    exact ih (h.put f.1 hf) hscope

theorem AllPlain.exit {ctx : Context} (h : AllPlain ctx) (scope : Fields) :
    AllPlain (ctx.exit scope) := by
  rw [Context.exit_eq_without]
  exact h.filter _

theorem AllPlain.renderStack {fs : Fields} (h : fs.AllPlain) : fs.renderStack.AllPlain := by
  unfold Fields.renderStack
  split
  · exact h
  · split
    · exact (h.filter _).put _ rfl
    · exact h.filter _

theorem AllPlain.renameEvent {fs : Fields} (h : fs.AllPlain) : fs.renameEvent.AllPlain := by
  unfold Fields.renameEvent
  split
  · exact h
  next v hv =>
    exact (h.filter _).put _ (h _ (mem_of_get? hv))

/-- There is nothing to decode. -/
theorem AllPlain.decodeBytes_eq {fs : Fields} (h : fs.AllPlain) : fs.decodeBytes = fs := by
  refine (List.map_congr_left fun f hf => ?_).trans (List.map_id fs)
  obtain ⟨name, v⟩ := f
  have hv : v.isPlain = true := h _ hf
  cases v <;> first | rfl | cases hv

theorem get?_decodeBytes (fs : Fields) (name : String) :
    fs.decodeBytes.get? name = (fs.get? name).map Value.decoded := by
  induction fs with
  | nil => rfl
  | cons f fs ih =>
    obtain ⟨n, v⟩ := f
    have hcons : decodeBytes ((n, v) :: fs) = (n, v.decoded) :: decodeBytes fs := by
      cases v <;> rfl
    rw [hcons, get?_cons, get?_cons, ih]
    split <;> rfl

theorem get?_renderStack_of_ne (fs : Fields) {name : String} (hrequest : name ≠ "stack_info")
    (hstack : name ≠ "stack") : fs.renderStack.get? name = fs.get? name := by
  unfold renderStack
  split
  · rfl
  · split
    · rw [get?_put_of_ne _ _ hstack, get?_erase_of_ne _ hrequest]
    · rw [get?_erase_of_ne _ hrequest]

theorem get?_renameEvent_of_ne (fs : Fields) {name : String} (hevent : name ≠ "event")
    (hmessage : name ≠ "message") : fs.renameEvent.get? name = fs.get? name := by
  unfold renameEvent
  split
  · rfl
  · rw [get?_put_of_ne _ _ hmessage, get?_erase_of_ne _ hevent]

/-- There is a message in the place of the event. -/
theorem get?_renameEvent_event (fs : Fields) : fs.renameEvent.get? "event" = none := by
  unfold renameEvent
  split
  next h => exact h
  · rw [get?_put_of_ne _ _ (by decide), get?_erase_self]

theorem get?_renameEvent_message {fs : Fields} {v : Value} (h : fs.get? "event" = some v) :
    fs.renameEvent.get? "message" = some v := by
  simp only [renameEvent, h, get?_put_self]

end Fields

/-- A log call with the fields of the context and those that every record has. -/
def stamped (ctx : Context) (level : Level) (text : String) (fields : Fields) : Fields :=
  (((((fields.put "event" (.str text)).extend ctx).put "level" (.str level.name)).nameLogger
    none).put "timestamp" (.str "<time>"))

theorem recordOf_eq (ctx : Context) (level : Level) (text : String) (fields : Fields) :
    recordOf ctx level (.str text) fields =
      (stamped ctx level text fields).renderStack.decodeBytes.renameEvent := rfl

theorem allPlain_recordOf {ctx : Context} (hctx : Fields.AllPlain ctx) {fields : Fields}
    (hfields : fields.AllPlain) (level : Level) (text : String) :
    (recordOf ctx level (.str text) fields).AllPlain := by
  have hstamped : (stamped ctx level text fields).AllPlain :=
    ((((hfields.put "event" rfl).extend hctx).put "level" rfl).put "logger" rfl).put "timestamp" rfl
  rw [recordOf_eq, hstamped.renderStack.decodeBytes_eq]
  exact hstamped.renderStack.renameEvent

section
variable (ctx : Context) (level : Level) (text : String) (fields : Fields)

theorem get?_stamped {name : String} (hreserved : name ∉ reservedNames) :
    (stamped ctx level text fields).get? name =
      (fields.get? name).or (Fields.get? ctx name) := by
  simp only [reservedNames, List.mem_cons, List.not_mem_nil, or_false, not_or] at hreserved
  obtain ⟨hevent, -, hlevel, hlogger, htimestamp, -⟩ := hreserved
  unfold stamped Fields.nameLogger
  rw [Fields.get?_put_of_ne _ _ htimestamp, Fields.get?_put_of_ne _ _ hlogger,
    Fields.get?_put_of_ne _ _ hlevel, Fields.get?_extend, Fields.get?_put_of_ne _ _ hevent]

theorem get?_stamped_own :
    (stamped ctx level text fields).get? "event" = some (.str text) ∧
      (stamped ctx level text fields).get? "level" = some (.str level.name) := by
  unfold stamped Fields.nameLogger
  constructor
  · rw [Fields.get?_put_of_ne _ _ (by decide), Fields.get?_put_of_ne _ _ (by decide),
      Fields.get?_put_of_ne _ _ (by decide), Fields.get?_extend, Fields.get?_put_self]
    rfl
  · rw [Fields.get?_put_of_ne _ _ (by decide), Fields.get?_put_of_ne _ _ (by decide),
      Fields.get?_put_self]

/-- **A record has the fields of its call and of the context.** -/
theorem get?_recordOf {name : String} (hreserved : name ∉ reservedNames) :
    (recordOf ctx level (.str text) fields).get? name =
      ((fields.get? name).or (Fields.get? ctx name)).map Value.decoded := by
  have hne : ∀ reserved ∈ reservedNames, name ≠ reserved := fun reserved h he =>
    hreserved (he ▸ h)
  rw [recordOf_eq, Fields.get?_renameEvent_of_ne _ (hne _ (by decide)) (hne _ (by decide)),
    Fields.get?_decodeBytes,
    Fields.get?_renderStack_of_ne _ (hne _ (by decide)) (hne _ (by decide)),
    get?_stamped ctx level text fields hreserved]

/-- **A record has a message and a level, and no event.** -/
theorem get?_recordOf_own :
    (recordOf ctx level (.str text) fields).get? "event" = none ∧
      (recordOf ctx level (.str text) fields).get? "message" = some (.str text) ∧
      (recordOf ctx level (.str text) fields).get? "level" = some (.str level.name) := by
  obtain ⟨hevent, hlevel⟩ := get?_stamped_own ctx level text fields
  rw [recordOf_eq]
  refine ⟨Fields.get?_renameEvent_event _, Fields.get?_renameEvent_message ?_, ?_⟩
  · rw [Fields.get?_decodeBytes, Fields.get?_renderStack_of_ne _ (by decide) (by decide), hevent]
    rfl
  · rw [Fields.get?_renameEvent_of_ne _ (by decide) (by decide), Fields.get?_decodeBytes,
      Fields.get?_renderStack_of_ne _ (by decide) (by decide), hlevel]
    rfl

end

/-! ## Steps -/

namespace LogSession

/-- The scopes that steps enter and leave, in order. Those in `opened` are open before the steps, the
innermost first. -/
def scopeEvents : List Fields → List Step → List ScopeEvent
  | _, [] => []
  | opened, .enter scope :: rest =>
    if scope.has "self" then scopeEvents opened rest
    else .entered scope :: scopeEvents (scope :: opened) rest
  | [], .exit :: rest => scopeEvents [] rest
  | scope :: opened, .exit :: rest => .left scope :: scopeEvents opened rest
  | opened, .getLogger _ :: rest => scopeEvents opened rest
  | opened, .log _ _ _ :: rest => scopeEvents opened rest

/-- The session after steps, of which those that are refused leave it as it was. -/
def after (s : LogSession) : List Step → LogSession
  | [] => s
  | st :: rest =>
    match s.step st with
    | .ok (t, _) => t.after rest
    | .error _ => s.after rest

/-- A session after steps has the same setup, and its context is what the scopes have made of it. -/
theorem after_eq (s : LogSession) (steps : List Step) :
    (s.after steps).setup = s.setup ∧
      (s.after steps).context = (scopeEvents s.scopes steps).foldl ScopeEvent.apply s.context := by
  induction steps generalizing s with
  | nil => exact ⟨rfl, rfl⟩
  | cons st rest ih =>
    unfold after
    cases st with
    | enter scope =>
      cases hself : scope.has "self" with
      | true =>
        simp only [step, hself, scopeEvents, if_true]
        exact ih s
      | false =>
        rw [s.step_enter hself]
        simp only [scopeEvents, hself]
        exact ih (s.opened scope)
    | exit =>
      obtain ⟨setup, context, scopes⟩ := s
      cases scopes with
      | nil => exact ih _
      | cons scope scopes => exact ih _
    | getLogger name => exact ih s
    | log level event fields =>
      cases h : s.step (.log level event fields) with
      | error fault => exact ih s
      | ok result =>
        obtain ⟨t, answer⟩ := result
        obtain rfl := step_log h
        exact ih t

/-- Only scopes of the steps are entered. -/
theorem enter_mem_of_entered {opened : List Fields} {steps : List Step} {scope : Fields}
    (h : .entered scope ∈ scopeEvents opened steps) : .enter scope ∈ steps := by
  fun_induction scopeEvents opened steps with
  | case1 => cases h
  | case2 opened entered rest hself ih => exact List.mem_cons_of_mem _ (ih h)
  | case3 opened entered rest hself ih =>
    rcases List.mem_cons.1 h with h | h
    · cases h
      exact List.mem_cons_self
    · exact List.mem_cons_of_mem _ (ih h)
  | case4 rest ih => exact List.mem_cons_of_mem _ (ih h)
  | case5 left opened rest ih =>
    rcases List.mem_cons.1 h with h | h
    · cases h
    · exact List.mem_cons_of_mem _ (ih h)
  | case6 opened name rest ih => exact List.mem_cons_of_mem _ (ih h)
  | case7 opened level event fields rest ih => exact List.mem_cons_of_mem _ (ih h)

end LogSession

theorem allPlain_foldl_apply {events : List ScopeEvent}
    (h : ∀ scope, .entered scope ∈ events → scope.AllPlain) {ctx : Context}
    (hctx : Fields.AllPlain ctx) : Fields.AllPlain (events.foldl ScopeEvent.apply ctx) := by
  induction events generalizing ctx with
  | nil => exact hctx
  | cons e events ih =>
    refine ih (fun scope hscope => h scope (List.mem_cons_of_mem _ hscope)) ?_
    cases e with
    | entered scope => exact hctx.enter (h scope List.mem_cons_self)
    | left scope => exact hctx.exit scope

namespace LogSession

/-! ## Log calls -/

/-- **A call that is refused**: one of its fields has the name of an argument of the call itself, or
what would be recorded cannot be written. -/
def Refuses (s : LogSession) (level : Level) (event : Value) (fields : Fields) : Prop :=
  (∃ name ∈ ownNames (s.setup.records level), fields.has name = true) ∨
    s.setup.records level = true ∧
      s.setup.renderer.accepts (recordOf s.context level event fields) = false

/-- A record of plain values cannot be written if it is for the console and has something other than
text below the line. -/
theorem not_accepts_iff {record : Fields} (h : record.AllPlain) (r : Renderer) :
    r.accepts record = false ↔ r = .console ∧
      ∃ f ∈ record, f.1 ∈ Renderer.trailingFields ∧ f.2.isNone = false ∧ f.2.text? = none := by
  cases r with
  | json =>
    rw [Renderer.json_accepts_of_plain h]
    exact iff_of_false nofun nofun
  | console =>
    simp [Renderer.accepts, Renderer.acceptsField, and_assoc]

section
variable {s : LogSession} {level : Level} {event : Value} {fields : Fields}

theorem step_log_of_refuses (h : s.Refuses level event fields) :
    ∃ fault, s.step (.log level event fields) = .error fault := by
  simp only [step]
  by_cases hown : (ownNames (s.setup.records level)).any fields.has = true
  · exact ⟨.ownName, if_pos hown⟩
  · rcases h with hnames | ⟨hrecorded, haccepts⟩
    · exact absurd (List.any_eq_true.2 hnames) hown
    · rw [if_neg hown, hrecorded, haccepts]
      exact ⟨.unwritable, rfl⟩

/-- **A call that is not refused is recorded iff its level is high enough.** -/
theorem step_log_of_not_refuses (h : ¬ s.Refuses level event fields) :
    s.step (.log level event fields) =
      .ok (s, .records (if s.setup.records level then [recordOf s.context level event fields]
        else [])) := by
  rw [Refuses, not_or] at h
  obtain ⟨hnames, hwritable⟩ := h
  have hown : ¬ (ownNames (s.setup.records level)).any fields.has = true := fun hown =>
    hnames (List.any_eq_true.1 hown)
  simp only [step]
  rw [if_neg hown]
  cases hrecorded : s.setup.records level with
  | false => rfl
  | true =>
    have haccepts : s.setup.renderer.accepts (recordOf s.context level event fields) = true :=
      Bool.not_eq_false _ ▸ fun h => hwritable ⟨hrecorded, h⟩
    rw [haccepts]
    rfl

end

/-- A run answers each of its steps as the session that is there by then. -/
theorem getElem?_answers {s t : LogSession} {past rest : List Step} {st : Step}
    {answers : List Answer} (h : s.run (past ++ st :: rest) = .ok (t, answers)) :
    ∃ u answer, (s.after past).step st = .ok (u, answer) ∧ answers[past.length]? = some answer := by
  induction past generalizing s answers with
  | nil =>
    obtain ⟨⟨u, answer⟩, hstep, h⟩ := bind_eq_ok h
    obtain ⟨⟨v, later⟩, -, h⟩ := bind_eq_ok h
    cases h
    exact ⟨u, answer, hstep, rfl⟩
  | cons first past ih =>
    obtain ⟨⟨u, answer⟩, hstep, h⟩ := bind_eq_ok h
    obtain ⟨⟨v, later⟩, hrun, h⟩ := bind_eq_ok h
    cases h
    unfold after
    rw [hstep]
    exact ih hrun

/-! ## All settings and all runs -/

/-- A session in which nothing has been done yet. -/
def start (settings : Settings) : LogSession := { setup := LogSetup.ofSettings settings }

section
variable (settings : Settings) (past : List Step)

theorem records_after (level : Level) : ((start settings).after past).setup.records level =
    decide (settings.logLevel.severity ≤ level.severity) := by
  rw [((start settings).after_eq past).1]
  rfl

/-- **What is bound after some steps** is what their scopes say. -/
theorem get?_context_after (name : String) (v : Value) :
    Fields.get? ((start settings).after past).context name = some v ↔
      Binds (scopeEvents [] past) name v := by
  rw [((start settings).after_eq past).2]
  exact get?_replay _ name v

variable {past} in
theorem allPlain_context_after (hpast : ∀ scope, .enter scope ∈ past → scope.AllPlain) :
    Fields.AllPlain ((start settings).after past).context := by
  rw [((start settings).after_eq past).2]
  exact allPlain_foldl_apply (fun scope h => hpast scope (enter_mem_of_entered h)) .nil

end

/-- **What is recorded**, for all settings, after any steps, of which those that are refused leave
nothing behind, and for every call with a text. A call that is not refused has a record iff its level
is at least that of the settings. The record has, under a name that is not reserved, what the call
gives, or else what the last scope with this name gave, if no scope with it has been left since; and
bytes are read as text. With plain values a call is refused only for the name of a field, or by the
console for something other than text below the line. -/
theorem recorded_of_settings (settings : Settings) (past : List Step) (level : Level) (text : String)
    (fields : Fields) :
    let s := (start settings).after past
    let call := Step.log level (.str text) fields
    let record := recordOf s.context level (.str text) fields
    let answer := Answer.records
      (if settings.logLevel.severity ≤ level.severity then [record] else [])
    (s.Refuses level (.str text) fields → ∃ fault, s.step call = .error fault) ∧
    (¬ s.Refuses level (.str text) fields → s.step call = .ok (s, answer)) ∧
    (∀ rest t answers, (start settings).run (past ++ call :: rest) = .ok (t, answers) →
      answers[past.length]? = some answer) ∧
    record.get? "event" = none ∧ record.get? "message" = some (.str text) ∧
    record.get? "level" = some (.str level.name) ∧
    (∀ name ∉ reservedNames, ∀ w, record.get? name = some w ↔
      ∃ v : Value, v.decoded = w ∧
        (fields.get? name = some v ∨
          fields.get? name = none ∧ Binds (scopeEvents [] past) name v)) ∧
    ((∀ scope, .enter scope ∈ past → scope.AllPlain) → fields.AllPlain →
      (s.Refuses level (.str text) fields ↔
        (∃ name ∈ ownNames (settings.logLevel.severity ≤ level.severity), fields.has name = true) ∨
          settings.logLevel.severity ≤ level.severity ∧
            (LogSetup.ofSettings settings).renderer = .console ∧
            ∃ f ∈ record, f.1 ∈ Renderer.trailingFields ∧ f.2.isNone = false ∧
              f.2.text? = none)) := by
  intro s call record answer
  have hrecords : s.setup.records level = decide (settings.logLevel.severity ≤ level.severity) :=
    records_after settings past level
  have haccepted (h : ¬ s.Refuses level (.str text) fields) : s.step call = .ok (s, answer) := by
    have hstep := step_log_of_not_refuses h
    simpa only [hrecords, decide_eq_true_eq] using hstep
  obtain ⟨hevent, hmessage, hlevel⟩ := get?_recordOf_own s.context level text fields
  refine ⟨step_log_of_refuses, haccepted, ?_, hevent, hmessage, hlevel, ?_, ?_⟩
  · intro rest t answers hrun
    obtain ⟨u, given, hstep, hgiven⟩ := getElem?_answers hrun
    by_cases hrefuses : s.Refuses level (.str text) fields
    · obtain ⟨fault, hfault⟩ := step_log_of_refuses hrefuses
      cases hfault.symm.trans hstep
    · cases (haccepted hrefuses).symm.trans hstep
      exact hgiven
  · intro name hreserved w
    rw [get?_recordOf _ level text fields hreserved, Option.map_eq_some_iff]
    simp only [s, Option.or_eq_some_iff, get?_context_after, and_comm]
  · intro hpast hfields
    have hplain := allPlain_recordOf (allPlain_context_after settings hpast) hfields level text
    have hsetup : s.setup = LogSetup.ofSettings settings := ((start settings).after_eq past).1
    rw [Refuses, hrecords, decide_eq_true_eq, hsetup, not_accepts_iff hplain]

/-! A program in development, in the scope of a table, after that of a request. -/

def tableSteps : List Step :=
  [.enter [("table", .str "users")], .enter [("request", .str "r1")], .exit]

def countFields : Fields := [("statement_count", .int 2)]

theorem recorded_of_settings_tableSteps :
    let s := (start {}).after tableSteps
    let record := recordOf s.context .info (.str "Creating table") countFields
    (∀ scope, .enter scope ∈ tableSteps → scope.AllPlain) ∧ countFields.AllPlain ∧
      s.step (.log .info (.str "Creating table") countFields) = .ok (s, .records [record]) ∧
      record.get? "statement_count" = some (.int 2) ∧ record.get? "table" = some (.str "users") := by
  intro s record
  have hpast : ∀ scope, .enter scope ∈ tableSteps → scope.AllPlain := by
    simp [tableSteps, Fields.AllPlain, Value.isPlain]
  have hfields : countFields.AllPlain := by simp [countFields, Fields.AllPlain, Value.isPlain]
  obtain ⟨-, haccepted, -, -, -, -, hfield, hrefuses⟩ :=
    recorded_of_settings {} tableSteps .info "Creating table" countFields
  refine ⟨hpast, hfields, haccepted ?_, ?_, ?_⟩
  · rw [hrefuses hpast hfields]
    decide +kernel
  · exact (hfield "statement_count" (by decide) _).2 ⟨.int 2, rfl, .inl rfl⟩
  · refine (hfield "table" (by decide) _).2
      ⟨.str "users", rfl, .inr ⟨rfl, [], _, _, rfl, rfl, ?_⟩⟩
    simp [scopeEvents, ScopeEvent.Mentions, Fields.has]

/-- **Calls that are refused** although their level is high enough and their values are plain, in
production and in development. -/
theorem call_refused :
    let production := start { environment := .production }
    let development := start {}
    production.setup.records .info = true ∧
      production.step (.log .info (.str "started") [("method_name", .str "start")]) =
        .error .ownName ∧
      development.setup.records .info = true ∧
      development.step (.log .info (.str "failed") [("exception", .int 5)]) = .error .unwritable :=
  ⟨rfl, rfl, rfl, rfl⟩

end LogSession

end TableDdl
