import TableDdl.Log.Logger
import TableDdl.Proofs.Log.Recorded

/-!
# The logger that a record names

What is under `logger` in the records of a program, which has asked for loggers by name and calls one
of them.

* `LogProgram.after_eq`: after any steps a program has one logger for each name that it has asked for,
  and its session is what it would be without loggers;
* `Logger.get?_record_logger`, `LogProgram.logger_of_step_log`: a record names its logger by the name
  that the factory has left it, and the library if there is none;
* `LogProgram.records_name_library`: **with loggers that have no names every record names the library**.
  It carries the name that its logger was asked for by iff that is the name of the library
  (`LogProgram.logger_name_lost`).
-/

namespace TableDdl

/-! ## One record -/

section
variable (logger : Logger) (ctx : Context) (level : Level) (event : Value) (fields : Fields)

/-- **A record names its logger, or else the library**, whatever the call and the context hold. -/
theorem Logger.get?_record_logger : (logger.record ctx level event fields).get? "logger" =
    some (logger.ownName.getD (.str "tablegen")).decoded := by
  unfold Logger.record Fields.nameLogger
  rw [Fields.get?_renameEvent_of_ne _ (by decide) (by decide), Fields.get?_decodeBytes,
    Fields.get?_renderStack_of_ne _ (by decide) (by decide), Fields.get?_put_of_ne _ _ (by decide),
    Fields.get?_put_self]
  rfl

end

section
variable {s : LogSession} {logger : Logger} {level : Level} {event : Value} {fields : Fields}

theorem LogSession.eq_record_of_emit {rs : List Fields} {record : Fields}
    (h : s.emit logger level event fields = .ok rs) (hrecord : record ∈ rs) :
    record = logger.record s.context level event fields := by
  simp only [emit] at h
  split at h
  · cases h
  · split at h
    · cases h
      cases hrecord
    · split at h
      · cases h
        exact List.mem_singleton.1 hrecord
      · cases h

/-- A session without loggers names the library. -/
theorem LogSession.logger_of_step_log {t : LogSession} {rs : List Fields} {record : Fields}
    (h : s.step (.log level event fields) = .ok (t, .records rs)) (hrecord : record ∈ rs) :
    record.get? "logger" = some (.str "tablegen") := by
  rw [step_log_eq_emit] at h
  obtain ⟨emitted, hemit, hpair⟩ := bind_eq_ok h
  cases hpair
  rw [eq_record_of_emit hemit hrecord, Logger.get?_record_logger]
  rfl

end

/-- Steps are made one after the other. -/
theorem LogSession.after_cons (s : LogSession) (st : Step) (rest : List Step) :
    s.after (st :: rest) = (s.after [st]).after rest := by
  simp only [after]
  cases s.step st with
  | ok result => rfl
  | error fault => rfl

/-- A log call leaves a session as it was, also where it is refused. -/
theorem LogSession.after_log (s : LogSession) (level : Level) (event : Value) (fields : Fields) :
    s.after [.log level event fields] = s := by
  simp only [after]
  cases h : s.step (.log level event fields) with
  | ok result => exact step_log h
  | error fault => rfl

namespace LogProgram

/-! ## Programs -/

def start (settings : Settings) : LogProgram := { session := .start settings }

/-- The program after a step. One that is refused leaves it as it was. -/
def next (make : LoggerFactory) (p : LogProgram) (st : Step) : LogProgram :=
  match p.step make st with
  | .ok (q, _) => q
  | .error _ => p

def after (make : LoggerFactory) (p : LogProgram) (steps : List Step) : LogProgram :=
  steps.foldl (next make) p

/-- The names that loggers are asked for by, in order. -/
def askedFor (steps : List Step) : List Value :=
  steps.filterMap fun
    | .getLogger name => some name
    | _ => none

section
variable (make : LoggerFactory) (p : LogProgram)

/-- The program with what a step that no logger has a part in makes of its session. -/
theorem next_of_inSession (st : Step) (h : p.step make st = p.inSession st.plain) :
    p.next make st = { p with session := p.session.after [st.plain] } := by
  rw [next, h, inSession]
  simp only [LogSession.after]
  cases p.session.step st.plain with
  | ok result => rfl
  | error fault => rfl

variable {make p} in
/-- What a log call needs, and what comes of it. -/
theorem step_log_eq_ok_iff {place : Nat} {level : Level} {event : Value} {fields : Fields}
    {q : LogProgram} {answer : LogSession.Answer} :
    p.step make (.log place level event fields) = .ok (q, answer) ↔
      q = p ∧ ∃ logger rs, p.loggers[place]? = some logger ∧
        p.session.emit logger level event fields = .ok rs ∧ answer = .records rs := by
  simp only [step]
  cases p.loggers[place]? with
  | none => exact iff_of_false nofun fun ⟨_, _, _, h, _⟩ => nomatch h
  | some logger =>
    cases hemit : p.session.emit logger level event fields with
    | error fault => simp [hemit]
    | ok rs => simp [hemit, eq_comm]

/-- A program is left as it was, too. -/
theorem next_log (place : Nat) (level : Level) (event : Value) (fields : Fields) :
    p.next make (.log place level event fields) = p := by
  unfold next
  cases h : p.step make (.log place level event fields) with
  | ok result => exact (step_log_eq_ok_iff.1 h).1
  | error fault => rfl

/-- **One step**: a logger is added for a name, and what becomes of the session has nothing to do with
loggers. -/
theorem next_eq (st : Step) :
    p.next make st =
      { session := p.session.after [st.plain]
        loggers := p.loggers ++ (askedFor [st]).map fun name => make (loggerName name) } := by
  cases st with
  | enter scope =>
    rw [next_of_inSession make p (.enter scope) rfl]
    exact congrArg (LogProgram.mk _) (List.append_nil _).symm
  | exit =>
    rw [next_of_inSession make p .exit rfl]
    exact congrArg (LogProgram.mk _) (List.append_nil _).symm
  | getLogger name => rfl
  | log place level event fields =>
    rw [next_log, Step.plain, LogSession.after_log]
    exact congrArg (LogProgram.mk _) (List.append_nil _).symm

end

/-- **After any steps** there is one logger for each name, in the order in which they were asked for,
and the session is what it would be without loggers. -/
theorem after_eq (make : LoggerFactory) (p : LogProgram) (steps : List Step) :
    p.after make steps =
      { session := p.session.after (steps.map Step.plain)
        loggers := p.loggers ++ (askedFor steps).map fun name => make (loggerName name) } := by
  induction steps generalizing p with
  | nil => exact congrArg (LogProgram.mk _) (List.append_nil _).symm
  | cons st rest ih =>
    have hasked : askedFor (st :: rest) = askedFor [st] ++ askedFor rest :=
      List.filterMap_append (l := [st])
    show (p.next make st).after make rest = _
    rw [ih, next_eq, hasked, List.map_append, List.append_assoc, List.map_cons,
      LogSession.after_cons _ _ (rest.map Step.plain)]

/-! ## What the records of a program name -/

section
variable {make : LoggerFactory} {p q : LogProgram} {place : Nat} {level : Level} {event : Value}
  {fields : Fields} {rs : List Fields}

/-- **A record carries what the factory has made of the name that its logger was asked for by.** -/
theorem logger_of_step_log {settings : Settings} {past : List Step}
    (h : ((start settings).after make past).step make (.log place level event fields) =
      .ok (q, .records rs)) :
    ∃ name, (askedFor past)[place]? = some name ∧ ∀ record ∈ rs, record.get? "logger" =
      some ((make (loggerName name)).ownName.getD (.str "tablegen")).decoded := by
  obtain ⟨-, logger, emitted, hlogger, hemit, hrecords⟩ := step_log_eq_ok_iff.1 h
  cases hrecords
  rw [after_eq, start, List.nil_append, List.getElem?_map] at hlogger
  obtain ⟨name, hname, rfl⟩ := Option.map_eq_some_iff.1 hlogger
  refine ⟨name, hname, fun record hrecord => ?_⟩
  rw [LogSession.eq_record_of_emit hemit hrecord, Logger.get?_record_logger]

/-- A logger without a name of its own logs what the session does. -/
theorem step_log_iff_of_nameless {logger : Logger} (hlogger : p.loggers[place]? = some logger)
    (hnameless : logger.ownName = none) :
    p.step make (.log place level event fields) = .ok (p, .records rs) ↔
      p.session.step (.log level event fields) = .ok (p.session, .records rs) := by
  obtain rfl : logger = {} := congrArg Logger.mk hnameless
  rw [step_log_eq_ok_iff, LogSession.step_log_eq_emit, hlogger]
  cases hemit : p.session.emit {} level event fields with
  | ok emitted => simp [hemit, Except.map, eq_comm]
  | error fault => simp [hemit, Except.map]

end

/-- **With loggers that have no names every record names the library**, for all settings, after any
steps, of which those that are refused leave nothing behind, and for every call of a logger that has
been asked for. So a record carries the name that its logger was asked for by iff that is the name of
the library, given or by default. The program's records are those of a session that knows no
loggers. -/
theorem records_name_library {make : LoggerFactory} (hnameless : ∀ name, (make name).ownName = none)
    (settings : Settings) (past : List Step) (place : Nat) (level : Level) (event : Value)
    (fields : Fields) :
    let p := (start settings).after make past
    let s := (LogSession.start settings).after (past.map Step.plain)
    let call := Step.log place level event fields
    (∀ q rs, p.step make call = .ok (q, .records rs) →
      ∃ name, (askedFor past)[place]? = some name ∧ ∀ record ∈ rs,
        record.get? "logger" = some (.str "tablegen") ∧
          (record.get? "logger" = some (loggerName name) ↔ loggerName name = .str "tablegen")) ∧
    (∀ name, (askedFor past)[place]? = some name → ∀ rs,
      p.step make call = .ok (p, .records rs) ↔ s.step call.plain = .ok (s, .records rs)) ∧
    ∀ rest t answers rs,
      (LogSession.start settings).run ((past ++ call :: rest).map Step.plain) = .ok (t, answers) →
        answers[past.length]? = some (.records rs) →
          ∀ record ∈ rs, record.get? "logger" = some (.str "tablegen") := by
  intro p s call
  have hsession : p.session = s := congrArg session (after_eq make (start settings) past)
  refine ⟨fun q rs hstep => ?_, fun name hname rs => ?_, ?_⟩
  · obtain ⟨name, hname, hlogger⟩ := logger_of_step_log hstep
    refine ⟨name, hname, fun record hrecord => ?_⟩
    have hlibrary : record.get? "logger" = some (.str "tablegen") := by
      rw [hlogger record hrecord, hnameless]
      rfl
    refine ⟨hlibrary, ?_⟩
    rw [hlibrary, Option.some.injEq, eq_comm]
  · have hlogger : p.loggers[place]? = some (make (loggerName name)) := by
      simp only [p, after_eq, start, List.nil_append, List.getElem?_map, hname]
      rfl
    rw [step_log_iff_of_nameless hlogger (hnameless _), hsession]
    rfl
  · intro rest t answers rs hrun hanswer record hrecord
    rw [List.map_append, List.map_cons] at hrun
    obtain ⟨u, answer, hstep, hgiven⟩ := LogSession.getElem?_answers hrun
    rw [List.length_map, hanswer] at hgiven
    cases hgiven
    exact LogSession.logger_of_step_log hstep hrecord

/-! A program in production that has asked for one logger, by its own name. -/

def testSettings : Settings := { environment := .production }

def testSteps : List Step := [.getLogger (.str "tablegen.test")]

theorem records_name_library_test :
    let p := (start testSettings).after .printing testSteps
    (∀ name, (LoggerFactory.printing name).ownName = none) ∧
      ∃ record, p.step .printing (.log 0 .info (.str "Table created") []) = .ok (p, .records [record]) ∧
        record.get? "logger" = some (.str "tablegen") := by
  intro p
  have hnameless : ∀ name, (LoggerFactory.printing name).ownName = none := fun name => rfl
  obtain ⟨hnames, -, -⟩ :=
    records_name_library hnameless testSettings testSteps 0 .info (.str "Table created") []
  have hstep : p.step .printing (.log 0 .info (.str "Table created") []) =
      .ok (p, .records [recordOf [] .info (.str "Table created") []]) := rfl
  obtain ⟨name, -, hrecords⟩ := hnames p _ hstep
  exact ⟨hnameless, _, hstep, (hrecords _ List.mem_cons_self).1⟩

/-- **The name of a logger is lost**: this record of a logger that was asked for by another name names
the library, and so does the session's. -/
theorem logger_name_lost :
    let p := (start testSettings).after .printing testSteps
    let call := Step.log 0 .info (.str "Table created") []
    ∃ record,
      p.step .printing call = .ok (p, .records [record]) ∧
      (LogSession.start testSettings).run ((testSteps ++ [call]).map Step.plain) =
        .ok (.start testSettings, [.done, .records [record]]) ∧
      record.get? "logger" = some (.str "tablegen") ∧
      record.get? "logger" ≠ some (loggerName (.str "tablegen.test")) := by
  refine ⟨recordOf [] .info (.str "Table created") [], rfl, rfl, rfl, ?_⟩
  have hother : loggerName (.str "tablegen.test") ≠ .str "tablegen" := by
    intro h
    exact absurd (Value.str.inj h) (by decide)
  exact fun h => hother (Option.some.inj h).symm

end LogProgram

end TableDdl
