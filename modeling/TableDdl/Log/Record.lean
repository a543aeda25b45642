import TableDdl.Value

/-!
# Log records

A log call has a level, an event and named fields. `Fields` keeps names in order, each once:
`Fields.put` writes a field in its place or at the end, and `Fields.get?` reads it
(`get?_put_self`, `get?_put_of_ne`).
-/

namespace TableDdl

inductive Level where
  | debug
  | info
  | warning
  | error
  | critical
  deriving DecidableEq, Repr

namespace Level

def all : List Level := [.debug, .info, .warning, .error, .critical]

/-- Lower-case, as in a record. -/
def name : Level → String
  | .debug => "debug"
  | .info => "info"
  | .warning => "warning"
  | .error => "error"
  | .critical => "critical"

/-- Upper-case, as in the settings. -/
def settingName : Level → String
  | .debug => "DEBUG"
  | .info => "INFO"
  | .warning => "WARNING"
  | .error => "ERROR"
  | .critical => "CRITICAL"

def severity : Level → Nat
  | .debug => 10
  | .info => 20
  | .warning => 30
  | .error => 40
  | .critical => 50

def ofName? (name : String) : Option Level := all.find? (·.name == name)

end Level

/-- Named values in order. -/
abbrev Fields := List (String × Value)

namespace Fields

def get? (fs : Fields) (name : String) : Option Value := fs.lookup name

def has (fs : Fields) (name : String) : Bool := fs.any (·.1 == name)

/-- Write a field: in its place if it is there, else at the end. -/
def put : Fields → String → Value → Fields
  | [], name, v => [(name, v)]
  | (n, w) :: fs, name, v => if n = name then (n, v) :: fs else (n, w) :: put fs name v

def erase (fs : Fields) (name : String) : Fields := fs.filter (·.1 != name)

/-- The fields of `fs`, and those of `more` whose names `fs` does not have. -/
def extend (fs more : Fields) : Fields := fs ++ more.filter fun f => !fs.has f.1

theorem get?_cons (n : String) (v : Value) (fs : Fields) (name : String) :
    get? ((n, v) :: fs) name = if n = name then some v else get? fs name := by
  unfold get?
  rw [List.lookup_cons]
  by_cases h : n = name
  · subst h; simp
  · have : (name == n) = false := by simpa using Ne.symm h
    simp [h, this]

theorem get?_put_self (fs : Fields) (name : String) (v : Value) :
    (fs.put name v).get? name = some v := by
  induction fs with
  | nil => simp [put, get?_cons]
  | cons f fs ih =>
    obtain ⟨n, w⟩ := f
    by_cases h : n = name <;> simp [put, h, get?_cons, ih]

theorem get?_put_of_ne (fs : Fields) {name other : String} (v : Value) (h : other ≠ name) :
    (fs.put name v).get? other = fs.get? other := by
  induction fs with
  | nil => simp [put, get?_cons, h.symm]
  | cons f fs ih =>
    obtain ⟨n, w⟩ := f
    by_cases hn : n = name
    · subst hn
      simp [put, get?_cons, Ne.symm h]
    · simp [put, hn, get?_cons, ih]

theorem get?_erase_self (fs : Fields) (name : String) : (fs.erase name).get? name = none := by
  induction fs with
  | nil => rfl
  | cons f fs ih =>
    obtain ⟨n, w⟩ := f
    by_cases h : n = name
    · simpa [erase, h] using ih
    · have : erase ((n, w) :: fs) name = (n, w) :: erase fs name := by simp [erase, h]
      rw [this, get?_cons, if_neg h, ih]

theorem get?_erase_of_ne (fs : Fields) {name other : String} (h : other ≠ name) :
    (fs.erase name).get? other = fs.get? other := by
  induction fs with
  | nil => rfl
  | cons f fs ih =>
    obtain ⟨n, w⟩ := f
    by_cases hn : n = name
    · subst hn
      have : erase ((n, w) :: fs) n = erase fs n := by simp [erase]
      rw [this, ih, get?_cons, if_neg (Ne.symm h)]
    · have : erase ((n, w) :: fs) name = (n, w) :: erase fs name := by simp [erase, hn]
      rw [this, get?_cons, get?_cons, ih]

theorem has_eq_isSome (fs : Fields) (name : String) : fs.has name = (fs.get? name).isSome := by
  induction fs with
  | nil => rfl
  | cons f fs ih =>
    obtain ⟨n, v⟩ := f
    rw [get?_cons]
    simp only [has, List.any_cons] at ih ⊢
    by_cases h : n = name <;> simp [h, ih]

/-- **A field of its own wins**; the others are those of `more`. -/
theorem get?_extend (fs more : Fields) (name : String) :
    (fs.extend more).get? name = (fs.get? name).or (more.get? name) := by
  unfold extend
  rw [get?, List.lookup_append]
  show (fs.get? name).or _ = _
  cases h : fs.get? name with
  | some v => rfl
  | none =>
    simp only [Option.none_or]
    have hn : fs.has name = false := by simp [has_eq_isSome, h]
    show get? _ name = _
    induction more with
    | nil => rfl
    | cons f more ih =>
      obtain ⟨n, w⟩ := f
      by_cases hf : fs.has n = true
      · have : n ≠ name := fun e => by simp [e, hn] at hf
        simp [hf, get?_cons, this, ih]
      · simp [hf, get?_cons, ih]

end Fields

/-- What a call by name logs: its level, and the fields that it has unless they are given. -/
def callNamed? (name : String) : Option (Level × Fields) :=
  match name with
  | "warn" => some (.warning, [])
  | "fatal" => some (.critical, [])
  | "msg" => some (.info, [])
  | "exception" => some (.error, [("exc_info", .bool true)])
  | _ => (Level.ofName? name).map fun level => (level, [])

/-- One log call, with the fields that the context adds to its own. -/
structure LogEvent where
  level : Level
  event : String
  fields : Fields := []

end TableDdl
