import TableDdl.Action
import TableDdl.Dialect

/-!
# Values

The arguments of a column builder, the settings of a program and the fields of a log record are
values of any kind, and a rejected value is shown in the message that rejects it. `Value` is the
type of all of them. Dialects, referential actions, references and foreign keys are values too.

A dialect counts as text, like its name (`Value.text?`), although it is written as a dialect where
values are put into a text. So a text has two forms, `Text.content` and `Text.display`, and they
differ for dialects. Members of other enumerations are like that too: one that is a number counts as
that number (`Value.number?`), and is written as its label.
-/

namespace TableDdl

inductive Number where
  | int (i : Int)
  | float (x : Float)
  deriving Inhabited, BEq

/-- Labels are made of names and digits, and of what joins or signs them. -/
def isLabelChar (c : Char) : Bool :=
  c.isAlphanum || ['_', '.', '|', '-'].contains c || 0x7F < c.toNat

/-- How a member of an enumeration is written. -/
structure Label where
  text : String
  isLabel : text.toList.all isLabelChar = true := by decide
  deriving DecidableEq

instance : Inhabited Label := ⟨⟨"", rfl⟩⟩

inductive Value where
  | none
  | bool (b : Bool)
  | int (i : Int)
  | float (x : Float)
  | str (s : String)
  | bytes (bs : List UInt8)
  | list (vs : List Value)
  | tuple (vs : List Value)
  | dict (entries : List (Value × Value))
  | dialect (d : Dialect)
  | action (a : ReferentialAction)
  | reference (table column : Value)
  | foreignKey (references onDelete onUpdate : Value)
  /-- A member of another enumeration, with the number that it is, if it is one, and its value. -/
  | member (label : Label) (described : String) (number : Option Number) (value : Value)
  /-- An object of which no more is known than its attributes. -/
  | object (attributes : List (String × Value))
  deriving Inhabited, BEq

/-- A number counts as set unless it is zero. -/
def Number.truthy : Number → Bool
  | .int i => i != 0
  | .float x => !(x == 0)

def Number.isFinite : Number → Bool
  | .int _ => true
  | .float x => x.isFinite

namespace Value

/-- A value that a flag may hold counts as set unless it is absent, false, zero or empty. -/
def truthy : Value → Bool
  | .none => false
  | .bool b => b
  | .int i => Number.truthy (.int i)
  | .float x => Number.truthy (.float x)
  | .str s => s != ""
  | .bytes bs => !bs.isEmpty
  | .list vs => !vs.isEmpty
  | .tuple vs => !vs.isEmpty
  | .dict es => !es.isEmpty
  | .dialect _ => true
  | .action _ => true
  | .reference .. => true
  | .foreignKey .. => true
  | .member _ _ number _ => (number.map Number.truthy).getD true
  | .object _ => true

def isNone : Value → Bool
  | .none => true
  | _ => false

theorem isNone_iff {v : Value} : v.isNone = true ↔ v = .none := by
  cases v <;> simp [isNone]

/-- Numbers, of which the booleans are none. -/
def number? : Value → Option Number
  | .int i => some (.int i)
  | .float x => some (.float x)
  | .member _ _ number _ => number
  | _ => Option.none

/-- The integers of `_is_integer`. -/
def int? (v : Value) : Option Int :=
  match v.number? with
  | some (.int i) => some i
  | _ => Option.none

theorem int?_eq_some_iff {v : Value} {i : Int} : v.int? = some i ↔ v.number? = some (.int i) := by
  unfold int?
  split
  next j hj => simp [hj]
  next hnot => simpa using fun h => hnot i h

/-- How a value is written that is a member of another enumeration. -/
def label? : Value → Option Label
  | .member label _ _ _ => some label
  | _ => Option.none

/-- The attribute `value`. Members of enumerations have one, and other objects may. -/
def valueAttribute? : Value → Option Value
  | .dialect d => some (.str d.name)
  | .action a => some (.str a.sql)
  | .member _ _ _ value => some value
  | .object attributes => attributes.lookup "value"
  | _ => Option.none

/-- The members of a value that can be gone through: the characters of a text, the numbers of a byte
string, the keys of a dictionary. -/
def elements? : Value → Option (List Value)
  | .str s => some (s.toList.map fun c => .str (String.singleton c))
  | .dialect d => some (d.name.toList.map fun c => .str (String.singleton c))
  | .bytes bs => some (bs.map fun b => .int b.toNat)
  | .list vs => some vs
  | .tuple vs => some vs
  | .dict es => some (es.map Prod.fst)
  | _ => Option.none

end Value

/-! ## Text -/

/-- A text value: a plain string, or a dialect that stands for its name. -/
inductive Text where
  | plain (s : String)
  | dialect (d : Dialect)
  deriving DecidableEq, Repr

namespace Text

/-- The characters of a text. -/
def content : Text → String
  | .plain s => s
  | .dialect d => d.name

/-- A text as it is put into other text. -/
def display : Text → String
  | .plain s => s
  | .dialect d => d.label

def toValue : Text → Value
  | .plain s => .str s
  | .dialect d => .dialect d

def isEmpty (t : Text) : Bool := t.content == ""

end Text

namespace Value

def text? : Value → Option Text
  | .str s => some (.plain s)
  | .dialect d => some (.dialect d)
  | _ => Option.none

/-- A text with at least one character, `_is_full_string`. -/
def fullText? (v : Value) : Option Text := v.text?.filter (!·.isEmpty)

@[simp] theorem text?_toValue (t : Text) : t.toValue.text? = some t := by cases t <;> rfl

theorem text?_eq_some_iff {v : Value} {t : Text} : v.text? = some t ↔ v = t.toValue := by
  cases v <;> cases t <;> simp [text?, Text.toValue]

theorem mapM_text?_eq_some_iff {values : List Value} {texts : List Text} :
    values.mapM text? = some texts ↔ values = texts.map Text.toValue := by
  induction values generalizing texts with
  | nil => cases texts <;> simp
  | cons v vs ih =>
    rw [List.mapM_cons]
    constructor
    · intro h
      obtain ⟨t, ht, h⟩ := Option.bind_eq_some_iff.1 h
      obtain ⟨ts, hts, h⟩ := Option.bind_eq_some_iff.1 h
      obtain rfl := Option.some.inj h
      rw [text?_eq_some_iff.1 ht, ih.1 hts, List.map_cons]
    · intro h
      cases texts with
      | nil => cases h
      | cons t ts =>
        obtain ⟨rfl, hvs⟩ := List.cons.inj h
        rw [text?_toValue, ih.2 hvs]
        rfl

theorem fullText?_eq_some_iff {v : Value} {t : Text} :
    v.fullText? = some t ↔ v = t.toValue ∧ t.content ≠ "" := by
  simp [fullText?, Option.filter_eq_some_iff, text?_eq_some_iff, Text.isEmpty]

end Value

end TableDdl
