import TableDdl.Decimal.Notation
import TableDdl.Numeral
import TableDdl.Unicode.Printable
import TableDdl.Value

/-!
# The text of a value

A value has two texts. `Value.describe` shows what kind of value it is, so that strings are quoted
and dialects name themselves and their engine; it is used for rejected values. `Value.display` is
the text that a value contributes where it is put into other text: a string or a dialect stands for
itself there, and every other value is described.

Both are the texts with all digits. An integer with very many digits is not written, on its own or
inside another value, and what is written is `Value.describe?` and `Value.display?`.
-/

namespace TableDdl

/-- Floats are written with the fewest digits that identify them, without an exponent from `1e-4` to
below `1e16` and with a signed exponent of at least two digits elsewhere. -/
def Value.floatLayout : Decimal.Layout where
  plainFrom := -4
  plainBelow := 16
  exponentWidth := 2
  notANumber := "nan"
  infinity := "inf"

namespace Quoted

/-- A quoted text stands between single quotes, unless it holds one and no double quote. -/
def quoteFor (cs : List Char) : Char := if '\'' ∈ cs ∧ '"' ∉ cs then '"' else '\''

/-- `width` hexadecimal digits. -/
def hex (width n : Nat) : List Char :=
  let digits := Nat.toDigits 16 n
  List.replicate (width - digits.length) '0' ++ digits

/-- A character inside quotes: unprintable characters are written as their code point. -/
def escapeChar (quote c : Char) : List Char :=
  if c = quote ∨ c = '\\' then ['\\', c]
  else if c = '\t' then ['\\', 't']
  else if c = '\n' then ['\\', 'n']
  else if c = '\r' then ['\\', 'r']
  else if Unicode.isPrintable c then [c]
  else if c.toNat ≤ 0xFF then '\\' :: 'x' :: hex 2 c.toNat
  else if c.toNat ≤ 0xFFFF then '\\' :: 'u' :: hex 4 c.toNat
  else '\\' :: 'U' :: hex 8 c.toNat

def describeText (s : String) : String :=
  let cs := s.toList
  let quote := quoteFor cs
  String.ofList (quote :: cs.flatMap (escapeChar quote) ++ [quote])

/-- A byte inside quotes: bytes that are not printable ASCII are written in hexadecimal. -/
def escapeByte (quote : Char) (b : UInt8) : List Char :=
  let c := Char.ofNat b.toNat
  if b.toNat < 0x7F then escapeChar quote c else '\\' :: 'x' :: hex 2 b.toNat

def describeBytes (bs : List UInt8) : String :=
  let quote := quoteFor (bs.map fun b => Char.ofNat b.toNat)
  String.ofList ('b' :: quote :: bs.flatMap (escapeByte quote) ++ [quote])

end Quoted

namespace Value

mutual

def describe : Value → String
  | .none => "None"
  | .bool true => "True"
  | .bool false => "False"
  | .int i => i.repr
  | .float x => floatLayout.write x
  | .str s => Quoted.describeText s
  | .bytes bs => Quoted.describeBytes bs
  | .list vs => "[" ++ ", ".intercalate (describeAll vs) ++ "]"
  | .tuple [v] => "(" ++ v.describe ++ ",)"
  | .tuple vs => "(" ++ ", ".intercalate (describeAll vs) ++ ")"
  | .dict es => "\x7b" ++ ", ".intercalate (describeEntries es) ++ "\x7d"
  | .dialect d => "<" ++ d.label ++ ": " ++ Quoted.describeText d.name ++ ">"
  | .action a => "<" ++ a.label ++ ": " ++ Quoted.describeText a.sql ++ ">"
  | .reference t c => "Reference(table=" ++ t.describe ++ ", column=" ++ c.describe ++ ")"
  | .foreignKey r d u =>
    "ForeignKey(references=" ++ r.describe ++ ", on_delete=" ++ d.describe
      ++ ", on_update=" ++ u.describe ++ ")"
  | .member _ described _ _ => described
  | .object attributes => "namespace(" ++ ", ".intercalate (describeAttributes attributes) ++ ")"

def describeAll : List Value → List String
  | [] => []
  | v :: vs => v.describe :: describeAll vs

def describeEntries : List (Value × Value) → List String
  | [] => []
  | (k, v) :: es => (k.describe ++ ": " ++ v.describe) :: describeEntries es

def describeAttributes : List (String × Value) → List String
  | [] => []
  | (name, v) :: rest => (name ++ "=" ++ v.describe) :: describeAttributes rest

end

def display : Value → String
  | .str s => s
  | .dialect d => d.label
  | .action a => a.label
  | .member label _ _ _ => label.text
  | v => v.describe

theorem display_toValue (t : Text) : t.toValue.display = t.display := by cases t <;> rfl

/-! ## What is written -/

/-- As many digits as are read are written. -/
def isShort (i : Int) : Bool := (Nat.toDigits 10 i.natAbs).length ≤ Numeral.digitLimit

mutual

/-- No integer in the value has too many digits. The description of a member shows its value. -/
def isWritable : Value → Bool
  | .none | .bool _ | .float _ | .str _ | .bytes _ | .dialect _ | .action _ => true
  | .int i => isShort i
  | .list vs => areWritable vs
  | .tuple vs => areWritable vs
  | .dict es => entriesAreWritable es
  | .reference t c => t.isWritable && c.isWritable
  | .foreignKey r d u => r.isWritable && d.isWritable && u.isWritable
  | .member _ _ _ value => value.isWritable
  | .object attributes => attributesAreWritable attributes

def areWritable : List Value → Bool
  | [] => true
  | v :: vs => v.isWritable && areWritable vs

def entriesAreWritable : List (Value × Value) → Bool
  | [] => true
  | (k, v) :: es => k.isWritable && v.isWritable && entriesAreWritable es

def attributesAreWritable : List (String × Value) → Bool
  | [] => true
  | (_, v) :: rest => v.isWritable && attributesAreWritable rest

end

/-- The description of a value, unless a number in it has too many digits. -/
def describe? (v : Value) : Option String := if v.isWritable then some v.describe else Option.none

/-- What is put into other text. Of a member this is its label, whatever its value is. -/
def display? : Value → Option String
  | .member label _ _ _ => some label.text
  | v => if v.isWritable then some v.display else Option.none

theorem isShort_iff {i : Int} : isShort i = true ↔ i.natAbs < Nat.pow 10 Numeral.digitLimit := by
  rw [isShort, decide_eq_true_iff, Nat.pow_eq, Nat.length_toDigits_le_iff (by decide) (by decide)]

theorem isSome_describe? (v : Value) : v.describe?.isSome = v.isWritable := by
  unfold describe?
  cases v.isWritable <;> rfl

theorem display_of_display? {v : Value} {text : String} (h : v.display? = some text) :
    v.display = text := by
  unfold display? at h
  split at h
  · exact Option.some.inj h
  · split at h
    · exact Option.some.inj h
    · cases h

/-- The least integer with too many digits. -/
def tooLong : Value := .int (Nat.pow 10 Numeral.digitLimit)

theorem isWritable_tooLong : tooLong.isWritable = false := by
  rw [tooLong, isWritable, ← Bool.not_eq_true, isShort_iff, Int.natAbs_natCast]
  exact Nat.lt_irrefl _

theorem display?_tooLong : tooLong.display? = Option.none := by
  have := isWritable_tooLong
  rw [tooLong] at this ⊢
  rw [display?, this]
  · rfl
  · exact fun _ _ _ _ h => by cases h

theorem display?_str (s : String) : (Value.str s).display? = some s := rfl

@[simp] theorem display?_toValue (t : Text) : t.toValue.display? = some t.display := by
  cases t <;> rfl

end Value

end TableDdl
