import TableDdl.Value.Display

/-!
# SQL literals

Model of `quote_literal`, `_quote_values` and `render_default`.

A string literal stands between single quotes and writes every quote inside it twice. The literals
of a list are separated by `, `. A default is written as `NULL`, a number or a string literal.

`readBody` reads a string literal back by the standard's rules. `readBody_encode` says that it stops
at the quote that closes the literal, whatever follows, unless that is another quote.
-/

namespace TableDdl.Literal

/-- A text with every single quote written twice. -/
def encode : List Char → List Char
  | [] => []
  | c :: cs => if c = '\'' then '\'' :: '\'' :: encode cs else c :: encode cs

def quoteChars (cs : List Char) : List Char := '\'' :: encode cs ++ ['\'']

/-- A string literal, `quote_literal`. -/
def quote (s : String) : String := String.ofList (quoteChars s.toList)

/-- Literals separated by `, `, `_quote_values`. -/
def quoteAll (values : List String) : String := ", ".intercalate (values.map quote)

/-- The text of a default by `render_default`, with all digits; the values that have none are not
`NULL`, numbers or texts. A number is written as it is put into any other text, which is its label if
it has one. -/
def defaultText? : Value → Option String
  | .none => some "NULL"
  | .bool b => some (if b then "1" else "0")
  | .str s => some (quote s)
  | .dialect d => some (quote d.name)
  | v => if v.number?.any Number.isFinite then some v.display else none

/-! ## Reading literals -/

/-- Reads up to the quote that closes a literal, and returns the text and what follows. -/
def readBody : List Char → Option (List Char × List Char)
  | [] => none
  | '\'' :: '\'' :: cs => (readBody cs).map fun r => ('\'' :: r.1, r.2)
  | '\'' :: cs => some ([], cs)
  | c :: cs => (readBody cs).map fun r => (c :: r.1, r.2)

/-- Reads one string literal. -/
def read : List Char → Option (List Char × List Char)
  | '\'' :: cs => readBody cs
  | _ => none

/-- Reads a literal whose text may also hold escapes: a backslash stands for nothing, and the
character after it for itself. -/
def readEscapedBody : List Char → Option (List Char × List Char)
  | [] => none
  | '\\' :: c :: cs => (readEscapedBody cs).map fun r => (c :: r.1, r.2)
  | '\'' :: '\'' :: cs => (readEscapedBody cs).map fun r => ('\'' :: r.1, r.2)
  | '\'' :: cs => some ([], cs)
  | c :: cs => (readEscapedBody cs).map fun r => (c :: r.1, r.2)

/-- Literals separated by `, `, up to the end of the text. -/
def readAll (fuel : Nat) (cs : List Char) : Option (List (List Char)) :=
  match fuel with
  | 0 => none
  | fuel + 1 =>
    match read cs with
    | none => none
    | some (s, []) => some [s]
    | some (s, ',' :: ' ' :: rest) => (readAll fuel rest).map (s :: ·)
    | some _ => none

theorem readBody_cons {c : Char} {cs : List Char} (h : c ≠ '\'') :
    readBody (c :: cs) = (readBody cs).map fun r => (c :: r.1, r.2) := by
  cases cs with
  | nil => simp [readBody]
  | cons d ds => simp [readBody, h]

/-- **A literal ends at its last quote.** -/
theorem readBody_encode (cs : List Char) {rest : List Char} (h : rest.head? ≠ some '\'') :
    readBody (encode cs ++ '\'' :: rest) = some (cs, rest) := by
  induction cs with
  | nil =>
    cases rest with
    | nil => rfl
    | cons c rest =>
      have hc : c ≠ '\'' := by simpa using h
      simp [encode, readBody, hc]
  | cons c cs ih =>
    by_cases hc : c = '\''
    · subst hc
      simp [encode, readBody, ih]
    · simp only [encode, if_neg hc, List.cons_append, readBody_cons hc, ih, Option.map_some]

theorem read_quoteChars (cs : List Char) {rest : List Char} (h : rest.head? ≠ some '\'') :
    read (quoteChars cs ++ rest) = some (cs, rest) := by
  simp only [quoteChars, List.cons_append, List.append_assoc, List.nil_append, read]
  exact readBody_encode cs h

end TableDdl.Literal
