/-!
# Tables of characters

A table gives characters to codes of two bytes. It is a list of runs: a run has the characters of at
most 48 successive codes, and the replacement character for a code that stands for nothing.
-/

namespace TableDdl.Unicode

abbrev CharTable := List (Nat × String)

namespace CharTable

def runLength : Nat := 48

def find? (t : CharTable) (code : Nat) : Option Char :=
  t.findSome? fun r =>
    if r.1 ≤ code ∧ code < r.1 + runLength then
      r.2.toList[code - r.1]?.filter (· != '\uFFFD')
    else none

end CharTable

end TableDdl.Unicode
