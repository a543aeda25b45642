/-!
# Tables of names

A table gives names to characters in the order of their code points. It is a list of runs, and a run
has the names of successive code points. Names are in capitals; a small letter begins a name and tells
how many words it has in common with the name before: `a` none, `b` one, and so on. The other words
follow. `NameTable.find?` is the code point of a name.
-/

namespace TableDdl.Unicode

abbrev NameTable := List (Nat × List String)

namespace NameTable

/-- The names that a text gives: how many words are those of the name before, and the others. -/
def split : List Char → List (Nat × List Char)
  | [] => []
  | c :: cs =>
    (c.toNat - 'a'.toNat, cs.takeWhile (!·.isLower)) :: split (cs.dropWhile (!·.isLower))
termination_by cs => cs.length
decreasing_by exact Nat.lt_succ_of_le (List.dropWhile_suffix _).length_le

/-- The names of a run, as words. -/
def expand (before : List String) : List (Nat × List Char) → List (List String)
  | [] => []
  | (shared, rest) :: more =>
    let name := before.take shared ++ (String.ofList rest).splitOn " "
    name :: expand name more

/-- The code point with a name, given the last name before the table. -/
def findAfter? (name before : List String) : NameTable → Option Nat
  | [] => none
  | (first, pieces) :: runs =>
    let names := expand before (split (String.join pieces).toList)
    match names.idxOf? name with
    | some i => some (first + i)
    | none => findAfter? name (names.getLastD before) runs

def find? (t : NameTable) (name : List String) : Option Nat := findAfter? name [] t

end NameTable

end TableDdl.Unicode
