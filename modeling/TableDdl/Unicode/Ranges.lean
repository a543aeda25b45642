/-!
# Sets of characters as ranges of code points

A property of characters is a list of closed ranges, and `inRanges` looks a code point up in it.
-/

namespace TableDdl.Unicode

/-- Closed ranges of code points. -/
abbrev Ranges := List (Nat × Nat)

def inRanges (ranges : Ranges) (c : Char) : Bool :=
  ranges.any fun r => r.1 ≤ c.toNat && c.toNat ≤ r.2

end TableDdl.Unicode
