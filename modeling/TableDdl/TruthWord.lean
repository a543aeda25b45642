/-!
# Words for truth values

Six words stand for each truth value, in ASCII letters of either case. `truthWord?` reads them.
-/

namespace TableDdl

def truthWords : Bool → List String
  | true => ["1", "on", "t", "true", "y", "yes"]
  | false => ["0", "off", "f", "false", "n", "no"]

def truthWord? (s : String) : Option Bool :=
  let word := s.toLower
  if (truthWords true).contains word then some true
  else if (truthWords false).contains word then some false
  else none

end TableDdl
