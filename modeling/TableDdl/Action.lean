/-!
# Referential actions

Model of `ReferentialAction` and the constants for its members.

What happens to dependent rows when the row that they refer to changes.
-/

namespace TableDdl

inductive ReferentialAction where
  | cascade
  | setNull
  | setDefault
  | restrict
  | noAction
  deriving DecidableEq, Repr

namespace ReferentialAction

def all : List ReferentialAction := [.cascade, .setNull, .setDefault, .restrict, .noAction]

def memberName : ReferentialAction → String
  | .cascade => "CASCADE"
  | .setNull => "SET_NULL"
  | .setDefault => "SET_DEFAULT"
  | .restrict => "RESTRICT"
  | .noAction => "NO_ACTION"

/-- The phrase that follows `ON DELETE` or `ON UPDATE`. -/
def sql : ReferentialAction → String
  | .cascade => "CASCADE"
  | .setNull => "SET NULL"
  | .setDefault => "SET DEFAULT"
  | .restrict => "RESTRICT"
  | .noAction => "NO ACTION"

/-- The two-letter name of an action. -/
def shortcut : ReferentialAction → String
  | .cascade => "CA"
  | .setNull => "SN"
  | .setDefault => "SD"
  | .restrict => "RE"
  | .noAction => "NA"

def label (a : ReferentialAction) : String := "ReferentialAction." ++ a.memberName

/-- An action by its full name or by its shortcut. -/
def ofName? (name : String) : Option ReferentialAction :=
  all.find? fun a => a.memberName == name || a.shortcut == name

end ReferentialAction

end TableDdl
