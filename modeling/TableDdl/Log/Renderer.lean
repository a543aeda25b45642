import TableDdl.Log.Record

/-!
# Renderers

Model of what `JSONRenderer` and `ConsoleRenderer` cannot write.

A record is rendered as JSON for machines or in lines for the console. Not every record can be: JSON
has objects for dictionaries, and only some values can name the members of an object; the console
puts a call stack and an exception below the line, and both have to be text. `Renderer.accepts` says
which records a renderer can write: JSON all that hold plain values (`json_accepts_of_plain`), the
console all without such fields.
-/

namespace TableDdl

namespace Value

/-- Values that can name a member of an object. -/
def isMemberName : Value → Bool
  | .none | .bool _ | .str _ | .dialect _ => true
  | v => v.number?.isSome

mutual

/-- The dictionaries in a value, also those inside lists, tuples and other dictionaries, are
objects. Every other value is written as some text. -/
def isObjectTree : Value → Bool
  | .list vs => areObjectTrees vs
  | .tuple vs => areObjectTrees vs
  | .dict es => entriesAreObjectTrees es
  | _ => true

def areObjectTrees : List Value → Bool
  | [] => true
  | v :: vs => v.isObjectTree && areObjectTrees vs

def entriesAreObjectTrees : List (Value × Value) → Bool
  | [] => true
  | (k, v) :: es => k.isMemberName && v.isObjectTree && entriesAreObjectTrees es

end

/-- Text, integers, truth values and nothing. -/
def isPlain : Value → Bool
  | .none | .bool _ | .int _ | .str _ => true
  | _ => false

end Value

inductive Renderer where
  | json
  | console
  deriving DecidableEq, Repr

namespace Renderer

def name : Renderer → String
  | .json => "JSONRenderer"
  | .console => "ConsoleRenderer"

/-- The fields that the console writes below the line. -/
def trailingFields : List String := ["stack", "exception"]

def acceptsField : Renderer → String × Value → Bool
  | .json, (_, v) => v.isObjectTree
  | .console, (name, v) => !trailingFields.contains name || v.isNone || v.text?.isSome

/-- The renderer can write a record of these fields. -/
def accepts (r : Renderer) (fs : Fields) : Bool := fs.all r.acceptsField

theorem json_accepts_of_plain {fs : Fields} (h : ∀ f ∈ fs, f.2.isPlain = true) :
    json.accepts fs = true := by
  rw [accepts, List.all_eq_true]
  rintro ⟨n, v⟩ hf
  have := h _ hf
  cases v <;> simp_all [Value.isPlain, acceptsField, Value.isObjectTree]

end Renderer

end TableDdl
