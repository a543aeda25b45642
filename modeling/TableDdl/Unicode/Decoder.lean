import TableDdl.Unicode.Halves

/-!
# Decoders

A decoder reads bytes in steps: what a byte and those after it stand for can depend on what came
before. A byte is given as the character whose code point has the same number. `Decoder.read` takes
one step after the other, until a step fails or nothing is left. Most decoders read characters;
others read code points, among which halves of characters can be (`Decoder.decodeLoose`).
-/

namespace TableDdl.Unicode

inductive DecodingFault where
  /-- Bytes stand for no character, or the text breaks off. -/
  | undecodable
  /-- Nothing shows in which order bytes come. -/
  | unmarked
  /-- Characters are in the form that stands for others, but for none. -/
  | malformed
  /-- The encoding is there to be none. -/
  | noEncoding
  /-- Characters are taken from a set that is there, but not to be read so. -/
  | unusableSet
  deriving DecidableEq, Repr

/-- A decoder with states `σ` reads pieces of the type `α`. -/
structure Decoder (σ α : Type) where
  start : σ
  /-- What a byte stands for, how many bytes after it belong to it, and the state after them. -/
  step : σ → Char → List Char → Except DecodingFault (List α × Nat × σ)
  /-- A text can end in this state. -/
  mayEnd : σ → Bool := fun _ => true

namespace Decoder

def read {σ α : Type} (d : Decoder σ α) (state : σ) (bytes : List Char) :
    Except DecodingFault (List α) :=
  match bytes with
  | [] => if d.mayEnd state then .ok [] else .error .undecodable
  | b :: rest => do
    let (pieces, more, next) ← d.step state b rest
    return pieces ++ (← d.read next (rest.drop more))
termination_by bytes.length
decreasing_by all_goals simp_wf; try omega

def decode {σ : Type} (d : Decoder σ Char) (bytes : List UInt8) : Except DecodingFault String :=
  (d.read d.start (bytes.map Char.ofUInt8)).map String.ofList

def decodeLoose {σ : Type} (d : Decoder σ Nat) (bytes : List UInt8) : Except DecodingFault String :=
  (d.read d.start (bytes.map Char.ofUInt8)).map fun us => String.ofList (joinLoose us)

end Decoder

end TableDdl.Unicode
