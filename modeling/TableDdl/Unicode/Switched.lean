import TableDdl.Unicode.Charset
import TableDdl.Unicode.MultiByte.Chinese
import TableDdl.Unicode.MultiByte.Korean
import TableDdl.Unicode.MultiByte.Japanese

/-!
# Encodings that switch between sets of characters

Bytes without the high bit stand for characters of different sets, and what stands before them says
of which. In one encoding a tilde does so. In the family of ISO 2022 an escape sequence puts a set
into one of three places: characters are taken from the first, from the second between two shifts,
and from the third one at a time.
-/

namespace TableDdl.Unicode

/-! ## Tildes -/

namespace TildeSwitched

/-- The state tells whether two bytes make a character. -/
def step (wide : Bool) (b : Char) (rest : List Char) :
    Except DecodingFault (List Char × Nat × Bool) :=
  match b, rest, wide with
  | '~', '~' :: _, false => .ok (['~'], 1, false)
  | '~', '{' :: _, false => .ok ([], 1, true)
  | '~', '\n' :: _, false => .ok ([], 1, false)
  | '~', '}' :: _, true => .ok ([], 1, false)
  | '~', _, _ => .error .undecodable
  | b, _, false => if b.toNat < 0x80 then .ok ([b], 0, false) else .error .undecodable
  | b, c :: _, true =>
    match CharTable.gb2312.atPair? b.toNat c.toNat with
    | some d => .ok ([d], 1, true)
    | none => .error .undecodable
  | _, [], true => .error .undecodable

def decoder : Decoder Bool Char where
  start := false
  step := step

end TildeSwitched

/-! ## Escape sequences -/

/-- A set has a final character to be put in place with. -/
structure Designation where
  isWide : Bool
  final : Char
  deriving DecidableEq, Repr

namespace Designation

def ascii : Designation := ⟨false, 'B'⟩

end Designation

inductive SwitchedSet where
  | narrow (char? : Nat → Option Char)
  /-- Two bytes stand for a character. -/
  | wide (chars? : Nat → Nat → Option (List Char))
  /-- The upper half of a charset, of which characters are taken one at a time. -/
  | upper (c : Charset)

structure EscapeSwitched where
  /-- The sets that there are besides ASCII. -/
  sets : List (Designation × SwitchedSet)
  hasShifts : Bool := false
  hasThirdPlace : Bool := false
  /-- A set can be announced as a later version. -/
  hasVersions : Bool := false

/-- The places of sets, and where in the text it is. -/
structure SwitchedState where
  first : Designation := .ascii
  second : Designation := .ascii
  third : Designation := .ascii
  isShifted : Bool := false
  /-- Within an escape sequence of another kind, which stays in the text. -/
  inEscape : Bool := false

namespace EscapeSwitched

abbrev Step := Except DecodingFault (List Char × Nat × SwitchedState)

def endsEscape (c : Char) : Bool := c.isUpper || c == '@'

/-- What follows the escape character, up to the end of the sequence. The announcement of a version
does not end it, and neither does what comes next. -/
def escapeBody (hasVersions : Bool) : List Char → List Char
  | [] => []
  | [c] => [c]
  | c :: d :: rest =>
    if hasVersions && c == '&' && d == '@' then
      match rest with
      | [] => [c, d]
      | e :: rest => c :: d :: e :: escapeBody hasVersions rest
    else if endsEscape c then [c]
    else c :: escapeBody hasVersions (d :: rest)

variable (e : EscapeSwitched) (s : SwitchedState)

def set? (d : Designation) : Option SwitchedSet := e.sets.lookup d

/-- Put a set in place. -/
def designate (rest : List Char) : Step :=
  let body := escapeBody e.hasVersions rest
  let put (d : Designation) (next : SwitchedState) : Step :=
    if d = .ascii ∨ (e.set? d).isSome then .ok ([], body.length, next) else .error .undecodable
  let putFirst (d : Designation) := put d { s with first := d }
  let putSecond (d : Designation) := put d { s with second := d }
  match body with
  | ['$', f] => putFirst ⟨true, f⟩
  | ['(', f] => putFirst ⟨false, f⟩
  | [')', f] => putSecond ⟨false, f⟩
  | ['.', f] =>
    if e.hasThirdPlace then put ⟨false, f⟩ { s with third := ⟨false, f⟩ }
    else .error .undecodable
  | ['$', '(', f] => putFirst ⟨true, f⟩
  | ['$', ')', f] => putSecond ⟨true, f⟩
  | [_, _, '\x1b', '$', 'B'] =>
    if e.hasVersions then putFirst ⟨true, 'B'⟩ else .error .undecodable
  | _ => .error .undecodable

/-- One character of the set in the third place; the escape character and two more bytes stand for
it. -/
def takeThird (c : Char) : Step :=
  let whole (d : Option Char) : Step :=
    match d with
    | some d => .ok ([d], 2, s)
    | none => .error .undecodable
  if 0x80 ≤ c.toNat then .error .undecodable
  else if s.third = .ascii then whole (some c)
  else
    match e.set? s.third with
    | some (.upper charset) => whole (charset.char? (UInt8.ofNat (c.toNat + 0x80)))
    | _ => .error .unusableSet

def takeCurrent (b : Char) (rest : List Char) : Step :=
  let current := if s.isShifted then s.second else s.first
  let whole (cs : Option (List Char)) (more : Nat) : Step :=
    match cs with
    | some cs => .ok (cs, more, s)
    | none => .error .undecodable
  if current = .ascii then whole (some [b]) 0
  else
    match e.set? current, rest with
    | some (.narrow char?), _ => whole ((char? b.toNat).map ([·])) 0
    | some (.wide chars?), c :: _ => whole (chars? b.toNat c.toNat) 1
    | _, _ => .error .undecodable

def step (b : Char) (rest : List Char) : Step :=
  if s.inEscape then .ok ([b], 0, { s with inEscape := !endsEscape b })
  else if b = '\x1b' then
    match rest with
    | [] => .error .undecodable
    | c :: after =>
      if "()$.&".toList.contains c then designate e s rest
      else if e.hasThirdPlace ∧ c = 'N' then
        match after with
        | [] => .error .undecodable
        | d :: _ => takeThird e s d
      else .ok ([b], 0, { s with inEscape := true })
  else if e.hasShifts ∧ (b = '\x0e' ∨ b = '\x0f') then
    .ok ([], 0, { s with isShifted := b = '\x0e' })
  else if b = '\n' then .ok ([b], 0, { s with isShifted := false })
  else if b.toNat < 0x20 then .ok ([b], 0, s)
  else if b.toNat < 0x80 then takeCurrent e s b rest
  else .error .undecodable

def decoder : Decoder SwitchedState Char where
  start := {}
  step := step e

end EscapeSwitched

/-! ## The family of ISO 2022 -/

namespace SwitchedSet

def ofTable (t : CharTable) : SwitchedSet := .wide fun a b => (t.atPair? a b).map ([·])

/-- Half-wide kana without the high bit. -/
def kana : SwitchedSet := .narrow fun b => Unicode.kana? (b + 0x80)

/-- The first plane of an edition, by the row and cell that two bytes give. -/
def firstPlane (e : Edition) : SwitchedSet := .wide fun a b => e.firstPlane? (0x100 * a + b)

/-- Greek as it was first registered. -/
def greek : Charset :=
  ⟨"\u00a0‘’£\ufffd\ufffd¦§¨©\ufffd«¬\u00ad\ufffd―°±²³΄΅Ά·ΈΉΊ»Ό½ΎΏΐΑΒΓΔΕΖΗΘΙΚΛΜΝΞΟΠΡ" ++
    "\ufffdΣΤΥΦΧΨΩΪΫάέήίΰαβγδεζηθικλμνξοπρςστυφχψωϊϋόύώ\ufffd"⟩

/-- JIS X 0208, the first edition of which has a final character of its own. -/
def jisx0208 : List (Designation × SwitchedSet) :=
  [(⟨true, '@'⟩, ofTable .jisx0208), (⟨true, 'B'⟩, ofTable .jisx0208)]

def jisx0212 : Designation × SwitchedSet := (⟨true, 'D'⟩, ofTable .jisx0212)

def jisx0201Roman : Designation × SwitchedSet := (⟨false, 'J'⟩, .narrow roman?)

def jisx0201Kana : Designation × SwitchedSet := (⟨false, 'I'⟩, kana)

def ksx1001 : Designation × SwitchedSet := (⟨true, 'C'⟩, ofTable .ksx1001)

def gb2312 : Designation × SwitchedSet := (⟨true, 'A'⟩, ofTable .gb2312)

def jisx0213 (e : Edition) : List (Designation × SwitchedSet) :=
  [(⟨true, 'B'⟩, ofTable .jisx0208),
   (⟨true, if e = .of2000 then 'O' else 'Q'⟩, firstPlane e), (⟨true, 'P'⟩, ofTable .jisx0213Second)]

end SwitchedSet

namespace EscapeSwitched

open SwitchedSet

def japanese (sets : List (Designation × SwitchedSet)) : EscapeSwitched :=
  { sets, hasVersions := true }

def iso2022Jp : EscapeSwitched := japanese (jisx0201Roman :: jisx0208)

def iso2022Jp1 : EscapeSwitched := japanese (jisx0201Roman :: jisx0212 :: jisx0208)

def iso2022Jp2 : EscapeSwitched :=
  { japanese
      ([jisx0201Roman, jisx0212, ksx1001, gb2312, (⟨false, 'A'⟩, .upper .latin1),
        (⟨false, 'F'⟩, .upper greek)] ++ jisx0208) with
    hasThirdPlace := true }

def iso2022Jp3 : EscapeSwitched := japanese (jisx0213 .of2000)

def iso2022Jp2004 : EscapeSwitched := japanese (jisx0213 .of2004)

def iso2022JpExt : EscapeSwitched :=
  japanese (jisx0201Roman :: jisx0201Kana :: jisx0212 :: jisx0208)

def iso2022Kr : EscapeSwitched := { sets := [ksx1001], hasShifts := true }

end EscapeSwitched

end TableDdl.Unicode
