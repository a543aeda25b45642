import TableDdl.Literal

/-!
# Reading statements

How a reader of SQL finds the parts of a statement. A single quote begins and ends quoted text;
outside quotes parentheses open and close levels, and a semicolon ends the statement. `Scan` is
where the reader stands.

A text is `Balanced` if it takes the reader back to where it was and never closes a level that it
did not open. Balanced texts can follow one another (`Balanced.append`).

`Scan.items` splits a text at the commas outside quotes and parentheses. Items that are balanced and
have no such comma of their own are found again when they have been joined (`split_intercalate`,
`items_intercalate`).
-/

namespace TableDdl

/-- Whether the reader is between quotes, and how many parentheses are open. -/
structure Scan where
  quoted : Bool := false
  depth : Nat := 0
  deriving DecidableEq, Repr

namespace Scan

/-- One more character. There is nothing more to read after a semicolon outside quotes, nor after a
parenthesis that closes nothing. -/
def next? (s : Scan) (c : Char) : Option Scan :=
  if c = '\'' then some { s with quoted := !s.quoted }
  else if s.quoted then some s
  else if c = '(' then some { s with depth := s.depth + 1 }
  else if c = ')' then if s.depth = 0 then none else some { s with depth := s.depth - 1 }
  else if c = ';' then none
  else some s

/-- Where the reader stands after a text, if it can read all of it. -/
def after? (s : Scan) : List Char → Option Scan
  | [] => some s
  | c :: cs => (s.next? c).bind fun t => t.after? cs

/-- The same place with more parentheses open around it. -/
def deeper (s : Scan) (n : Nat) : Scan := { s with depth := s.depth + n }

theorem after?_append (s : Scan) (cs ds : List Char) :
    s.after? (cs ++ ds) = (s.after? cs).bind fun t => t.after? ds := by
  induction cs generalizing s with
  | nil => rfl
  | cons c cs ih =>
    simp only [List.cons_append, after?]
    cases s.next? c with
    | none => rfl
    | some t => exact ih t

theorem next?_deeper {s t : Scan} {c : Char} (h : s.next? c = some t) (n : Nat) :
    (s.deeper n).next? c = some (t.deeper n) := by
  obtain ⟨quoted, depth⟩ := s
  by_cases hq : c = '\''
  · subst hq
    cases h
    rfl
  cases quoted with
  | true =>
    simp only [next?, hq, if_false, if_true, Option.some.injEq] at h
    subst h
    simp [next?, deeper, hq]
  | false =>
    by_cases ho : c = '('
    · subst ho
      cases h
      simp [next?, deeper, Nat.add_right_comm]
    by_cases hp : c = ')'
    · subst hp
      cases depth with
      | zero => cases h
      | succ d =>
        cases h
        simp only [next?, deeper, hq, Bool.false_eq_true, if_false, if_true]
        simp [Nat.add_right_comm]
    by_cases hs : c = ';'
    · subst hs
      cases h
    · simp only [next?, hq, ho, hp, hs, Bool.false_eq_true, if_false, Option.some.injEq] at h
      subst h
      simp [next?, deeper, hq, ho, hp, hs]

end Scan

/-! ## Balanced text -/

/-- The reader comes back to where it was. -/
def Balanced (cs : List Char) : Prop := Scan.after? {} cs = some {}

instance (cs : List Char) : Decidable (Balanced cs) := inferInstanceAs (Decidable (_ = _))

theorem Balanced.append {cs ds : List Char} (hc : Balanced cs) (hd : Balanced ds) : Balanced (cs ++ ds) := by
  unfold Balanced at *
  rw [Scan.after?_append, hc]
  exact hd

/-- A character that means nothing to the reader. -/
def isInert (c : Char) : Bool := c != '\'' && c != '(' && c != ')' && c != ';'

theorem balanced_of_inert {cs : List Char} (h : ∀ c ∈ cs, isInert c = true) : Balanced cs := by
  induction cs with
  | nil => rfl
  | cons c cs ih =>
    have hc := h c List.mem_cons_self
    simp only [isInert, Bool.and_eq_true, bne_iff_ne] at hc
    have ht : Balanced cs := ih fun d hd => h d (List.mem_cons_of_mem _ hd)
    show (Scan.next? {} c).bind _ = _
    have hn : Scan.next? {} c = some {} := by simp [Scan.next?, hc]
    rw [hn]
    exact ht

/-! ## Items -/

namespace Scan

/-- The parts between the commas that stand outside quotes and parentheses. -/
def split (s : Scan) : List Char → List (List Char)
  | [] => [[]]
  | c :: cs =>
    if c = ',' ∧ s = {} then [] :: split {} cs
    else (split ((s.next? c).getD s) cs).modifyHead (c :: ·)

/-- The items of a text, without the blanks before them. -/
def items (cs : List Char) : List (List Char) := (split {} cs).map (·.dropWhile (· == ' '))

/-- A text that the reader, starting at `s`, reads as the rest of one item. -/
def endsItem (s : Scan) : List Char → Bool
  | [] => s = {}
  | c :: cs => !(c == ',' && s == {}) && ((s.next? c).map (endsItem · cs)).getD false

/-- A text that is one item: balanced, and without a comma outside quotes and parentheses. -/
def isItem (cs : List Char) : Bool := endsItem {} cs

theorem split_append_of_endsItem {s : Scan} {item : List Char} (h : endsItem s item = true)
    (rest : List Char) : split s (item ++ ',' :: rest) = item :: split {} rest := by
  induction item generalizing s with
  | nil =>
    have hs : s = {} := by simpa [endsItem] using h
    subst hs
    simp [split]
  | cons c cs ih =>
    simp only [endsItem, Bool.and_eq_true, Bool.not_eq_true', Bool.and_eq_false_iff] at h
    obtain ⟨hc, h⟩ := h
    have hn : ¬(c = ',' ∧ s = {}) := by rintro ⟨rfl, rfl⟩; simp at hc
    cases ht : s.next? c with
    | none => simp [ht] at h
    | some t =>
      rw [ht] at h
      simp only [List.cons_append, split, if_neg hn, ht, Option.getD_some, ih (by simpa using h),
        List.modifyHead_cons]

theorem split_of_endsItem {s : Scan} {item : List Char} (h : endsItem s item = true) :
    split s item = [item] := by
  induction item generalizing s with
  | nil => rfl
  | cons c cs ih =>
    simp only [endsItem, Bool.and_eq_true, Bool.not_eq_true', Bool.and_eq_false_iff] at h
    obtain ⟨hc, h⟩ := h
    have hn : ¬(c = ',' ∧ s = {}) := by rintro ⟨rfl, rfl⟩; simp at hc
    cases ht : s.next? c with
    | none => simp [ht] at h
    | some t =>
      rw [ht] at h
      simp only [split, if_neg hn, ht, Option.getD_some, ih (by simpa using h),
        List.modifyHead_cons]

/-- **Items are found again.** -/
theorem split_intercalate {item : List Char} {rest : List (List Char)}
    (h : ∀ x ∈ item :: rest, isItem x = true) :
    split {} (List.intercalate [','] (item :: rest)) = item :: rest := by
  induction rest generalizing item with
  | nil => simpa using split_of_endsItem (h item List.mem_cons_self)
  | cons next rest ih =>
    have ht := ih fun x hx => h x (List.mem_cons_of_mem _ hx)
    have : List.intercalate [','] (item :: next :: rest)
        = item ++ ',' :: List.intercalate [','] (next :: rest) := by
      simp [List.intercalate]
    rw [this, split_append_of_endsItem (h item List.mem_cons_self), ht]

theorem isItem_blank (cs : List Char) : isItem (' ' :: cs) = isItem cs := rfl

theorem intercalate_comma_blank (item : List Char) (rest : List (List Char)) :
    List.intercalate [',', ' '] (item :: rest)
      = List.intercalate [','] (item :: rest.map (' ' :: ·)) := by
  induction rest generalizing item with
  | nil => simp
  | cons next rest ih =>
    have h := ih next
    cases rest <;> simp_all [List.intercalate]

theorem dropWhile_blank {cs : List Char} (h : cs.head? ≠ some ' ') :
    cs.dropWhile (· == ' ') = cs := by
  cases cs with
  | nil => rfl
  | cons c cs =>
    have : (c == ' ') = false := by simpa using h
    simp [List.dropWhile, this]

/-- **Items that begin with no blank are found again**, separated by commas and blanks. -/
theorem items_intercalate {item : List Char} {rest : List (List Char)}
    (h : ∀ x ∈ item :: rest, isItem x = true) (hb : ∀ x ∈ item :: rest, x.head? ≠ some ' ') :
    items (List.intercalate [',', ' '] (item :: rest)) = item :: rest := by
  have hi : ∀ x ∈ item :: rest.map (' ' :: ·), isItem x = true := by
    intro x hx
    rcases List.mem_cons.1 hx with rfl | hx
    · exact h x List.mem_cons_self
    · obtain ⟨y, hy, rfl⟩ := List.mem_map.1 hx
      rw [isItem_blank]
      exact h y (List.mem_cons_of_mem _ hy)
  unfold items
  rw [intercalate_comma_blank, split_intercalate hi, List.map_cons,
    dropWhile_blank (hb item List.mem_cons_self), List.map_map]
  have hd : ∀ x ∈ rest, ((·.dropWhile (· == ' ')) ∘ (' ' :: ·)) x = id x := fun x hx =>
    dropWhile_blank (hb x (List.mem_cons_of_mem _ hx))
  rw [List.map_congr_left hd, List.map_id]

theorem after?_of_endsItem {s : Scan} {cs : List Char} (h : endsItem s cs = true) :
    s.after? cs = some {} := by
  induction cs generalizing s with
  | nil =>
    have hs : s = {} := by simpa [endsItem] using h
    rw [hs]
    rfl
  | cons c cs ih =>
    simp only [endsItem, Bool.and_eq_true] at h
    obtain ⟨-, h⟩ := h
    cases ht : s.next? c with
    | none => simp [ht] at h
    | some t =>
      rw [ht] at h
      simp only [after?, ht, Option.bind_some]
      exact ih (by simpa using h)

/-- An item is balanced. -/
theorem balanced_of_isItem {cs : List Char} (h : isItem cs = true) : Balanced cs :=
  after?_of_endsItem h

end Scan

end TableDdl
