import TableDdl.Value

/-!
# Identifiers

Model of `is_snake_case`.

Names of tables and columns are lowercase words joined by single underscores: `user_id`, `col1`.
The first word starts with a letter. One line break at the very end is let through.

`accepts_iff` gives the same language without following the characters one by one: a non-empty
text, with or without a final line break, that starts with a letter, holds only letters, digits and
underscores, does not end in an underscore and has no two in a row.
-/

namespace TableDdl.Identifier

def isLetter (c : Char) : Bool := 'a' ≤ c && c ≤ 'z'

def isWordChar (c : Char) : Bool := isLetter c || ('0' ≤ c && c ≤ '9')

/-- What may follow the first letter. `gap` tells that an underscore has just been read, so that a
word has to begin here. -/
def continues : Bool → List Char → Bool
  | gap, [] => !gap
  | gap, c :: cs =>
    if c = '\n' ∧ cs = [] then !gap
    else if c = '_' then !gap && continues true cs
    else isWordChar c && continues false cs

def accepts : List Char → Bool
  | [] => false
  | c :: cs => isLetter c && continues false cs

/-- Every underscore is followed by a character of a word. -/
def Separated : List Char → Prop
  | [] => True
  | c :: cs => (c = '_' → ∃ d r, cs = d :: r ∧ isWordChar d = true) ∧ Separated cs

theorem isWordChar_underscore : isWordChar '_' = false := by decide

theorem isWordChar_newline : isWordChar '\n' = false := by decide

theorem isLetter_underscore : isLetter '_' = false := by decide

theorem isWordChar_of_isLetter {c : Char} (h : isLetter c = true) : isWordChar c = true := by
  simp [isWordChar, h]

theorem separated_cons {c : Char} {cs : List Char} (h : c ≠ '_') :
    Separated (c :: cs) ↔ Separated cs := by
  simp [Separated, h]

/-- A text of words and separated underscores, as `continues` reads it, is a body with or without a
line break after it. -/
theorem continues_iff {gap : Bool} {cs : List Char} :
    continues gap cs = true ↔
      ∃ w, (cs = w ∨ cs = w ++ ['\n']) ∧ (∀ c ∈ w, isWordChar c = true ∨ c = '_') ∧
        Separated w ∧ (gap = true → ∃ c r, w = c :: r ∧ isWordChar c = true) := by
  induction cs generalizing gap with
  | nil =>
    cases gap
    · simp only [continues, Bool.not_false, true_iff]
      exact ⟨[], Or.inl rfl, by simp, trivial, by simp⟩
    · simp only [continues, Bool.not_true, Bool.false_eq_true, false_iff]
      rintro ⟨w, hw, -, -, hg⟩
      obtain ⟨c, r, rfl, -⟩ := hg trivial
      rcases hw with h | h <;> simp at h
  | cons c cs ih =>
    unfold continues
    by_cases hn : c = '\n' ∧ cs = []
    · obtain ⟨rfl, rfl⟩ := hn
      cases gap
      · simp only [and_self, if_true, Bool.not_false, true_iff]
        exact ⟨[], Or.inr rfl, by simp, trivial, by simp⟩
      · simp only [and_self, if_true, Bool.not_true, Bool.false_eq_true, false_iff]
        rintro ⟨w, hw, hc, -, hg⟩
        obtain ⟨c, r, rfl, hcw⟩ := hg trivial
        rcases hw with h | h
        · cases h
          rw [isWordChar_newline] at hcw
          cases hcw
        · simp at h
    · rw [if_neg hn]
      by_cases hu : c = '_'
      · subst hu
        simp only [if_true, Bool.and_eq_true, Bool.not_eq_true', ih]
        constructor
        · rintro ⟨rfl, w, hw, hc, hs, hg⟩
          obtain ⟨d, r, rfl, hd⟩ := hg trivial
          refine ⟨'_' :: d :: r, ?_, ?_, ⟨fun _ => ⟨d, r, rfl, hd⟩, hs⟩, by simp⟩
          · rcases hw with rfl | rfl
            · exact Or.inl rfl
            · exact Or.inr rfl
          · intro x hx
            rcases List.mem_cons.1 hx with rfl | hx
            · exact Or.inr rfl
            · exact hc x hx
        · rintro ⟨w, hw, hc, hs, hg⟩
          cases w with
          | nil => rcases hw with h | h <;> simp at h
          | cons d w =>
            have hd : d = '_' ∧ (cs = w ∨ cs = w ++ ['\n']) := by
              rcases hw with h | h
              · injection h with h1 h2
                exact ⟨h1.symm, Or.inl h2⟩
              · injection h with h1 h2
                exact ⟨h1.symm, Or.inr h2⟩
            obtain ⟨rfl, hcs⟩ := hd
            refine ⟨?_, w, hcs, fun x hx => hc x (List.mem_cons_of_mem _ hx), hs.2, fun _ => hs.1 rfl⟩
            cases gap
            · rfl
            · obtain ⟨x, r, hx, hxw⟩ := hg rfl
              cases hx
              rw [isWordChar_underscore] at hxw
              cases hxw
      · simp only [if_neg hu, Bool.and_eq_true, ih]
        constructor
        · rintro ⟨hcw, w, hw, hc, hs, -⟩
          refine ⟨c :: w, ?_, ?_, (separated_cons hu).2 hs, fun _ => ⟨c, w, rfl, hcw⟩⟩
          · rcases hw with rfl | rfl
            · exact Or.inl rfl
            · exact Or.inr rfl
          · intro x hx
            rcases List.mem_cons.1 hx with rfl | hx
            · exact Or.inl hcw
            · exact hc x hx
        · rintro ⟨w, hw, hc, hs, -⟩
          cases w with
          | nil =>
            rcases hw with h | h
            · simp at h
            · exact absurd (by simpa using h) hn
          | cons d w =>
            have hd : c = d ∧ (cs = w ∨ cs = w ++ ['\n']) := by
              rcases hw with h | h
              · injection h with h1 h2
                exact ⟨h1, Or.inl h2⟩
              · injection h with h1 h2
                exact ⟨h1, Or.inr h2⟩
            obtain ⟨rfl, hcs⟩ := hd
            refine ⟨(hc c List.mem_cons_self).resolve_right hu, w, hcs,
              fun x hx => hc x (List.mem_cons_of_mem _ hx), (separated_cons hu).1 hs, by simp⟩

/-- **The language of identifiers.** -/
theorem accepts_iff {cs : List Char} :
    accepts cs = true ↔
      ∃ c w, (cs = c :: w ∨ cs = c :: w ++ ['\n']) ∧ isLetter c = true ∧
        (∀ x ∈ w, isWordChar x = true ∨ x = '_') ∧ Separated w := by
  cases cs with
  | nil => simp [accepts]
  | cons c cs =>
    simp only [accepts, Bool.and_eq_true, continues_iff]
    constructor
    · rintro ⟨hl, w, hw, hc, hs, -⟩
      refine ⟨c, w, ?_, hl, hc, hs⟩
      rcases hw with rfl | rfl
      · exact Or.inl rfl
      · exact Or.inr rfl
    · rintro ⟨d, w, hw, hl, hc, hs⟩
      have hd : c = d ∧ (cs = w ∨ cs = w ++ ['\n']) := by
        rcases hw with h | h
        · injection h with h1 h2
          exact ⟨h1, Or.inl h2⟩
        · injection h with h1 h2
          exact ⟨h1, Or.inr h2⟩
      obtain ⟨rfl, hcs⟩ := hd
      exact ⟨hl, w, hcs, hc, hs, by simp⟩

end TableDdl.Identifier

namespace TableDdl

/-- Whether a text may name a table or a column. -/
def Text.isIdentifier (t : Text) : Bool := Identifier.accepts t.content.toList

/-- Only texts are identifiers. -/
def Value.identifier? (v : Value) : Option Text := v.text?.filter Text.isIdentifier

/-- The verdict of `is_snake_case`. -/
def Value.isIdentifier (v : Value) : Bool := v.identifier?.isSome

theorem Value.identifier?_eq_some_iff {v : Value} {t : Text} :
    v.identifier? = some t ↔ v = t.toValue ∧ t.isIdentifier = true := by
  simp [Value.identifier?, Option.filter_eq_some_iff, Value.text?_eq_some_iff]

theorem Value.isIdentifier_toValue (t : Text) : t.toValue.isIdentifier = t.isIdentifier := by
  unfold Value.isIdentifier Value.identifier?
  rw [Value.text?_toValue]
  cases h : t.isIdentifier <;> simp [Option.filter, h]

end TableDdl
