import Mathlib.Computability.RegularExpressions
import Mathlib.Data.List.Infix
import TableDdl.Identifier

/-!
# The language of identifiers

A text is looked at from the front, one character at a time, to see whether it is an identifier. Here
the same texts are described in three ways that do without an order of reading:

* `IsSnakeCase`: by their words, which are joined by single underscores;
* `IsTidy`: by what they hold and what they do not;
* `pattern`: by a regular expression.

A text of each kind is a letter with a `Tail` after it (`isSnakeCase_iff`, `isTidy_iff`,
`mem_matches_pattern`), and so is an identifier but for one line break at its end
(`accepts_iff_tail`). `isIdentifier_iff` puts this together: the identifiers are exactly these texts.
-/

namespace TableDdl.Identifier

/-! ## Characters -/

def letters : List Char := "abcdefghijklmnopqrstuvwxyz".toList

def wordChars : List Char := letters ++ "0123456789".toList

theorem isLetter_of_mem : ∀ c ∈ letters, isLetter c = true := List.all_eq_true.1 rfl

theorem isWordChar_of_mem : ∀ c ∈ wordChars, isWordChar c = true := List.all_eq_true.1 rfl

/-- The characters between two characters are those with a number between theirs. -/
theorem mem_of_between {first last : Char} {cs : List Char}
    (hcs : ∀ n < last.toNat + 1, first.toNat ≤ n → Char.ofNat n ∈ cs) {c : Char}
    (hfirst : first ≤ c) (hlast : c ≤ last) : c ∈ cs := by
  have hlow : first.toNat ≤ c.toNat := hfirst
  have hhigh : c.toNat ≤ last.toNat := hlast
  rw [← Char.ofNat_toNat c]
  exact hcs c.toNat (by omega) hlow

theorem isLetter_iff_mem {c : Char} : isLetter c = true ↔ c ∈ letters := by
  refine ⟨fun h => ?_, isLetter_of_mem c⟩
  simp only [isLetter, Bool.and_eq_true, decide_eq_true_eq] at h
  exact mem_of_between (by decide) h.1 h.2

theorem isWordChar_iff_mem {c : Char} : isWordChar c = true ↔ c ∈ wordChars := by
  refine ⟨fun h => ?_, isWordChar_of_mem c⟩
  simp only [isWordChar, Bool.or_eq_true, Bool.and_eq_true, decide_eq_true_eq] at h
  rcases h with h | h
  · exact List.mem_append_left _ (isLetter_iff_mem.1 h)
  · exact List.mem_append_right _ (mem_of_between (by decide) h.1 h.2)

theorem underscore_notMem_wordChars : '_' ∉ wordChars := by decide

/-! ## Descriptions -/

/-- At least one letter or digit, and nothing else. -/
def IsWord (w : List Char) : Prop := w ≠ [] ∧ ∀ c ∈ w, c ∈ wordChars

/-- **Words joined by single underscores**, of which the first starts with a letter. -/
def IsSnakeCase (w : List Char) : Prop :=
  ∃ c first words, c ∈ letters ∧ (∀ word ∈ (c :: first) :: words, IsWord word) ∧
    w = ['_'].intercalate ((c :: first) :: words)

/-- **Letters, digits and underscores in order**: a letter comes first, and no underscore comes last
or next to another. -/
structure IsTidy (w : List Char) : Prop where
  begins : ∃ c ∈ letters, w.head? = some c
  chars : ∀ c ∈ w, c ∈ wordChars ∨ c = '_'
  ends : w.getLast? ≠ some '_'
  single : ¬['_', '_'] <:+: w

/-- One of the characters. -/
def oneOf (cs : List Char) : RegularExpression Char := cs.foldr (fun c r => .char c + r) 0

/-- **The regular expression** `[a-z][a-z0-9]*(_[a-z0-9][a-z0-9]*)*`. -/
def pattern : RegularExpression Char :=
  oneOf letters * ((oneOf wordChars).star *
    (.char '_' * (oneOf wordChars * (oneOf wordChars).star)).star)

/-- What may follow the first letter: the rest of the first word, and further words with an underscore
before each. -/
def Tail (w : List Char) : Prop :=
  ∃ (first : List Char) (words : List (List Char)), (∀ c ∈ first, c ∈ wordChars) ∧
    (∀ word ∈ words, IsWord word) ∧ w = first ++ words.flatMap ('_' :: ·)

/-! ## Words -/

theorem intercalate_cons (w : List Char) (words : List (List Char)) :
    ['_'].intercalate (w :: words) = w ++ words.flatMap ('_' :: ·) := by
  induction words generalizing w with
  | nil => simp
  | cons word words ih =>
    rw [List.intercalate_cons_cons, ih, List.append_assoc]
    rfl

theorem isSnakeCase_iff {w : List Char} :
    IsSnakeCase w ↔ ∃ c rest, c ∈ letters ∧ w = c :: rest ∧ Tail rest := by
  constructor
  · rintro ⟨c, first, words, hc, hwords, rfl⟩
    obtain ⟨hfirst, hrest⟩ := List.forall_mem_cons.1 hwords
    refine ⟨c, _, hc, intercalate_cons _ _, first, words, fun x hx => ?_, hrest, rfl⟩
    exact hfirst.2 x (List.mem_cons_of_mem c hx)
  · rintro ⟨c, rest, hc, rfl, first, words, hfirst, hwords, rfl⟩
    have hword : IsWord (c :: first) :=
      ⟨List.cons_ne_nil _ _, List.forall_mem_cons.2 ⟨List.mem_append_left _ hc, hfirst⟩⟩
    have hjoined := intercalate_cons (c :: first) words
    exact ⟨c, first, words, hc, List.forall_mem_cons.2 ⟨hword, hwords⟩, hjoined.symm⟩

/-! ## Underscores apart -/

theorem separated_append {first rest : List Char} (h : ∀ c ∈ first, c ∈ wordChars)
    (hrest : Separated rest) : Separated (first ++ rest) := by
  induction first with
  | nil => exact hrest
  | cons c first ih =>
    obtain ⟨hc, hfirst⟩ := List.forall_mem_cons.1 h
    have hne : c ≠ '_' := by
      rintro rfl
      exact underscore_notMem_wordChars hc
    exact (separated_cons hne).2 (ih hfirst)

theorem separated_flatMap {words : List (List Char)} (h : ∀ word ∈ words, IsWord word) :
    Separated (words.flatMap ('_' :: ·)) := by
  induction words with
  | nil => trivial
  | cons word words ih =>
    obtain ⟨⟨hne, hchars⟩, hwords⟩ := List.forall_mem_cons.1 h
    obtain ⟨d, rest, rfl⟩ := List.exists_cons_of_ne_nil hne
    have hd : isWordChar d = true := isWordChar_iff_mem.2 (hchars d List.mem_cons_self)
    exact ⟨fun _ => ⟨d, _, rfl, hd⟩, separated_append hchars (ih hwords)⟩

/-- **A tail is a text in which every underscore begins a word.** -/
theorem tail_iff {w : List Char} :
    Tail w ↔ (∀ c ∈ w, isWordChar c = true ∨ c = '_') ∧ Separated w := by
  constructor
  · rintro ⟨first, words, hfirst, hwords, rfl⟩
    refine ⟨fun c hc => ?_, separated_append hfirst (separated_flatMap hwords)⟩
    rcases List.mem_append.1 hc with hc | hc
    · exact .inl (isWordChar_iff_mem.2 (hfirst c hc))
    · obtain ⟨word, hword, hc⟩ := List.mem_flatMap.1 hc
      rcases List.mem_cons.1 hc with rfl | hc
      · exact .inr rfl
      · exact .inl (isWordChar_iff_mem.2 ((hwords word hword).2 c hc))
  · rintro ⟨hchars, hsep⟩
    induction w with
    | nil => exact ⟨[], [], by simp, by simp, rfl⟩
    | cons c w ih =>
      obtain ⟨hc, hw⟩ := List.forall_mem_cons.1 hchars
      obtain ⟨first, words, hfirst, hwords, rfl⟩ := ih hw hsep.2
      rcases hc with hc | rfl
      · have hcons : ∀ x ∈ c :: first, x ∈ wordChars :=
          List.forall_mem_cons.2 ⟨isWordChar_iff_mem.1 hc, hfirst⟩
        exact ⟨c :: first, words, hcons, hwords, rfl⟩
      · -- The word that the underscore begins is what was taken for the rest of the first one.
        obtain ⟨d, r, hd, hdword⟩ := hsep.1 rfl
        have hne : first ≠ [] := by
          rintro rfl
          cases words with
          | nil => cases hd
          | cons word words =>
            obtain rfl : '_' = d := (List.cons.inj hd).1
            exact absurd hdword (by decide)
        have hall : ∀ word ∈ first :: words, IsWord word :=
          List.forall_mem_cons.2 ⟨⟨hne, hfirst⟩, hwords⟩
        exact ⟨[], first :: words, by simp, hall, by simp⟩

theorem accepts_iff_tail {cs : List Char} : accepts cs = true ↔
    ∃ w, (cs = w ∨ cs = w ++ ['\n']) ∧ ∃ c rest, c ∈ letters ∧ w = c :: rest ∧ Tail rest := by
  rw [accepts_iff]
  constructor
  · rintro ⟨c, rest, hcs, hc, hrest⟩
    exact ⟨c :: rest, hcs, c, rest, isLetter_iff_mem.1 hc, rfl, tail_iff.2 hrest⟩
  · rintro ⟨_, hcs, c, rest, hc, rfl, hrest⟩
    exact ⟨c, rest, hcs, isLetter_iff_mem.2 hc, tail_iff.1 hrest⟩

/-! ## What a text holds -/

theorem separated_iff {w : List Char} (h : ∀ c ∈ w, isWordChar c = true ∨ c = '_') :
    Separated w ↔ w.getLast? ≠ some '_' ∧ ¬['_', '_'] <:+: w := by
  induction w with
  | nil => simp [Separated]
  | cons c w ih =>
    obtain ⟨hc, hw⟩ := List.forall_mem_cons.1 h
    unfold Separated
    rw [ih hw, List.infix_cons_iff]
    cases w with
    | nil => simp
    | cons d w =>
      have hbegins : (∃ e r, d :: w = e :: r ∧ isWordChar e = true) ↔ d ≠ '_' := by
        constructor
        · rintro ⟨e, r, he, hword⟩ rfl
          obtain ⟨rfl, -⟩ := List.cons.inj he
          exact absurd hword (by decide)
        · intro hd
          exact ⟨d, w, rfl, (hw d List.mem_cons_self).resolve_right hd⟩
      rw [hbegins, List.getLast?_cons_cons, List.cons_prefix_cons, List.cons_prefix_cons]
      simp only [List.nil_prefix, and_true]
      grind

theorem isTidy_iff {w : List Char} :
    IsTidy w ↔ ∃ c rest, c ∈ letters ∧ w = c :: rest ∧ Tail rest := by
  constructor
  · rintro ⟨⟨c, hc, hhead⟩, hchars, hends, hsingle⟩
    obtain ⟨rest, rfl⟩ := List.head?_eq_some_iff.1 hhead
    have hwords : ∀ x ∈ c :: rest, isWordChar x = true ∨ x = '_' := fun x hx =>
      (hchars x hx).imp_left isWordChar_iff_mem.2
    have hsep : Separated (c :: rest) := (separated_iff hwords).2 ⟨hends, hsingle⟩
    exact ⟨c, rest, hc, rfl, tail_iff.2 ⟨(List.forall_mem_cons.1 hwords).2, hsep.2⟩⟩
  · rintro ⟨c, rest, hc, rfl, hrest⟩
    obtain ⟨hchars, hsep⟩ := tail_iff.1 hrest
    have hcword : c ∈ wordChars := List.mem_append_left _ hc
    have hne : c ≠ '_' := by
      rintro rfl
      exact underscore_notMem_wordChars hcword
    have hwords : ∀ x ∈ c :: rest, isWordChar x = true ∨ x = '_' :=
      List.forall_mem_cons.2 ⟨.inl (isWordChar_iff_mem.2 hcword), hchars⟩
    obtain ⟨hends, hsingle⟩ := (separated_iff hwords).1 ((separated_cons hne).2 hsep)
    exact ⟨⟨c, hc, rfl⟩, fun x hx => (hwords x hx).imp_left isWordChar_iff_mem.1, hends, hsingle⟩

/-! ## The regular expression -/

open RegularExpression

theorem mem_matches_oneOf {cs w : List Char} : w ∈ (oneOf cs).matches' ↔ ∃ c ∈ cs, w = [c] := by
  induction cs with
  | nil => simp [oneOf, matches'_zero, Language.notMem_zero]
  | cons c cs ih =>
    have hcons : (oneOf (c :: cs)).matches' = {[c]} + (oneOf cs).matches' := rfl
    rw [hcons, Language.mem_add, ih]
    simp only [List.exists_mem_cons_iff]
    exact Iff.rfl

theorem mem_matches_star_oneOf {cs w : List Char} :
    w ∈ (oneOf cs).star.matches' ↔ ∀ c ∈ w, c ∈ cs := by
  rw [matches'_star, Language.mem_kstar]
  constructor
  · rintro ⟨parts, rfl, hparts⟩ c hc
    obtain ⟨part, hpart, hc⟩ := List.mem_flatten.1 hc
    obtain ⟨d, hd, rfl⟩ := mem_matches_oneOf.1 (hparts part hpart)
    rwa [List.mem_singleton.1 hc]
  · intro h
    refine ⟨w.map ([·]), (List.flatMap_singleton' w).symm, fun part hpart => ?_⟩
    obtain ⟨c, hc, rfl⟩ := List.mem_map.1 hpart
    exact mem_matches_oneOf.2 ⟨c, h c hc, rfl⟩

theorem mem_matches_word {w : List Char} :
    w ∈ (oneOf wordChars * (oneOf wordChars).star).matches' ↔ IsWord w := by
  rw [matches'_mul, Language.mem_mul]
  constructor
  · rintro ⟨front, hfront, rest, hrest, rfl⟩
    obtain ⟨c, hc, rfl⟩ := mem_matches_oneOf.1 hfront
    exact ⟨List.cons_ne_nil _ _, List.forall_mem_cons.2 ⟨hc, mem_matches_star_oneOf.1 hrest⟩⟩
  · rintro ⟨hne, hchars⟩
    obtain ⟨c, rest, rfl⟩ := List.exists_cons_of_ne_nil hne
    obtain ⟨hc, hrest⟩ := List.forall_mem_cons.1 hchars
    exact ⟨[c], mem_matches_oneOf.2 ⟨c, hc, rfl⟩, rest, mem_matches_star_oneOf.2 hrest, rfl⟩

theorem mem_matches_further {w : List Char} :
    w ∈ (char '_' * (oneOf wordChars * (oneOf wordChars).star)).star.matches' ↔
      ∃ words : List (List Char), (∀ word ∈ words, IsWord word) ∧
        w = words.flatMap ('_' :: ·) := by
  rw [matches'_star, Language.mem_kstar]
  constructor
  · rintro ⟨parts, rfl, hparts⟩
    induction parts with
    | nil => exact ⟨[], by simp, rfl⟩
    | cons part parts ih =>
      obtain ⟨hpart, hrest⟩ := List.forall_mem_cons.1 hparts
      obtain ⟨words, hwords, hflat⟩ := ih hrest
      obtain ⟨mark, rfl, word, hword, rfl⟩ := Language.mem_mul.1 hpart
      have hall : ∀ x ∈ word :: words, IsWord x :=
        List.forall_mem_cons.2 ⟨mem_matches_word.1 hword, hwords⟩
      exact ⟨word :: words, hall, by simp [hflat]⟩
  · rintro ⟨words, hwords, rfl⟩
    refine ⟨words.map ('_' :: ·), List.flatMap_def, fun part hpart => ?_⟩
    obtain ⟨word, hword, rfl⟩ := List.mem_map.1 hpart
    exact Language.mem_mul.2 ⟨['_'], rfl, word, mem_matches_word.2 (hwords word hword), rfl⟩

theorem mem_matches_pattern {w : List Char} :
    w ∈ pattern.matches' ↔ ∃ c rest, c ∈ letters ∧ w = c :: rest ∧ Tail rest := by
  unfold pattern
  rw [matches'_mul, matches'_mul, Language.mem_mul]
  constructor
  · rintro ⟨front, hfront, rest, hrest, rfl⟩
    obtain ⟨c, hc, rfl⟩ := mem_matches_oneOf.1 hfront
    obtain ⟨first, hfirst, further, hfurther, rfl⟩ := Language.mem_mul.1 hrest
    obtain ⟨words, hwords, rfl⟩ := mem_matches_further.1 hfurther
    exact ⟨c, _, hc, rfl, first, words, mem_matches_star_oneOf.1 hfirst, hwords, rfl⟩
  · rintro ⟨c, rest, hc, rfl, first, words, hfirst, hwords, rfl⟩
    have hfurther := mem_matches_further.2 ⟨words, hwords, rfl⟩
    exact ⟨[c], mem_matches_oneOf.2 ⟨c, hc, rfl⟩, _,
      Language.append_mem_mul (mem_matches_star_oneOf.2 hfirst) hfurther, rfl⟩

end TableDdl.Identifier

namespace TableDdl

open Identifier

/-- **The language of identifiers.** The identifiers are the texts of words joined by single
underscores, with or without one line break after them. The same texts are told by what they hold and
do not hold, and by a regular expression. -/
theorem isIdentifier_iff (v : Value) :
    (v.isIdentifier = true ↔ ∃ t : Text, v = t.toValue ∧
      ∃ w, (t.content.toList = w ∨ t.content.toList = w ++ ['\n']) ∧ IsSnakeCase w) ∧
    ∀ w, (IsSnakeCase w ↔ IsTidy w) ∧ (IsSnakeCase w ↔ w ∈ pattern.matches') := by
  refine ⟨?_, fun w => ⟨isSnakeCase_iff.trans isTidy_iff.symm,
    isSnakeCase_iff.trans mem_matches_pattern.symm⟩⟩
  simp only [isSnakeCase_iff, ← accepts_iff_tail]
  constructor
  · intro h
    obtain ⟨t, ht⟩ := Option.isSome_iff_exists.1 h
    exact ⟨t, Value.identifier?_eq_some_iff.1 ht⟩
  · rintro ⟨t, rfl, ht⟩
    rw [Value.isIdentifier_toValue]
    exact ht

end TableDdl
