import TableDdl.Proofs.Column.Canonical
import TableDdl.Proofs.Literal.Complete
import TableDdl.Proofs.Table.Portable

/-!
# The arguments of types

The texts of types that take arguments, read from the front. A call writes a type only if its
arguments are in range (`inRange_of_type?`), and the text of such a type tells its arguments: what
begins with `DECIMAL` is a `DECIMAL` of two numbers and nothing else, and so on (`Dialect.IsType`).

* `startsWith_word`: a text begins with a word only if the part of it before its arguments does,
  so that it is enough to look at the words of all types;
* `LogicalType.InRange.isType`: so the text of a type can be relied on in every dialect. What it
  says of the values of an enumeration is that they are string literals, each closed by its last
  quote.
-/

namespace TableDdl

/-! ## Arguments in range -/

/-- An argument that was let through. -/
theorem exists_of_map_toOption {α : Type} {argument : Except ColumnError α} {f : α → LogicalType}
    {t : LogicalType} (h : argument.toOption.map f = some t) : ∃ a, argument = .ok a ∧ f a = t := by
  cases argument with
  | error e => cases h
  | ok a => exact ⟨a, rfl, Option.some.inj h⟩

/-- **A call writes a type only with arguments in range.** -/
theorem Call.inRange_of_type? {call : Call} {d : Dialect} {t : LogicalType}
    (h : call.type? d = some t) : t.InRange := by
  cases call with
  | simple | pk | fk =>
    cases h
    trivial
  | ip | uuid =>
    cases h
    exact ⟨_, rfl, by decide, by decide⟩
  | decimal total places =>
    obtain ⟨⟨t, p⟩, ha, rfl⟩ := exists_of_map_toOption h
    exact decimalOf_eq_ok ha
  | char length =>
    obtain ⟨n, ha, rfl⟩ := exists_of_map_toOption h
    exact lengthOf_eq_ok ha
  | varchar length =>
    obtain ⟨n, ha, rfl⟩ := exists_of_map_toOption h
    exact lengthOf_eq_ok ha
  | enum values =>
    obtain ⟨texts, ha, rfl⟩ := exists_of_map_toOption h
    exact enumOf_eq_ok ha
  | _ => cases h

/-- **How an integer may be written**: with its digits or, if it is a member of an enumeration, as the
label of the member. -/
def IsIntText (i : Int) (s : String) : Prop := s = i.repr ∨ ∃ label : Label, s = label.text

theorem Value.isIntText_of_int? {v : Value} {i : Int} (h : v.int? = some i) :
    IsIntText i v.display := by
  have hnumber := int?_eq_some_iff.1 h
  cases v with
  | int j =>
    cases hnumber
    exact .inl rfl
  | member label => exact .inr ⟨label, rfl⟩
  | _ => cases hnumber

/-! ## Types by their first word -/

/-- A text begins with a word, whatever follows. -/
def StartsWith (word s : String) : Prop := word.toList <+: s.toList

instance (word s : String) : Decidable (StartsWith word s) :=
  inferInstanceAs (Decidable (word.toList <+: s.toList))

/-- A word without a parenthesis ends before one opens. -/
theorem startsWith_of_paren {word front rest : String} (hword : '(' ∉ word.toList)
    (h : StartsWith word (front ++ "(" ++ rest)) : StartsWith word front := by
  have hparen : front.toList ++ ['('] <+: (front ++ "(" ++ rest).toList := by
    rw [String.toList_append, String.toList_append]
    exact List.prefix_append _ _
  rcases List.prefix_or_prefix_of_prefix h hparen with hshort | hlong
  · rcases List.prefix_concat_iff.1 hshort with heq | hfront
    · exact absurd (by simp [heq]) hword
    · exact hfront
  · exact absurd (hlong.subset (by simp)) hword

namespace LogicalType

/-- A type without its arguments, as a dialect writes it. -/
def word (d : Dialect) : LogicalType → String
  | .simple t => d.simpleType t
  | .decimal .. => match d with
    | .sqlite => "NUMERIC"
    | _ => "DECIMAL"
  | .char _ => match d with
    | .sqlite => "TEXT"
    | _ => "CHAR"
  | .varchar _ => match d with
    | .sqlite => "TEXT"
    | _ => "VARCHAR"
  | .enum _ => match d with
    | .mysql => "ENUM"
    | .postgresql => "VARCHAR"
    | .sqlite => "TEXT"

/-- Arguments stand in parentheses after the word. -/
theorem text_eq_word (t : LogicalType) (d : Dialect) :
    t.text d = t.word d ∨ ∃ arguments, t.text d = t.word d ++ "(" ++ arguments := by
  cases t with
  | simple t => exact .inl rfl
  | decimal total places =>
    cases d with
    | sqlite => exact .inl rfl
    | mysql | postgresql =>
      refine .inr ⟨total.display ++ ", " ++ places.display ++ ")", ?_⟩
      simp only [← String.append_assoc]
      rfl
  | char length | varchar length =>
    cases d with
    | sqlite => exact .inl rfl
    | mysql | postgresql =>
      refine .inr ⟨length.display ++ ")", ?_⟩
      rw [← String.append_assoc]
      rfl
  | enum values =>
    cases d with
    | sqlite | postgresql => exact .inl rfl
    | mysql =>
      refine .inr ⟨Literal.quoteAll (values.map Text.content) ++ ")", ?_⟩
      rw [← String.append_assoc]
      rfl

theorem startsWith_word {t : LogicalType} {d : Dialect} {word : String}
    (hword : '(' ∉ word.toList) (h : StartsWith word (t.text d)) : StartsWith word (t.word d) := by
  rcases t.text_eq_word d with htext | ⟨arguments, htext⟩
  · rwa [htext] at h
  · rw [htext] at h
    exact startsWith_of_paren hword h

end LogicalType

/-! ## What the text of a type says -/

/-- **The text of a type in a dialect.** Its arguments can be read off if it has any. -/
structure Dialect.IsType (d : Dialect) (s : String) : Prop where
  nonempty : s ≠ ""
  decimal : StartsWith "DECIMAL" s → ∃ (total places : Int) (t p : String),
    s = "DECIMAL(" ++ t ++ ", " ++ p ++ ")" ∧ IsIntText total t ∧ IsIntText places p ∧
      0 ≤ places ∧ places ≤ total
  char : StartsWith "CHAR" s → ∃ (length : Int) (n : String),
    s = "CHAR(" ++ n ++ ")" ∧ IsIntText length n ∧ 0 ≤ length ∧ length ≤ 255
  varchar : d = .mysql → StartsWith "VARCHAR" s → ∃ (length : Int) (n : String),
    s = "VARCHAR(" ++ n ++ ")" ∧ IsIntText length n ∧ 0 ≤ length ∧ length ≤ 65535
  enum : d = .mysql → StartsWith "ENUM" s → ∃ literals : List String,
    s = "ENUM(" ++ ", ".intercalate literals ++ ")" ∧ literals ≠ [] ∧
      ∀ literal ∈ literals, Literal.IsString literal

/-- **Types are written with their arguments in range.** For each word, the types that begin with
another one are ruled out by comparing the words. -/
theorem LogicalType.InRange.isType {t : LogicalType} (h : t.InRange) (d : Dialect) :
    d.IsType (t.text d) := by
  refine ⟨t.text_ne_empty d, fun hs => ?_, fun hs => ?_, fun hd hs => ?_, fun hd hs => ?_⟩
  · have hword := startsWith_word (by decide) hs
    cases t with
    | decimal total places =>
      cases d with
      | sqlite => exact absurd hword (by simp only [word]; decide)
      | mysql | postgresql =>
        obtain ⟨t, p, ht, hp, hrange⟩ := h
        exact ⟨t, p, _, _, rfl, total.isIntText_of_int? ht, places.isIntText_of_int? hp, hrange⟩
    | simple t => exact absurd hword (by cases d <;> cases t <;> decide)
    | char | varchar | enum => exact absurd hword (by cases d <;> simp only [word] <;> decide)
  · have hword := startsWith_word (by decide) hs
    cases t with
    | char length =>
      cases d with
      | sqlite => exact absurd hword (by simp only [word]; decide)
      | mysql | postgresql =>
        obtain ⟨n, hn, hrange⟩ := h
        exact ⟨n, _, rfl, length.isIntText_of_int? hn, hrange⟩
    | simple t => exact absurd hword (by cases d <;> cases t <;> decide)
    | decimal | varchar | enum => exact absurd hword (by cases d <;> simp only [word] <;> decide)
  · have hword := startsWith_word (by decide) hs
    subst hd
    cases t with
    | varchar length =>
      obtain ⟨n, hn, hrange⟩ := h
      exact ⟨n, _, rfl, length.isIntText_of_int? hn, hrange⟩
    | simple t => exact absurd hword (by cases t <;> decide)
    | decimal | char | enum => exact absurd hword (by simp only [word]; decide)
  · have hword := startsWith_word (by decide) hs
    subst hd
    cases t with
    | enum values =>
      refine ⟨(values.map Text.content).map Literal.quote, rfl, by simpa [InRange] using h, ?_⟩
      intro literal hliteral
      obtain ⟨value, -, rfl⟩ := List.mem_map.1 hliteral
      exact Literal.isString_quote value
    | simple t => exact absurd hword (by cases t <;> decide)
    | decimal | char | varchar => exact absurd hword (by simp only [word]; decide)

end TableDdl
