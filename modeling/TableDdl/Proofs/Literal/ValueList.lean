import TableDdl.Proofs.Literal.Escape
import TableDdl.Proofs.Result

/-!
# Lists of values

The values of an enumeration are written as literals separated by `, `. Read by the rules of the
standard, each literal is closed by its last quote and by none before, so that a list is read back
whatever quotes and separators its values hold.

* `read_eq_some_iff`: what is read as one literal is that literal as it is written, up to a rest
  that does not go on with a quote;
* `readList_eq_some_iff`: a text lists some values iff it is how they are written. So each list is
  written in one way, and each text lists the values of one list at most;
* `enum_decodes`: an enumeration lists its values in the type of its column or in a check
  (`Column.enumText`). They are read back from there, and other values make another text.
-/

namespace TableDdl

namespace Literal

/-! ## One literal -/

/-- What is read up to the quote that closes a literal was written as its text. -/
theorem eq_encode_of_readBody {cs s rest : List Char} (h : readBody cs = some (s, rest)) :
    cs = encode s ++ '\'' :: rest ∧ rest.head? ≠ some '\'' := by
  fun_induction readBody cs generalizing s with
  | case1 => cases h
  | case2 cs ih =>
    obtain ⟨⟨t, r⟩, ht, he⟩ := Option.map_eq_some_iff.1 h
    cases he
    obtain ⟨rfl, hrest⟩ := ih ht
    exact ⟨rfl, hrest⟩
  | case3 cs hquote =>
    cases h
    refine ⟨rfl, fun hhead => ?_⟩
    obtain ⟨tail, rfl⟩ := List.head?_eq_some_iff.1 hhead
    exact hquote tail rfl
  | case4 c cs _ hc ih =>
    obtain ⟨⟨t, r⟩, ht, he⟩ := Option.map_eq_some_iff.1 h
    cases he
    obtain ⟨rfl, hrest⟩ := ih ht
    refine ⟨?_, hrest⟩
    rw [encode, if_neg hc, List.cons_append]

/-- **One literal**: it is read as it is written, up to its last quote. -/
theorem read_eq_some_iff {cs s rest : List Char} :
    read cs = some (s, rest) ↔ cs = quoteChars s ++ rest ∧ rest.head? ≠ some '\'' := by
  constructor
  · intro h
    unfold read at h
    split at h
    · obtain ⟨rfl, hrest⟩ := eq_encode_of_readBody h
      exact ⟨by simp [quoteChars], hrest⟩
    · cases h
  · rintro ⟨rfl, hrest⟩
    exact read_quoteChars s hrest

/-! ## Lists of literals -/

/-- The strings that a text lists, if all of it is literals separated by `, `. No literal is empty,
so there are not more of them than characters. -/
def readList (text : String) : Option (List String) :=
  (readAll text.toList.length text.toList).map (List.map String.ofList)

/-- Whatever is read as a list was written as one. -/
theorem eq_quoteAll_of_readAll {fuel : Nat} {cs : List Char} {ss : List (List Char)}
    (h : readAll fuel cs = some ss) :
    ss ≠ [] ∧ cs = (quoteAll (ss.map String.ofList)).toList := by
  fun_induction readAll fuel cs generalizing ss with
  | case1 => cases h
  | case2 => cases h
  | case3 fuel cs s hread =>
    cases h
    rw [read_eq_some_iff] at hread
    obtain ⟨rfl, -⟩ := hread
    refine ⟨List.cons_ne_nil _ _, ?_⟩
    rw [List.map_singleton, toList_quoteAll_singleton, String.toList_ofList, List.append_nil]
  | case4 fuel cs s rest hread ih =>
    obtain ⟨tail, htail, rfl⟩ := Option.map_eq_some_iff.1 h
    obtain ⟨hne, rfl⟩ := ih htail
    rw [read_eq_some_iff] at hread
    obtain ⟨rfl, -⟩ := hread
    obtain ⟨t, ts, rfl⟩ := List.exists_cons_of_ne_nil hne
    refine ⟨List.cons_ne_nil _ _, ?_⟩
    simp only [List.map_cons, toList_quoteAll_cons_cons, String.toList_ofList]
  | case5 => cases h

/-- A list is read back. By induction on the list: what follows a literal is its separator, and no
quote, so that each literal ends where it was closed. -/
theorem readAll_quoteAll {values : List String} (hne : values ≠ []) {fuel : Nat}
    (hfuel : values.length ≤ fuel) :
    readAll fuel (quoteAll values).toList = some (values.map String.toList) := by
  induction values generalizing fuel with
  | nil => exact absurd rfl hne
  | cons s values ih =>
    obtain ⟨fuel, rfl⟩ : ∃ n, fuel = n + 1 := ⟨fuel - 1, by simp at hfuel; omega⟩
    cases values with
    | nil =>
      have hread : read (quoteChars s.toList) = some (s.toList, []) :=
        read_eq_some_iff.2 ⟨(List.append_nil _).symm, by simp⟩
      rw [toList_quoteAll_singleton, readAll, hread]
      rfl
    | cons t values =>
      have hread : read (quoteChars s.toList ++ ',' :: ' ' :: (quoteAll (t :: values)).toList) =
          some (s.toList, ',' :: ' ' :: (quoteAll (t :: values)).toList) :=
        read_eq_some_iff.2 ⟨rfl, by simp⟩
      have hrest := ih (List.cons_ne_nil _ _) (Nat.le_of_succ_le_succ hfuel)
      rw [toList_quoteAll_cons_cons, readAll, hread]
      simp only [hrest, Option.map_some, List.map_cons]

theorem length_le_quoteAll (values : List String) :
    values.length ≤ (quoteAll values).toList.length := by
  induction values with
  | nil => exact Nat.zero_le _
  | cons s values ih =>
    cases values with
    | nil => simp [toList_quoteAll_singleton, quoteChars]
    | cons t values =>
      simp only [toList_quoteAll_cons_cons, List.length_append, List.length_cons] at ih ⊢
      omega

theorem readList_quoteAll {values : List String} (hne : values ≠ []) :
    readList (quoteAll values) = some values := by
  rw [readList, readAll_quoteAll hne (length_le_quoteAll values), Option.map_some, List.map_map]
  congr 1
  exact (List.map_congr_left fun s _ => String.ofList_toList).trans (List.map_id _)

/-- **A text lists some values iff it is how they are written.** -/
theorem readList_eq_some_iff {text : String} {values : List String} :
    readList text = some values ↔ values ≠ [] ∧ text = quoteAll values := by
  constructor
  · intro h
    obtain ⟨ss, hss, rfl⟩ := Option.map_eq_some_iff.1 h
    obtain ⟨hne, htext⟩ := eq_quoteAll_of_readAll hss
    exact ⟨by simpa using hne, String.toList_inj.1 htext⟩
  · rintro ⟨hne, rfl⟩
    exact readList_quoteAll hne

/-- **Different lists are written differently.** -/
theorem quoteAll_inj {values others : List String} (hvalues : values ≠ []) (hothers : others ≠ []) :
    quoteAll values = quoteAll others ↔ values = others := by
  refine ⟨fun h => ?_, congrArg quoteAll⟩
  have hread : readList (quoteAll others) = some values := readList_eq_some_iff.2 ⟨hvalues, h.symm⟩
  rw [readList_quoteAll hothers] at hread
  exact (Option.some.inj hread).symm

end Literal

/-! ## Enumerations -/

open Literal (quote quoteAll read readList)

namespace Column

/-- Where a column lists the values of an enumeration: in its type, or in the check that was added
last. -/
def enumText (c : Column) : Option Text :=
  if c.dialect.nativeEnum then c.type.text? else c.constraints.checks.getLast?

/-- What stands before the values of an enumeration. -/
def enumHead (c : Column) : String :=
  if c.dialect.nativeEnum then "ENUM" else c.name.display ++ " IN "

/-- The name has to be written where a check lists the values. -/
theorem exists_withEnum_iff (c : Column) (values : List Text) :
    (∃ next, c.withEnum values = .ok next) ↔
      c.dialect.nativeEnum = true ∨ c.name.display?.isSome = true := by
  simp only [exists_eq_ok_iff, Ne, withEnum_eq_error_iff]
  cases c.dialect.nativeEnum <;> cases c.name.display? <;> simp

/-- **An enumeration lists its values between parentheses.** -/
theorem enumText_of_withEnum {c next : Column} {values : List Text}
    (h : c.withEnum values = .ok next) :
    next.enumText =
      some (.plain (c.enumHead ++ "(" ++ quoteAll (values.map Text.content) ++ ")")) := by
  unfold withEnum at h
  cases hnative : c.dialect.nativeEnum with
  | true =>
    rw [if_pos hnative] at h
    cases h
    obtain ⟨d, name, type, constraints⟩ := c
    cases d with
    | mysql => rfl
    | postgresql | sqlite => cases hnative
  | false =>
    rw [if_neg (by simp [hnative]), membershipCheck] at h
    cases hname : c.name.display? with
    | none =>
      rw [hname] at h
      cases h
    | some name =>
      rw [hname] at h
      cases h
      have hin : name ++ " IN (" = name ++ " IN " ++ "(" := by
        rw [String.append_assoc]
        rfl
      simp only [enumText, enumHead, withCheck, withEnumType, withType, constrain, hnative,
        Bool.false_eq_true, if_false, List.getLast?_concat, Value.display_of_display? hname]
      rw [hin]

end Column

/-- Texts with the same surroundings are equal iff what they surround is. -/
theorem surround_inj {left right a b : String} :
    left ++ a ++ right = left ++ b ++ right ↔ a = b := by
  refine ⟨fun h => ?_, fun h => by rw [h]⟩
  have hchars := congrArg String.toList h
  simp only [String.toList_append, List.append_assoc, List.append_cancel_left_eq,
    List.append_cancel_right_eq] at hchars
  exact String.toList_inj.1 hchars

/-- **Lists of values are read back.** A literal ends at its last quote, whatever follows it but
another quote. A list of strings is read back from the text that it is written as, with nothing of
the text left over, and so from the type or the check of a column that is made an enumeration of
them: what is read there holds the values and nothing else. Two enumerations have the same type, or
the same check where there is no type for them and the names of the columns are the same, iff they
have the same values. Only a column whose name cannot be written in the check is none. -/
theorem enum_decodes {values : List Text} (hvalues : values ≠ []) (c : Column) :
    (∀ (s : String) (rest : List Char), rest.head? ≠ some '\'' →
      read ((quote s).toList ++ rest) = some (s.toList, rest)) ∧
    readList (quoteAll (values.map Text.content)) = some (values.map Text.content) ∧
    ((∃ next, c.apply (.enum (values.map Text.toValue)) = .ok next) ↔
      c.dialect.nativeEnum = true ∨ c.name.display?.isSome = true) ∧
    ((c.dialect.nativeEnum = true ∨ c.name.display?.isSome = true) →
      ∃ (next : Column) (text : String) (decoded : List String),
      c.apply (.enum (values.map Text.toValue)) = .ok next ∧
      next.enumText = some (.plain (c.enumHead ++ "(" ++ text ++ ")")) ∧
      readList text = some decoded ∧ (∀ s, s ∈ decoded ↔ ∃ t ∈ values, t.content = s) ∧
      ∀ (others : List Text) (b other : Column), others ≠ [] →
        b.apply (.enum (others.map Text.toValue)) = .ok other →
        b.dialect.nativeEnum = c.dialect.nativeEnum →
        (c.dialect.nativeEnum = true ∨ b.name = c.name) →
        (other.enumText = next.enumText ↔
          others.map Text.content = values.map Text.content)) := by
  have hstrings : values.map Text.content ≠ [] := by simpa using hvalues
  rw [c.apply_enum (enumOf_toValue hvalues)]
  refine ⟨fun s rest hrest => ?_, Literal.readList_quoteAll hstrings, c.exists_withEnum_iff values,
    fun hwritable => ?_⟩
  · rw [quote, String.toList_ofList]
    exact Literal.read_quoteChars s.toList hrest
  · obtain ⟨next, hnext⟩ := (c.exists_withEnum_iff values).2 hwritable
    refine ⟨next, quoteAll (values.map Text.content), values.map Text.content, hnext,
      Column.enumText_of_withEnum hnext, Literal.readList_quoteAll hstrings, fun s => List.mem_map,
      fun others b other hothers hother hnative hname => ?_⟩
    rw [b.apply_enum (enumOf_toValue hothers)] at hother
    have hhead : b.enumHead = c.enumHead := by
      unfold Column.enumHead
      rw [hnative]
      rcases hname with htype | hname
      · rw [if_pos htype, if_pos htype]
      · rw [hname]
    have hcontents : others.map Text.content ≠ [] := by simpa using hothers
    rw [Column.enumText_of_withEnum hother, Column.enumText_of_withEnum hnext, hhead,
      Option.some.injEq, Text.plain.injEq, surround_inj, Literal.quoteAll_inj hcontents hstrings]

/-- Values that look like several values, quotes and a separator among them. -/
def trickyValues : List Text := [.plain "a', 'b", .plain "'", .plain ""]

/-- The first of these values ends where it is closed, and the list is not that of its parts. -/
theorem enum_decodes_trickyValues :
    trickyValues ≠ [] ∧ quoteAll (trickyValues.map Text.content) = "'a'', ''b', '''', ''" ∧
      read "'a'', ''b', '''', ''".toList = some ("a', 'b".toList, ", '''', ''".toList) ∧
      readList "'a'', ''b', '''', ''" = some ["a', 'b", "'", ""] ∧
      ∀ other next : Column,
        sizeColumn.apply (.enum [.str "a", .str "b", .str "'", .str ""]) = .ok other →
        sizeColumn.apply (.enum (trickyValues.map Text.toValue)) = .ok next →
        other.enumText ≠ next.enumText := by
  have hne : trickyValues ≠ [] := List.cons_ne_nil _ _
  have htext : quoteAll (trickyValues.map Text.content) = "'a'', ''b', '''', ''" := by decide
  obtain ⟨hfirst, hlist, -, hdecoded⟩ := enum_decodes hne sizeColumn
  obtain ⟨next, -, -, hnext, -, -, -, hsame⟩ := hdecoded (.inl rfl)
  rw [htext] at hlist
  refine ⟨hne, htext, hfirst "a', 'b" ", '''', ''".toList (by decide), hlist,
    fun other tricky hother htricky heq => ?_⟩
  cases hnext.symm.trans htricky
  rw [hsame [.plain "a", .plain "b", .plain "'", .plain ""] sizeColumn other
    (List.cons_ne_nil _ _) hother rfl (.inl rfl)] at heq
  exact absurd heq (by decide)

end TableDdl
