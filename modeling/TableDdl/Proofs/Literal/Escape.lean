import TableDdl.Column.Call
import TableDdl.Proofs.Table.Layout

/-!
# Literals under MySQL's rules

By default MySQL reads a string literal with escapes: a backslash stands for nothing, and the
character after it for itself (`Literal.readEscapedBody`). Literals are written without regard to
that: only quotes are written twice.

* `readEscaped_quote_iff`: a literal is read back iff it has no backslash. With one in it, what is
  read is another string, wherever it ends (`readEscapedBody_encode_ne`);
* `readsEscaped_quoteAll_iff`: the same for literals separated by `, `;
* `literals_survive_iff`: so the values of an enumeration, and a default, are read back from the
  declaration of a column iff there is no backslash in them. With a backslash at its end a literal
  goes on after the quote that is to close it (`backslash_opens_literal`).
-/

namespace TableDdl

namespace Literal

/-- Reads one literal that may hold escapes. -/
def readEscaped : List Char → Option (List Char × List Char)
  | '\'' :: cs => readEscapedBody cs
  | _ => none

/-- Literals separated by `, ` are read from a text, up to a rest with which the list cannot go
on. -/
inductive ReadsEscaped : List Char → List (List Char) → List Char → Prop where
  | last {cs s rest : List Char} (h : readEscaped cs = some (s, rest))
      (hend : ∀ tail, rest ≠ ',' :: ' ' :: tail) : ReadsEscaped cs [s] rest
  | next {cs s tail rest : List Char} {ss : List (List Char)}
      (h : readEscaped cs = some (s, ',' :: ' ' :: tail)) (hs : ReadsEscaped tail ss rest) :
      ReadsEscaped cs (s :: ss) rest

/-! ## One literal -/

theorem readEscapedBody_quote_quote (cs : List Char) :
    readEscapedBody ('\'' :: '\'' :: cs) =
      (readEscapedBody cs).map fun r => ('\'' :: r.1, r.2) := rfl

theorem readEscapedBody_quote {cs : List Char} (h : cs.head? ≠ some '\'') :
    readEscapedBody ('\'' :: cs) = some ([], cs) := by
  cases cs with
  | nil => rfl
  | cons c cs =>
    have hc : c ≠ '\'' := by simpa using h
    simp [readEscapedBody, hc]

theorem readEscapedBody_cons {c : Char} {cs : List Char} (hb : c ≠ '\\') (hq : c ≠ '\'') :
    readEscapedBody (c :: cs) = (readEscapedBody cs).map fun r => (c :: r.1, r.2) := by
  cases cs with
  | nil => simp [readEscapedBody]
  | cons d ds => simp [readEscapedBody, hb, hq]

/-- A character that is no backslash is read as it was written. -/
theorem readEscapedBody_encode_cons {c : Char} (h : c ≠ '\\') (cs tail : List Char) :
    readEscapedBody (encode (c :: cs) ++ tail) =
      (readEscapedBody (encode cs ++ tail)).map fun r => (c :: r.1, r.2) := by
  by_cases hq : c = '\''
  · subst hq
    exact readEscapedBody_quote_quote _
  · simp only [encode, if_neg hq, List.cons_append]
    exact readEscapedBody_cons h hq

/-- **Without backslashes a literal is read back.** -/
theorem readEscapedBody_encode {cs rest : List Char} (h : '\\' ∉ cs)
    (hrest : rest.head? ≠ some '\'') :
    readEscapedBody (encode cs ++ '\'' :: rest) = some (cs, rest) := by
  induction cs with
  | nil => exact readEscapedBody_quote hrest
  | cons c cs ih =>
    have hc : c ≠ '\\' := fun hc => h (hc ▸ List.mem_cons_self)
    rw [readEscapedBody_encode_cons hc, ih fun hcs => h (List.mem_cons_of_mem _ hcs)]
    rfl

/-- A character at the front of what is read. -/
theorem front_eq {c : Char} {cs s r : List Char}
    (h : ((readEscapedBody cs).map fun r => (c :: r.1, r.2)) = some (s, r)) :
    ∃ t, s = c :: t ∧ readEscapedBody cs = some (t, r) := by
  obtain ⟨⟨t, r'⟩, ht, he⟩ := Option.map_eq_some_iff.1 h
  cases he
  exact ⟨t, rfl, ht⟩

/-- Writing a quote twice does not change what a text begins with. -/
theorem encode_cons_front (c : Char) (cs : List Char) : ∃ tail, encode (c :: cs) = c :: tail := by
  unfold encode
  split
  · rename_i hc
    exact ⟨_, by rw [hc]⟩
  · exact ⟨_, rfl⟩

theorem replicate_append_cons (n : Nat) (c : Char) (cs : List Char) :
    List.replicate n c ++ c :: cs = c :: (List.replicate n c ++ cs) := by
  rw [← List.cons_append, ← List.replicate_succ, List.replicate_succ', List.append_assoc]
  rfl

/-- **A backslash is read only where two of them were written**: one that was written before
anything else, or before the quote that is to close the literal, is read as what is behind it. -/
theorem exists_backslashes_of_read {cs rest s r : List Char}
    (h : readEscapedBody (encode cs ++ '\'' :: rest) = some ('\\' :: s, r)) :
    ∃ ds, cs = '\\' :: '\\' :: ds ∧ readEscapedBody (encode ds ++ '\'' :: rest) = some (s, r) := by
  cases cs with
  | nil =>
    rw [show encode [] ++ '\'' :: rest = '\'' :: rest from rfl] at h
    by_cases hrest : rest.head? = some '\''
    · obtain ⟨rest', rfl⟩ := List.head?_eq_some_iff.1 hrest
      obtain ⟨_, ht, -⟩ := front_eq h
      cases ht
    · rw [readEscapedBody_quote hrest] at h
      cases h
  | cons c cs =>
    by_cases hc : c = '\\'
    · subst hc
      cases cs with
      | nil =>
        obtain ⟨_, ht, -⟩ := front_eq h
        cases ht
      | cons d ds =>
        obtain ⟨tail, htail⟩ := encode_cons_front d ds
        rw [show encode ('\\' :: d :: ds) = '\\' :: encode (d :: ds) from rfl] at h
        by_cases hd : d = '\\'
        · subst hd
          obtain ⟨_, ht, hread⟩ := front_eq h
          cases ht
          exact ⟨ds, rfl, hread⟩
        · rw [htail] at h
          obtain ⟨_, ht, -⟩ := front_eq h
          exact absurd (List.head_eq_of_cons_eq ht).symm hd
    · rw [readEscapedBody_encode_cons hc] at h
      obtain ⟨_, ht, -⟩ := front_eq h
      exact absurd (List.head_eq_of_cons_eq ht).symm hc

/-- What is read is never the text with some more backslashes before it, nor the text itself if it
has one. By induction on the length of the text: for each backslash that is read two were written,
so that what is read falls behind by one more. -/
theorem readEscapedBody_encode_ne (n : Nat) (cs : List Char) (h : 0 < n ∨ '\\' ∈ cs)
    (rest r : List Char) :
    readEscapedBody (encode cs ++ '\'' :: rest) ≠ some (List.replicate n '\\' ++ cs, r) := by
  induction hlength : cs.length using Nat.strongRecOn generalizing n cs with
  | ind length ih =>
    subst hlength
    intro hread
    cases n with
    | succ n =>
      rw [List.replicate_succ, List.cons_append] at hread
      obtain ⟨ds, rfl, hread⟩ := exists_backslashes_of_read hread
      rw [replicate_append_cons, replicate_append_cons] at hread
      have hshorter : ds.length < ('\\' :: '\\' :: ds).length := by
        simp only [List.length_cons]
        omega
      exact ih ds.length hshorter (n + 2) ds (.inl (Nat.succ_pos _)) rfl hread
    | zero =>
      cases cs with
      | nil => exact absurd h (by simp)
      | cons c cs =>
        by_cases hc : c = '\\'
        · subst hc
          obtain ⟨ds, hds, hread⟩ := exists_backslashes_of_read hread
          cases hds
          have hshorter : ds.length < ('\\' :: '\\' :: ds).length := by
            simp only [List.length_cons]
            omega
          exact ih ds.length hshorter 1 ds (.inl Nat.one_pos) rfl hread
        · rw [readEscapedBody_encode_cons hc] at hread
          obtain ⟨t, ht, hread⟩ := front_eq hread
          cases ht
          have hcs : '\\' ∈ cs := by simpa [Ne.symm hc] using h
          exact ih cs.length (by simp) 0 cs (.inr hcs) rfl hread

theorem readEscaped_quoteChars {cs rest : List Char} (h : '\\' ∉ cs)
    (hrest : rest.head? ≠ some '\'') : readEscaped (quoteChars cs ++ rest) = some (cs, rest) := by
  simp only [quoteChars, List.cons_append, List.append_assoc, List.nil_append, readEscaped]
  exact readEscapedBody_encode h hrest

theorem not_mem_of_readEscaped {cs rest r : List Char}
    (h : readEscaped (quoteChars cs ++ rest) = some (cs, r)) : '\\' ∉ cs := by
  simp only [quoteChars, List.cons_append, List.append_assoc, List.nil_append, readEscaped] at h
  exact fun hcs => readEscapedBody_encode_ne 0 cs (.inr hcs) rest r h

/-- **A literal is read back iff it has no backslash.** -/
theorem readEscaped_quote_iff (s : String) {rest : List Char} (hrest : rest.head? ≠ some '\'') :
    readEscaped ((quote s).toList ++ rest) = some (s.toList, rest) ↔ '\\' ∉ s.toList := by
  rw [quote, String.toList_ofList]
  exact ⟨not_mem_of_readEscaped, fun h => readEscaped_quoteChars h hrest⟩

/-! ## Lists of literals -/

theorem toList_quoteAll_singleton (s : String) : (quoteAll [s]).toList = quoteChars s.toList := by
  simp [quoteAll, quote]

theorem toList_quoteAll_cons_cons (s t : String) (values : List String) :
    (quoteAll (s :: t :: values)).toList =
      quoteChars s.toList ++ ',' :: ' ' :: (quoteAll (t :: values)).toList := by
  simp only [quoteAll, List.map_cons, String.intercalate_cons_cons, String.toList_append, quote,
    String.toList_ofList, List.append_assoc]
  rfl

/-- **A list of literals is read back iff there is no backslash in it.** By induction on the list:
the first literal is read back up to its own end, or not at all. -/
theorem readsEscaped_quoteAll_iff {values : List String} (hne : values ≠ []) (after : List Char) :
    ReadsEscaped ((quoteAll values).toList ++ ')' :: after) (values.map String.toList)
        (')' :: after) ↔
      ∀ s ∈ values, '\\' ∉ s.toList := by
  induction values with
  | nil => exact absurd rfl hne
  | cons s values ih =>
    cases values with
    | nil =>
      rw [toList_quoteAll_singleton, List.forall_mem_singleton]
      constructor
      · intro h
        cases h with
        | last h _ => exact not_mem_of_readEscaped h
        | next h hs => cases hs
      · exact fun h => .last (readEscaped_quoteChars h (by simp)) (by simp)
    | cons t values =>
      rw [toList_quoteAll_cons_cons, List.forall_mem_cons, ← ih (List.cons_ne_nil _ _),
        List.append_assoc]
      have hcomma : (',' :: ' ' :: (quoteAll (t :: values)).toList ++ ')' :: after).head? ≠
          some '\'' := by simp
      have hread (h : '\\' ∉ s.toList) := readEscaped_quoteChars h hcomma
      constructor
      · intro h
        cases h with
        | next h hs =>
          have hfirst := not_mem_of_readEscaped h
          rw [hread hfirst] at h
          cases h
          exact ⟨hfirst, hs⟩
      · rintro ⟨hfirst, hs⟩
        exact .next (hread hfirst) hs

end Literal

/-! ## Columns -/

open Literal (ReadsEscaped quote quoteAll readEscaped)

theorem enumOf_toValue {values : List Text} (h : values ≠ []) :
    enumOf (values.map Text.toValue) = .ok values := by
  have htexts : (values.map Text.toValue).mapM Value.text? = some values :=
    Value.mapM_text?_eq_some_iff.2 rfl
  unfold enumOf
  rw [htexts]
  cases values with
  | nil => exact absurd rfl h
  | cons t values => rfl

theorem defaultOf_toValue (t : Text) : defaultOf t.toValue = .ok (quote t.content) := by
  cases t <;> rfl

namespace Column

/-- What follows the type in a declaration for MySQL. -/
def afterType (c : Column) : String :=
  (if c.constraints.unsigned then " UNSIGNED" else "")
    ++ (if c.constraints.autoIncrement then " AUTO_INCREMENT" else "") ++ c.constraints.suffix

theorem declarationText_mysql (c : Column) :
    c.declarationText Dialect.mysql.rules =
      c.name.content ++ " " ++ c.type.content ++ c.afterType := by
  have htype : (if c.constraints.autoIncrement then
      Dialect.mysql.rules.serialType.getD c.type.content else c.type.content) = c.type.content :=
    ite_self _
  unfold declarationText typeText afterType
  rw [htype]
  simp only [toString_text, String.append_assoc]
  cases c.constraints.unsigned <;> cases c.constraints.autoIncrement <;> rfl

/-- A default is the last part of a declaration. -/
theorem declarationText_of_default (r : Rules) {c : Column} {literal : String}
    (h : c.constraints.default = some literal) :
    ∃ before, c.declarationText r = before ++ " DEFAULT " ++ literal := by
  refine ⟨c.name.content ++ " " ++ c.typeText r
    ++ (if c.constraints.notNull then " NOT NULL" else ""), ?_⟩
  unfold declarationText ColumnConstraints.suffix
  rw [h]
  simp only [toString_text, String.append_assoc]

/-- Where the values of an enumeration stand in a declaration. -/
theorem exists_enum_declared {c : Column} (hd : c.dialect = .mysql) {values : List Text}
    (hne : values ≠ []) :
    ∃ (next : Column) (after : String), c.apply (.enum (values.map Text.toValue)) = .ok next ∧
      next.declarationText Dialect.mysql.rules =
        c.name.content ++ " ENUM(" ++ quoteAll (values.map Text.content) ++ ")" ++ after := by
  have hcall : c.apply (.enum (values.map Text.toValue)) = .ok (c.withEnumType values) := by
    simp only [apply, enumOf_toValue hne]
    show c.withEnum values = _
    rw [withEnum, hd]
    rfl
  have htype : (c.withEnumType values).type.content =
      "ENUM(" ++ quoteAll (values.map Text.content) ++ ")" := by
    unfold withEnumType
    rw [hd]
    rfl
  have hname : (c.withEnumType values).name = c.name := rfl
  refine ⟨_, (c.withEnumType values).afterType, hcall, ?_⟩
  rw [declarationText_mysql, htype, hname, show " ENUM(" = " " ++ "ENUM(" from rfl]
  simp only [String.append_assoc]

/-- Where a default stands in a declaration. -/
theorem exists_default_declared (c : Column) (r : Rules) (text : Text) :
    ∃ (next : Column) (before : String), c.apply (.default text.toValue) = .ok next ∧
      next.declarationText r = before ++ " DEFAULT " ++ quote text.content := by
  have hcall : c.apply (.default text.toValue) =
      .ok (c.constrain fun k => { k with default := some (quote text.content) }) := by
    simp only [apply, defaultOf_toValue]
    rfl
  obtain ⟨before, hbefore⟩ := declarationText_of_default r
    (c := c.constrain fun k => { k with default := some (quote text.content) }) rfl
  exact ⟨_, before, hcall, hbefore⟩

end Column

/-- **When strings survive MySQL's rules.** The values of an enumeration stand in the declaration of
a column after its name, and a default stands at the end of it. Read by these rules, the list of
values ends at its parenthesis and holds the values again, and the default ends at its last quote
and is the string again, iff there is no backslash in them. -/
theorem literals_survive_iff {c : Column} (hd : c.dialect = .mysql) :
    (∀ values : List Text, values ≠ [] → ∃ (next : Column) (after : String),
      c.apply (.enum (values.map Text.toValue)) = .ok next ∧
      next.declarationText Dialect.mysql.rules =
        c.name.content ++ " ENUM(" ++ quoteAll (values.map Text.content) ++ ")" ++ after ∧
      (ReadsEscaped ((quoteAll (values.map Text.content)).toList ++ ')' :: after.toList)
          (values.map (·.content.toList)) (')' :: after.toList) ↔
        ∀ t ∈ values, '\\' ∉ t.content.toList)) ∧
    ∀ text : Text, ∃ (next : Column) (before : String),
      c.apply (.default text.toValue) = .ok next ∧
      next.declarationText Dialect.mysql.rules = before ++ " DEFAULT " ++ quote text.content ∧
      ∀ after : List Char, after.head? ≠ some '\'' →
        (readEscaped ((quote text.content).toList ++ after) = some (text.content.toList, after) ↔
          '\\' ∉ text.content.toList) := by
  refine ⟨fun values hne => ?_, fun text => ?_⟩
  · obtain ⟨next, after, hcall, htext⟩ := Column.exists_enum_declared hd hne
    have hcontents : values.map Text.content ≠ [] := by simpa using hne
    have hlist := Literal.readsEscaped_quoteAll_iff hcontents after.toList
    rw [List.map_map, List.forall_mem_map] at hlist
    exact ⟨next, after, hcall, htext, hlist⟩
  · obtain ⟨next, before, hcall, htext⟩ := c.exists_default_declared Dialect.mysql.rules text
    exact ⟨next, before, hcall, htext, fun after => Literal.readEscaped_quote_iff _⟩

def sizeColumn : Column := { dialect := .mysql, name := .str "size" }

/-- Quotes are no obstacle. -/
theorem literals_survive_iff_sizeColumn :
    sizeColumn.dialect = .mysql ∧ ∃ (next : Column) (after : String),
      sizeColumn.apply (.enum [.str "it's", .str "plain"]) = .ok next ∧
      next.declarationText Dialect.mysql.rules = "size ENUM('it''s', 'plain')" ++ after ∧
      ReadsEscaped ("'it''s', 'plain'".toList ++ ')' :: after.toList)
        ["it's".toList, "plain".toList] (')' :: after.toList) := by
  have hd : sizeColumn.dialect = .mysql := rfl
  have hname : sizeColumn.name.content = "size" := rfl
  have hvalues : quoteAll ([Text.plain "it's", .plain "plain"].map Text.content) =
      "'it''s', 'plain'" := by decide
  have hdeclared : "size" ++ " ENUM(" ++ "'it''s', 'plain'" ++ ")" =
      "size ENUM('it''s', 'plain')" := by decide
  obtain ⟨next, after, hcall, htext, hread⟩ :=
    (literals_survive_iff hd).1 [.plain "it's", .plain "plain"] (List.cons_ne_nil _ _)
  rw [hname, hvalues, hdeclared] at htext
  rw [hvalues] at hread
  exact ⟨hd, next, after, hcall, htext, hread.2 (by decide)⟩

/-- **A backslash at the end of a literal keeps it open**: the first value goes on to the quote that
opens the second one, and a default has no end. -/
theorem backslash_opens_literal :
    (sizeColumn.apply (.enum [.str "a\\", .str "b"])).map (·.type) =
        .ok (.str "ENUM('a\\', 'b')") ∧
      readEscaped "'a\\', 'b')".toList = some ("a', ".toList, "b')".toList) ∧
      ¬ReadsEscaped "'a\\', 'b')".toList ["a\\".toList, "b".toList] [')'] ∧
      (sizeColumn.apply (.default (.str "a\\"))).map (·.constraints.default) =
        .ok (some "'a\\'") ∧
      readEscaped "'a\\'".toList = none := by
  have hfirst : readEscaped "'a\\', 'b')".toList = some ("a', ".toList, "b')".toList) := by decide
  refine ⟨rfl, hfirst, fun h => ?_, rfl, by decide⟩
  cases h with
  | next h hs =>
    rw [hfirst] at h
    have hvalue : "a', ".toList = "a\\".toList := congrArg Prod.fst (Option.some.inj h)
    exact absurd hvalue (by decide)

end TableDdl
