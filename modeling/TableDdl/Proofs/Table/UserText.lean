import TableDdl.Proofs.Table.Containment
import TableDdl.Proofs.Table.Portable

/-!
# User text in a table

Calls bring text of their own into a statement: the values of an enumeration, a default, conditions
and the names in a reference. Conditions and names stand in the statement as they are, so a call is
`Safe` if they can; values and defaults may be any text, because they are written as literals.

* `InRange.reads_text`, `reads_defaultText`, `balanced_membership`: what is written for a type, a default and
  an enumeration is an item, or balanced, whatever text it was made from;
* `Sketch.Contained` is the invariant of safe calls (`contained_of_effect`, `contained_sketch`), and
  it gives a contained declaration in every dialect (`Contained.declaration`);
* `statements_contained`: a reader finds the body of the statement and, in it, the declarations and
  the constraints of the columns, and nothing else.
-/

namespace TableDdl

/-! ## What calls write -/

theorem Literal.reads_defaultText {v : Value} {literal : String}
    (h : Literal.defaultText? v = some literal) : Reads {} literal {} := by
  cases v with
  | none =>
    cases h
    exact reads_ofList rfl
  | bool b =>
    cases h
    cases b <;> exact reads_ofList rfl
  | int i =>
    cases h
    exact reads_of_plain (plain_intRepr i) 0
  | float x =>
    change (if _ then _ else _) = _ at h
    split at h
    · cases h
      exact reads_of_plain (plain_float x) 0
    · cases h
  | member label described number value =>
    change (if _ then _ else _) = _ at h
    split at h
    · cases h
      exact reads_of_plain label.plain_text 0
    · cases h
  | str s =>
    cases h
    exact reads_quote s 0
  | dialect d =>
    cases h
    exact reads_quote d.name 0
  | _ => cases h

/-- A type is an item in every dialect, whatever the values of an enumeration. -/
theorem LogicalType.InRange.reads_text {t : LogicalType} (h : t.InRange) (d : Dialect) :
    Reads {} (t.text d) {} := by
  have number {v : Value} {i : Int} (hv : v.int? = some i) :
      Reads Scan.inner v.display Scan.inner :=
    reads_of_plain (Value.plain_display_of_int? hv) 1
  cases t with
  | simple t => cases d <;> cases t <;> exact reads_ofList rfl
  | decimal total places =>
    obtain ⟨_, _, htotal, hplaces, -⟩ := h
    have hcomma : Reads Scan.inner ", " Scan.inner := reads_ofList rfl
    have hopen : Reads {} "DECIMAL(" Scan.inner := reads_ofList rfl
    have hdigits := ((hopen.append (number htotal)).append hcomma).paren (number hplaces)
    cases d with
    | mysql => exact hdigits
    | postgresql => exact hdigits
    | sqlite => exact show Reads {} "NUMERIC" {} from reads_ofList rfl
  | char length =>
    obtain ⟨_, hv, -⟩ := h
    have hlength : Reads {} ("CHAR(" ++ length.display ++ ")") {} :=
      Reads.paren (reads_ofList rfl) (number hv)
    cases d with
    | mysql => exact hlength
    | postgresql => exact hlength
    | sqlite => exact show Reads {} "TEXT" {} from reads_ofList rfl
  | varchar length =>
    obtain ⟨_, hv, -⟩ := h
    have hlength : Reads {} ("VARCHAR(" ++ length.display ++ ")") {} :=
      Reads.paren (reads_ofList rfl) (number hv)
    cases d with
    | mysql => exact hlength
    | postgresql => exact hlength
    | sqlite => exact show Reads {} "TEXT" {} from reads_ofList rfl
  | enum values =>
    have hopen : Reads {} "ENUM(" Scan.inner := reads_ofList rfl
    cases d with
    | mysql => exact hopen.paren (reads_quoteAll _)
    | postgresql => exact show Reads {} "VARCHAR" {} from reads_ofList rfl
    | sqlite => exact show Reads {} "TEXT" {} from reads_ofList rfl

/-- A membership check is balanced, whatever its values. -/
theorem Condition.balanced_membership {name : Value} (h : Plain name.display) (values : List Text) :
    Balanced ((Condition.membership values).text name).display.toList := by
  have hname : Reads {} name.display {} := reads_of_plain h 0
  have hopen : Reads {} " IN (" Scan.inner := reads_ofList rfl
  have hcheck := (hname.append hopen).paren (reads_quoteAll (values.map Text.content))
  exact Scan.balanced_of_isItem (reads_iff_isItem.1 hcheck)

theorem checkOf_eq_ok {v : Value} {t : Text} (h : checkOf v = .ok t) : v.fullText? = some t := by
  unfold checkOf at h
  split at h
  · cases h
    assumption
  · cases h

theorem referenceOf_eq_ok {table column : Value} {r : Reference}
    (h : referenceOf table column = .ok r) :
    table.fullText? = some r.table ∧ column.fullText? = some r.column := by
  unfold referenceOf at h
  split at h
  · cases h
  · cases h
  · cases h
    exact ⟨by assumption, by assumption⟩

/-! ## Columns that stay in their place -/

/-- **A call whose text can be left as it is**: a condition is balanced on its own, and the names in a
reference are identifiers. Everything else may be any text. -/
def Call.Safe : Call → Prop
  | .check condition => ∀ t, condition.fullText? = some t → Balanced t.display.toList
  | .references table column =>
    (∀ t, table.fullText? = some t → t.isIdentifier = true) ∧
      ∀ t, column.fullText? = some t → t.isIdentifier = true
  | _ => True

/-- What safe calls keep. -/
structure Sketch.Contained (s : Sketch) : Prop where
  typed : ∀ t, s.type = some t → t.InRange
  defaulted : ∀ literal, s.constraints.default = some literal → Reads {} literal {}
  referred : ∀ k r, s.constraints.foreignKey = some k → k.reference = some r →
    r.table.isIdentifier = true ∧ r.column.isIdentifier = true
  checked : ∀ t, .asked t ∈ s.checks → Balanced t.display.toList

namespace Sketch

/-- **A safe call keeps a column contained.** -/
theorem contained_of_effect {s t : Sketch} {call : Call} (he : Effect s call t) (hc : call.Safe)
    (h : s.Contained) : t.Contained := by
  cases he with
  | mark type k htype hdefault hkey =>
    refine ⟨fun t ht => ?_, fun literal hl => h.defaulted literal (hdefault ▸ hl),
      fun key r hk hr => ?_, h.checked⟩
    · rcases htype with hold | ⟨new, hnew, hrange⟩
      · exact h.typed t (hold ▸ ht)
      · cases hnew.symm.trans ht
        exact hrange
    rcases hkey with hkey | hkey
    · exact h.referred key r (hkey ▸ hk) hr
    · cases hkey.symm.trans hk
      cases hr
  | enum hv =>
    refine ⟨fun t ht => ?_, h.defaulted, h.referred, fun text ht => ?_⟩
    · cases ht
      exact enumOf_eq_ok hv
    rcases List.mem_append.1 ht with ht | ht
    · exact h.checked text ht
    · cases List.mem_singleton.1 ht
  | check hv =>
    refine ⟨h.typed, h.defaulted, h.referred, fun text ht => ?_⟩
    rcases List.mem_append.1 ht with ht | ht
    · exact h.checked text ht
    · rw [Condition.asked.inj (List.mem_singleton.1 ht)]
      exact hc _ (checkOf_eq_ok hv)
  | default hv =>
    refine ⟨h.typed, fun literal hl => ?_, h.referred, h.checked⟩
    cases hl
    exact Literal.reads_defaultText (defaultOf_eq_ok_iff.1 hv).1
  | reference hv hkey =>
    refine ⟨h.typed, h.defaulted, fun key r hk hr => ?_, h.checked⟩
    cases hk
    cases hr
    exact ⟨hc.1 _ (referenceOf_eq_ok hv).1, hc.2 _ (referenceOf_eq_ok hv).2⟩
  | action onDelete onUpdate hkey =>
    refine ⟨h.typed, h.defaulted, fun key r hk hr => ?_, h.checked⟩
    cases hk
    exact h.referred _ r hkey hr

/-- The checks of a contained column are balanced in every dialect. -/
theorem Contained.balanced_checksIn {s : Sketch} (h : s.Contained) (hn : Plain s.name.display)
    (d : Dialect) : ∀ t ∈ s.checksIn d, Balanced t.display.toList := by
  have hcondition : ∀ c ∈ s.checks, Balanced (c.text s.name).display.toList := by
    intro c hc
    cases c with
    | asked t => exact h.checked t hc
    | membership values => exact Condition.balanced_membership hn values
    | sign =>
      have hsign : Plain " >= 0" := plain_ofList rfl
      exact balanced_of_inert (hn.append hsign).isInert
  intro t ht
  unfold checksIn at ht
  obtain ⟨c, hc, rfl⟩ := List.mem_map.1 ht
  split at hc
  · exact hcondition c (List.mem_of_mem_filter hc)
  · exact hcondition c hc

/-- **A contained column is declared in its place.** -/
theorem Contained.declaration {s : Sketch} (h : s.Contained) {name : Text}
    (hname : s.name = name.toValue) (hn : name.isIdentifier = true) (d : Dialect) :
    (s.column d).declaration.Contained where
  named := by
    have ht : (s.column d).nameText = name := by simp [Column.nameText, column, hname]
    show (s.column d).nameText.isIdentifier = true
    rwa [ht]
  typed := by
    show Reads {} (s.column d).type.content {}
    unfold column
    cases ht : s.type with
    | none => exact reads_empty {}
    | some t => exact (h.typed t ht).reads_text d
  defaulted := h.defaulted
  referred := by
    intro referral hr
    obtain ⟨key, hkey, hr⟩ := Option.bind_eq_some_iff.1 hr
    obtain ⟨r, hreference, rfl⟩ := Option.map_eq_some_iff.1 hr
    have hnames := h.referred key r hkey hreference
    exact ⟨Text.plain_display hnames.1, Text.plain_display hnames.2⟩
  checked := by
    have hplain : Plain s.name.display := by
      rw [hname, Value.display_toValue]
      exact Text.plain_display hn
    intro condition hc
    obtain ⟨t, ht, rfl⟩ := List.mem_map.1 hc
    exact h.balanced_checksIn hplain d t ht

end Sketch

/-! ## Tables that stay in one piece -/

namespace Program

/-- The calls of a program that are understood. -/
def known (p : Program) : List Call := p.calls.filterMap fun c => (Call.ofMethod c.1 c.2).toOption

/-- A program of safe calls keeps its column contained. -/
theorem contained_sketch {p : Program} (h : ∀ call ∈ p.known, call.Safe) (d : Dialect) :
    (p.sketch d).Contained := by
  refine Sketch.run_induction (P := Sketch.Contained) ⟨?_, ?_, ?_, ?_⟩ ?_
  · intro t ht
    cases ht
  · intro literal hl
    cases hl
  · intro key r hk
    cases hk
  · intro t ht
    cases ht
  · intro s t method arguments call hm hcall he hs
    refine Sketch.contained_of_effect he (h call ?_) hs
    exact List.mem_filterMap.2 ⟨_, hm, by rw [hcall]; rfl⟩

/-- The columns of programs are the columns of their sketches, and all names are valid. -/
theorem eq_of_mapM_column {ps : List Program} {d : Dialect} {columns : List Column}
    (h : ps.mapM (·.column d) = .ok columns) :
    columns = ps.map (fun p => (p.sketch d).column d) ∧
      ∀ p ∈ ps, (Value.str p.name).isIdentifier = true := by
  induction ps generalizing columns with
  | nil =>
    cases h
    exact ⟨rfl, by simp⟩
  | cons p ps ih =>
    rw [List.mapM_cons] at h
    obtain ⟨c, hc, h⟩ := bind_eq_ok h
    obtain ⟨cs, hcs, h⟩ := bind_eq_ok h
    cases h
    rw [column_eq] at hc
    split at hc
    · cases hc
      obtain ⟨rfl, hnames⟩ := ih hcs
      exact ⟨rfl, by simpa using ⟨by assumption, hnames⟩⟩
    · cases hc

end Program

/-- A column whose default and values try to end the statement. -/
def hostileProgram : Program where
  name := "state"
  calls := [
    ("enum", [.str "it's", .str "a, b);"]),
    ("default", [.str "'); DROP TABLE orders;"]),
    ("check", [.str "length(state) < 9"]),
    ("foreign_key", []),
    ("references", [.str "states", .str "name"])]

end TableDdl
