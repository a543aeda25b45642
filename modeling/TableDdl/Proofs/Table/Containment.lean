import TableDdl.Proofs.Literal.Number
import TableDdl.Proofs.Table.Reading
import TableDdl.Table.Statement

/-!
# Declarations that stay in their place

When the texts of a column can be put into a statement without changing what a reader makes of it.
A declaration is `Contained` if its names are identifiers, its type and its default are items of a
list, and its conditions are balanced. Names and numbers are plain texts (`Text.plain_display`,
`plain_intRepr`, `plain_float`), so that only types, defaults and conditions need more than that.

* `Declaration.isEntry_clause`, `Declaration.isEntry_constraints`: every text that a contained
  declaration contributes to its table is an entry, one lemma for each kind of clause;
* `parts?_createStatement`: so the body of the `CREATE TABLE` ends at the last parenthesis, and its
  items are the texts that were put into it.

All this holds in every dialect, since the words that a dialect adds are plain.
-/

namespace TableDdl

/-! ## Plain texts -/

theorem Identifier.isPlain_of_isWordChar {c : Char} (h : isWordChar c = true) :
    isPlain c = true :=
  isPlain_of_class rfl h

/-- Identifiers are plain, with or without a line break. -/
theorem Identifier.plain_of_accepts {a : String} (h : accepts a.toList = true) : Plain a := by
  obtain ⟨c, w, hcs, hc, hw, -⟩ := accepts_iff.1 h
  have hword : ∀ d ∈ c :: w, isPlain d = true := by
    intro d hd
    rcases List.mem_cons.1 hd with rfl | hd
    · exact isPlain_of_isWordChar (isWordChar_of_isLetter hc)
    · rcases hw d hd with hd | rfl
      · exact isPlain_of_isWordChar hd
      · decide
  intro d hd
  rcases hcs with hcs | hcs
  · rw [hcs] at hd
    exact hword d hd
  · rw [hcs] at hd
    rcases List.mem_append.1 hd with hd | hd
    · exact hword d hd
    · rw [List.mem_singleton.1 hd]
      decide

theorem Identifier.begins_of_accepts {a : String} (h : accepts a.toList = true) : Begins a := by
  unfold Begins
  cases hcs : a.toList with
  | nil => rw [hcs] at h; cases h
  | cons c cs =>
    refine ⟨c, cs, rfl, ?_⟩
    rintro rfl
    rw [hcs, accepts] at h
    exact absurd (Bool.and_eq_true_iff.1 h).1 (by decide)

/-- An identifier is plain, also where it is put into other text. -/
theorem Text.plain_display {t : Text} (h : t.isIdentifier = true) : Plain t.display := by
  cases t with
  | plain s => exact Identifier.plain_of_accepts h
  | dialect d =>
    have hmember : Plain d.memberName := by cases d <;> exact plain_ofList rfl
    have hlabel : Plain "Dialect." := plain_ofList rfl
    exact hlabel.append hmember

theorem isPlain_of_isNumberChar {c : Char} (h : isNumberChar c = true) : isPlain c = true :=
  isPlain_of_class rfl h

theorem plain_intRepr (i : Int) : Plain i.repr := fun _ hc =>
  isPlain_of_isNumberChar (isNumberChar_intRepr hc)

theorem plain_natRepr (n : Nat) : Plain n.repr := by
  intro c hc
  rw [Nat.toList_repr] at hc
  exact isPlain_of_isNumberChar (isNumberChar_of_mem_toDigits hc)

theorem plain_float (x : Float) : Plain (Value.floatLayout.write x) := fun c hc =>
  isPlain_of_isNumberChar (isNumberChar_floatLayout x c hc)

theorem Label.plain_text (label : Label) : Plain label.text := fun c hc =>
  isPlain_of_class (p := isLabelChar) rfl (List.all_eq_true.1 label.isLabel c hc)

/-- Whatever a number is written as, it is plain. -/
theorem Value.plain_display_of_number? {v : Value} {n : Number} (h : v.number? = some n) :
    Plain v.display := by
  cases v with
  | int i => exact plain_intRepr i
  | float x => exact plain_float x
  | member label _ _ _ => exact label.plain_text
  | _ => cases h

theorem Value.plain_display_of_int? {v : Value} {i : Int} (h : v.int? = some i) :
    Plain v.display :=
  plain_display_of_number? (int?_eq_some_iff.1 h)

/-! ## Contained declarations -/

/-- **A declaration that stays in its place**: its names are plain, its type and its default are items,
and its conditions are balanced. -/
structure Declaration.Contained (c : Declaration) : Prop where
  named : c.name.isIdentifier = true
  typed : Reads {} c.type {}
  defaulted : ∀ literal, c.default = some literal → Reads {} literal {}
  referred : ∀ k, c.referral = some k → Plain k.table ∧ Plain k.column
  checked : ∀ condition ∈ c.checks, Balanced condition.toList

section
variable {c : Declaration} {table : String} {d : Dialect}

/-- The words that a dialect may add to a declaration are plain. -/
theorem Declaration.reads_typeIn (h : c.Contained) : Reads {} (c.typeIn d.rules) {} := by
  unfold Declaration.typeIn
  split
  · cases d with
    | mysql => exact h.typed
    | postgresql => exact show Reads {} "BIGSERIAL" {} from reads_ofList rfl
    | sqlite => exact h.typed
  · exact h.typed

theorem Declaration.reads_parts (h : c.Contained) : ∀ part ∈ c.parts d.rules, Reads {} part {} := by
  have hname : Reads {} c.name.content {} := reads_of_plain (Identifier.plain_of_accepts h.named) 0
  have hunsigned : ∀ part ∈ (if c.unsigned && d.rules.nativeUnsigned then ["UNSIGNED"] else []),
      Reads {} part {} := by
    intro part hp
    split at hp
    · rw [List.mem_singleton.1 hp]
      exact reads_ofList rfl
    · cases hp
  have hword : ∀ part ∈ (if c.autoIncrement then d.rules.autoIncrementKeyword.toList else []),
      Reads {} part {} := by
    intro part hp
    split at hp
    · have hword : d.rules.autoIncrementKeyword = some part := by simpa using hp
      cases d <;> cases hword
      exact reads_ofList rfl
    · cases hp
  have hnull : ∀ part ∈ (if c.notNull then ["NOT NULL"] else []), Reads {} part {} := by
    intro part hp
    split at hp
    · rw [List.mem_singleton.1 hp]
      exact reads_ofList rfl
    · cases hp
  have hdefault : ∀ part ∈ (c.default.map ("DEFAULT " ++ ·)).toList, Reads {} part {} := by
    intro part hp
    obtain ⟨literal, hl, rfl⟩ := Option.map_eq_some_iff.1 (Option.mem_toList.1 hp)
    exact (reads_ofList rfl : Reads {} "DEFAULT " {}).append (h.defaulted literal hl)
  intro part hp
  simp only [Declaration.parts, List.mem_append, List.mem_cons, List.not_mem_nil, or_false] at hp
  rcases hp with ((((rfl | rfl) | hp) | hp) | hp) | hp
  · exact hname
  · exact reads_typeIn h
  · exact hunsigned part hp
  · exact hword part hp
  · exact hnull part hp
  · exact hdefault part hp

/-- A contained declaration is an entry of its table. -/
theorem Declaration.isEntry_clause (h : c.Contained) : IsEntry (c.clause d.rules) where
  reads := Reads.intercalate (reads_ofList rfl) (reads_parts h)
  begins := by
    have hname : Begins c.name.content := Identifier.begins_of_accepts h.named
    unfold Declaration.clause Declaration.parts
    simp only [List.cons_append, List.nil_append, String.intercalate_cons_cons, String.append_assoc]
    exact hname.append _

/-- The beginning of a constraint, up to the parenthesis that it opens. -/
theorem Declaration.reads_constraint (h : c.Contained) (ht : Plain table) {kind words : String}
    (hk : Plain kind) {t : Scan} (hw : Reads {} words t) :
    Reads {} ("CONSTRAINT " ++ c.constraintName kind table ++ words) t := by
  have hname : Plain (c.constraintName kind table) :=
    (((hk.append (plain_ofList rfl)).append ht).append (plain_ofList rfl)).append
      (Text.plain_display h.named)
  have hconstraint : Reads {} "CONSTRAINT " {} := reads_ofList rfl
  exact (hconstraint.append (reads_of_plain hname 0)).append hw

theorem Declaration.reads_name (h : c.Contained) : Reads Scan.inner c.name.display Scan.inner :=
  reads_of_plain (Text.plain_display h.named) 1

theorem Declaration.begins_constraint (rest : String) : Begins ("CONSTRAINT " ++ rest) :=
  Begins.append ⟨'C', _, rfl, by decide⟩ rest

/-- A constraint on the column alone, by its kind and the words before the column. -/
theorem Declaration.isEntry_constraint (h : c.Contained) (ht : Plain table) {kind words : String}
    (hk : Plain kind) (hw : Reads {} words Scan.inner) :
    IsEntry ("CONSTRAINT " ++ c.constraintName kind table ++ words ++ c.name.display ++ ")") where
  reads := (reads_constraint h ht hk hw).paren (reads_name h)
  begins := by
    simp only [String.append_assoc]
    exact begins_constraint _

theorem Declaration.isEntry_primaryKeyClause (h : c.Contained) (ht : Plain table) :
    IsEntry (c.primaryKeyClause table) :=
  isEntry_constraint h ht (plain_ofList rfl) (reads_ofList rfl)

theorem Declaration.isEntry_uniqueClause (h : c.Contained) (ht : Plain table) :
    IsEntry (c.uniqueClause table) :=
  isEntry_constraint h ht (plain_ofList rfl) (reads_ofList rfl)

/-- A balanced condition stays in the parentheses of its check. -/
theorem Declaration.isEntry_checkClause (h : c.Contained) (ht : Plain table) (position : Nat)
    {condition : String} (hc : Balanced condition.toList) :
    IsEntry (c.checkClause table position condition) where
  reads := by
    have hname : Reads {} ("CONSTRAINT " ++ c.constraintName "check" table ++ "_") {} :=
      reads_constraint h ht (plain_ofList rfl) (reads_ofList rfl)
    have hposition := hname.append (reads_of_plain (plain_natRepr position) 0)
    have hopen : Reads {} " CHECK (" Scan.inner := reads_ofList rfl
    exact (hposition.append hopen).paren (reads_of_balanced hc)
  begins := by
    unfold checkClause
    simp only [String.append_assoc]
    exact begins_constraint _

theorem Declaration.reads_actionClause {event : String} (he : Plain event)
    (a : Option ReferentialAction) : Reads {} (actionClause event a) {} := by
  cases a with
  | none => exact reads_empty {}
  | some a =>
    have hsql : Plain a.sql := by cases a <;> exact plain_ofList rfl
    have hon : Plain " ON " := plain_ofList rfl
    exact reads_of_plain (((hon.append he).append (plain_ofList rfl)).append hsql) 0

theorem Declaration.isEntry_foreignKeyClause (h : c.Contained) (ht : Plain table) {k : Referral}
    (hk : Plain k.table ∧ Plain k.column) : IsEntry (c.foreignKeyClause table k) where
  reads := by
    have hname : Reads {} ("CONSTRAINT " ++ c.constraintName "fk" table ++ " FOREIGN KEY ("
        ++ c.name.display) Scan.inner :=
      (reads_constraint h ht (plain_ofList rfl) (reads_ofList rfl)).append (reads_name h)
    have hclose : Reads Scan.inner ") REFERENCES " {} := reads_ofList rfl
    have htable := (hname.append hclose).append (reads_of_plain hk.1 0)
    have hopen : Reads {} "(" Scan.inner := reads_ofList rfl
    have hcolumn := (htable.append hopen).paren (reads_of_plain hk.2 1)
    have hdelete : Plain "DELETE" := plain_ofList rfl
    have hupdate : Plain "UPDATE" := plain_ofList rfl
    exact (hcolumn.append (reads_actionClause hdelete k.onDelete)).append
      (reads_actionClause hupdate k.onUpdate)
  begins := by
    unfold foreignKeyClause
    simp only [String.append_assoc]
    exact begins_constraint _

/-- The condition on the sign is balanced, like those that were asked for. -/
theorem Declaration.balanced_conditions (h : c.Contained) (r : Rules) :
    ∀ condition ∈ c.conditions r, Balanced condition.toList := by
  intro condition hc
  rcases List.mem_append.1 hc with hc | hc
  · exact h.checked condition hc
  · split at hc
    · rw [List.mem_singleton.1 hc]
      have hsign : Plain (c.name.display ++ " >= 0") :=
        (Text.plain_display h.named).append (plain_ofList rfl)
      exact balanced_of_inert hsign.isInert
    · cases hc

/-- **All constraints of a contained declaration are entries of its table.** -/
theorem Declaration.isEntry_constraints (h : c.Contained) (ht : Plain table) (r : Rules) :
    ∀ a ∈ c.constraints r table, IsEntry a := by
  intro a ha
  simp only [constraints, List.mem_append] at ha
  rcases ha with ((ha | ha) | ha) | ha
  · split at ha
    · rw [List.mem_singleton.1 ha]
      exact isEntry_primaryKeyClause h ht
    · cases ha
  · obtain ⟨k, hk, rfl⟩ := Option.map_eq_some_iff.1 (Option.mem_toList.1 ha)
    exact isEntry_foreignKeyClause h ht (h.referred k hk)
  · obtain ⟨i, hi, rfl⟩ := List.mem_mapIdx.1 ha
    exact isEntry_checkClause h ht i (balanced_conditions h r _ (List.getElem_mem hi))
  · split at ha
    · rw [List.mem_singleton.1 ha]
      exact isEntry_uniqueClause h ht
    · cases ha

end

/-! ## The statement of a table -/

/-- All items of a table's body are entries, if its declarations are contained. -/
theorem isEntry_bodyItems {table : String} (d : Dialect) {columns : List Declaration}
    (ht : Plain table) (h : ∀ c ∈ columns, c.Contained) :
    ∀ a ∈ bodyItems d.rules table columns, IsEntry a := by
  intro a ha
  rcases List.mem_append.1 ha with ha | ha
  · obtain ⟨c, hc, rfl⟩ := List.mem_map.1 ha
    exact Declaration.isEntry_clause (h c hc)
  · obtain ⟨c, hc, ha⟩ := List.mem_flatMap.1 ha
    exact Declaration.isEntry_constraints (h c hc) ht d.rules a ha

/-- **The parts of a `CREATE TABLE` are found again**: its body between the first parenthesis and the
one before the final semicolon, and the items of the body. -/
theorem parts?_createStatement {table : String} (d : Dialect) {columns : List Declaration}
    (ht : Plain table) (hne : columns ≠ []) (h : ∀ c ∈ columns, c.Contained) :
    ∃ body, Scan.parts? (createStatement d.rules table columns).toList =
        some (("CREATE TABLE " ++ table ++ " ").toList, body, [';']) ∧
      Scan.items body = (bodyItems d.rules table columns).map String.toList := by
  have hentries := isEntry_bodyItems d ht h
  have hitems : bodyItems d.rules table columns ≠ [] := by
    obtain ⟨c, rest, rfl⟩ := List.exists_cons_of_ne_nil hne
    exact List.cons_ne_nil _ _
  have hcreate : Plain "CREATE TABLE " := plain_ofList rfl
  have hhead : Plain ("CREATE TABLE " ++ table ++ " ") :=
    (hcreate.append ht).append (plain_ofList rfl)
  refine ⟨(", ".intercalate (bodyItems d.rules table columns)).toList, ?_,
    items_entries hitems hentries⟩
  have hlist : (createStatement d.rules table columns).toList =
      ("CREATE TABLE " ++ table ++ " ").toList ++ '(' ::
        ((", ".intercalate (bodyItems d.rules table columns)).toList ++ ')' :: [';']) := by
    unfold createStatement
    simp only [String.toList_append, List.append_assoc]
    rfl
  rw [hlist]
  exact Scan.parts?_append hhead.isInert (balanced_entries hentries) [';']

end TableDdl
