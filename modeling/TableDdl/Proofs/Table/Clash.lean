import TableDdl.Identifier
import TableDdl.Proofs.Table.Name
import TableDdl.Proofs.Table.Portable

/-!
# Names of different tables

A database can scope the names of indexes and foreign keys to more than one table. Since a name joins
its table and its column with an underscore, and both may have underscores, the border between them
is not seen in it.

* `GeneratedName.text_eq_iff`: names of one kind are the same iff the table and the column are, or
  words have been moved over the border (`WordsMoved`);
* `names_clash`: two columns of different tables that have their index and their foreign key named
  alike;
* `names_eq_iff_wordsMoved`: in the statements of two tables nothing else leads to the same name.
-/

namespace TableDdl

/-! ## Words of an identifier -/

namespace Identifier

theorem continues_of_append {gap : Bool} {w r : List Char}
    (h : continues gap (w ++ '_' :: r) = true) : continues gap w = true := by
  induction w generalizing gap with
  | nil =>
    have hgap : (!gap && continues true r) = true := by simpa [continues] using h
    exact (Bool.and_eq_true_iff.1 hgap).1
  | cons c w ih =>
    -- The line break at the end is no part of what comes before an underscore.
    have hend : ¬(c = '\n' ∧ w ++ '_' :: r = []) := by simp
    rw [List.cons_append, continues, if_neg hend] at h
    unfold continues
    by_cases hu : c = '_'
    · subst hu
      simp only [if_true, Bool.and_eq_true] at h
      simp [h.1, ih h.2]
    · rw [if_neg hu, Bool.and_eq_true] at h
      have hnewline : c ≠ '\n' := fun hc => by
        rw [hc, isWordChar_newline] at h
        exact absurd h.1 Bool.false_ne_true
      simp [hu, hnewline, h.1, ih h.2]

/-- What comes before an underscore in an identifier is an identifier. -/
theorem accepts_of_append {w r : List Char} (h : accepts (w ++ '_' :: r) = true) :
    accepts w = true := by
  cases w with
  | nil => simp [accepts, isLetter_underscore] at h
  | cons c w =>
    obtain ⟨hletter, hrest⟩ := Bool.and_eq_true_iff.1 (show (_ && _) = true from h)
    exact Bool.and_eq_true_iff.2 ⟨hletter, continues_of_append hrest⟩

end Identifier

/-! ## Where a table ends and its column begins -/

/-- **Words have been moved over the border**: the column of the first pair begins with words that
are at the end of the table of the second one. -/
def WordsMoved (first second : String × String) : Prop :=
  ∃ words : String, (Value.str words).isIdentifier = true ∧
    second.1 = first.1 ++ "_" ++ words ∧ first.2 = words ++ "_" ++ second.2

theorem joined_eq_of_wordsMoved {first second : String × String} (h : WordsMoved first second) :
    first.1 ++ "_" ++ first.2 = second.1 ++ "_" ++ second.2 := by
  obtain ⟨words, -, hsecond, hfirst⟩ := h
  rw [hsecond, hfirst]
  simp only [String.append_assoc]

/-- If the first of two tables is the shorter one, words have been moved from its column. -/
theorem wordsMoved_of_toList_eq {table table' column column' : String} {rest : List Char}
    (hcolumn : (Value.str column).isIdentifier = true)
    (htable : table'.toList = table.toList ++ rest)
    (h : '_' :: column.toList = rest ++ '_' :: column'.toList) :
    (table, column) = (table', column') ∨ WordsMoved (table, column) (table', column') := by
  cases rest with
  | nil =>
    left
    rw [List.append_nil] at htable
    rw [String.toList_injective htable, String.toList_injective (List.cons.inj h).2]
  | cons c words =>
    right
    obtain ⟨rfl, hwords⟩ := List.cons.inj h
    refine ⟨String.ofList words, ?_, ?_, ?_⟩
    · have haccepts : Identifier.accepts column.toList = true :=
        (Value.isIdentifier_toValue (.plain column)).symm.trans hcolumn
      have hwords' : Identifier.accepts (String.ofList words).toList = true := by
        rw [hwords] at haccepts
        rw [String.toList_ofList]
        exact Identifier.accepts_of_append haccepts
      exact (Value.isIdentifier_toValue (.plain _)).trans hwords'
    · apply String.toList_injective
      simp [htable]
    · apply String.toList_injective
      simp [hwords]

/-- **A table and a column are seen in their joined text up to words that have been moved.** -/
theorem joined_eq_iff {table table' column column' : String}
    (hcolumn : (Value.str column).isIdentifier = true)
    (hcolumn' : (Value.str column').isIdentifier = true) :
    table ++ "_" ++ column = table' ++ "_" ++ column' ↔
      (table, column) = (table', column') ∨ WordsMoved (table, column) (table', column') ∨
        WordsMoved (table', column') (table, column) := by
  constructor
  · intro h
    have hlist : table.toList ++ '_' :: column.toList = table'.toList ++ '_' :: column'.toList := by
      simpa using congrArg String.toList h
    rcases List.append_eq_append_iff.1 hlist with ⟨rest, htable, hrest⟩ | ⟨rest, htable, hrest⟩
    · rcases wordsMoved_of_toList_eq hcolumn htable hrest with heq | hmoved
      · exact .inl heq
      · exact .inr (.inl hmoved)
    · rcases wordsMoved_of_toList_eq hcolumn' htable hrest with heq | hmoved
      · exact .inl heq.symm
      · exact .inr (.inr hmoved)
  · rintro (heq | hmoved | hmoved)
    · cases heq
      rfl
    · exact joined_eq_of_wordsMoved hmoved
    · exact (joined_eq_of_wordsMoved hmoved).symm

/-! ## Names that are the same -/

/-- **Names of one kind are the same up to words that have been moved**, unless they are numbered. -/
theorem GeneratedName.text_eq_iff {part : NamedPart} (hpart : part.suffix = "")
    {table table' column column' : String} (hcolumn : (Value.str column).isIdentifier = true)
    (hcolumn' : (Value.str column').isIdentifier = true) :
    text table ⟨part, column⟩ = text table' ⟨part, column'⟩ ↔
      (table, column) = (table', column') ∨ WordsMoved (table, column) (table', column') ∨
        WordsMoved (table', column') (table, column) := by
  have hjoined (t c : String) : text t ⟨part, c⟩ = part.word ++ "_" ++ (t ++ "_" ++ c) := by
    simp only [text, hpart, String.append_assoc, String.append_empty]
  rw [hjoined, hjoined, String.append_right_inj, joined_eq_iff hcolumn hcolumn']

/-- A column with an identifier as its name. -/
def Snapshot.Identified (s : Snapshot) : Prop :=
  ∃ name, s.name = .str name ∧ (Value.str name).isIdentifier = true

/-- The names of a table are about its columns. -/
theorem GivesNames.isIdentifier_column {d : Dialect} {table : String} {columns : List Snapshot}
    {out : List String} {declared : List Declaration} (h : GivesNames d table columns out declared)
    (hcolumns : ∀ s ∈ columns, s.Identified) {n : GeneratedName}
    (hn : n ∈ tableNames d.rules declared) : (Value.str n.column).isIdentifier = true := by
  obtain ⟨c, hc, hcolumn⟩ := exists_column_of_mem_tableNames hn
  have hmem : c.name.toValue ∈ columns.map (·.name) := by
    rw [name_of_mapM_declare h.declare]
    exact List.mem_map_of_mem hc
  obtain ⟨s, hs, hvalue⟩ := List.mem_map.1 hmem
  obtain ⟨name, hname, hidentifier⟩ := hcolumns s hs
  rw [hcolumn, ← Value.display_toValue, ← hvalue, hname]
  exact hidentifier

/-- **When statements of two tables name an index or a foreign key alike**: only if it is for the same
column of the same table, or if words of a column in one of the tables are words of the table in the
other. -/
theorem names_eq_iff_wordsMoved (generator generator' table table' : String) (d d' : Dialect)
    (columns columns' : List Snapshot) (out out' : List String)
    (hcolumns : ∀ s ∈ columns, s.Identified) (hcolumns' : ∀ s ∈ columns', s.Identified)
    (hout : (TableDefinition.mk generator (.str table) (.dialect d) columns).statements = .ok out)
    (hout' : (TableDefinition.mk generator' (.str table') (.dialect d') columns').statements =
      .ok out') :
    ∃ declared declared',
      GivesNames d table columns out declared ∧ GivesNames d' table' columns' out' declared' ∧
      ∀ part ∈ [NamedPart.foreignKey, .index], ∀ column column',
        ⟨part, column⟩ ∈ tableNames d.rules declared →
        ⟨part, column'⟩ ∈ tableNames d'.rules declared' →
        (GeneratedName.text table ⟨part, column⟩ = GeneratedName.text table' ⟨part, column'⟩ ↔
          (table, column) = (table', column') ∨ WordsMoved (table, column) (table', column') ∨
            WordsMoved (table', column') (table, column)) := by
  obtain ⟨declared, hgives⟩ := exists_givesNames hout
  obtain ⟨declared', hgives'⟩ := exists_givesNames hout'
  refine ⟨declared, declared', hgives, hgives', fun part hpart column column' hn hn' => ?_⟩
  have hsuffix : part.suffix = "" := by
    simp only [List.mem_cons, List.not_mem_nil, or_false] at hpart
    rcases hpart with rfl | rfl <;> rfl
  have hcolumn := hgives.isIdentifier_column hcolumns hn
  have hcolumn' := hgives'.isIdentifier_column hcolumns' hn'
  exact GeneratedName.text_eq_iff hsuffix hcolumn hcolumn'

/-- A column with an index and nothing else. -/
def indexedColumn (name : String) : Snapshot := ⟨.str name, .str "INT", { index := .bool true }⟩

/-- Of two columns one is named like a column of another table, and the other is not. -/
theorem names_eq_iff_wordsMoved_indexedColumn :
    (∀ s ∈ [indexedColumn "order_id", indexedColumn "item_id"], s.Identified) ∧
      (∀ s ∈ [indexedColumn "id"], s.Identified) ∧
      ∃ out out',
        (TableDefinition.mk "Shops" (.str "shop") (.dialect .sqlite)
          [indexedColumn "order_id", indexedColumn "item_id"]).statements = .ok out ∧
        (TableDefinition.mk "Shops" (.str "shop_order") (.dialect .sqlite)
          [indexedColumn "id"]).statements = .ok out' ∧
        GeneratedName.text "shop" ⟨.index, "order_id"⟩ =
          GeneratedName.text "shop_order" ⟨.index, "id"⟩ ∧
        GeneratedName.text "shop" ⟨.index, "item_id"⟩ ≠
          GeneratedName.text "shop_order" ⟨.index, "id"⟩ := by
  have hcolumns : ∀ s ∈ [indexedColumn "order_id", indexedColumn "item_id"], s.Identified :=
    List.forall_mem_cons.2 ⟨⟨_, rfl, by decide⟩, by simpa using ⟨_, rfl, by decide⟩⟩
  have hcolumns' : ∀ s ∈ [indexedColumn "id"], s.Identified := by simpa using ⟨_, rfl, by decide⟩
  obtain ⟨declared, declared', hgives, hgives', hiff⟩ := names_eq_iff_wordsMoved "Shops" "Shops"
    "shop" "shop_order" .sqlite .sqlite _ _ _ _ hcolumns hcolumns' rfl rfl
  cases hgives.declare
  cases hgives'.declare
  refine ⟨hcolumns, hcolumns', _, _, rfl, rfl, ?_, ?_⟩
  · refine (hiff .index (by decide) "order_id" "id" (by decide) (by decide)).2 (.inr (.inl ?_))
    exact ⟨"order", by decide, by decide, by decide⟩
  · intro h
    have hcases := (hiff .index (by decide) "item_id" "id" (by decide) (by decide)).1 h
    rcases hcases with heq | hmoved | hmoved
    · exact absurd heq (by decide)
    · obtain ⟨words, -, htable, hcolumn⟩ := hmoved
      have hwords : words.toList = "order".toList := by
        simpa [eq_comm] using congrArg String.toList htable
      have hitem := congrArg String.toList hcolumn
      simp [hwords] at hitem
    · obtain ⟨words, -, htable, -⟩ := hmoved
      have hshop := congrArg String.toList htable
      simp at hshop

/-- **Names of different tables clash.** The index and the foreign key of `order_id` in `shop` are
named like those of `id` in `shop_order`. -/
theorem names_clash :
    let calls := [("fk", []), ("ref", [.str "orders", .str "id"]), ("index", [])]
    (∀ name ∈ ["shop", "order_id", "shop_order", "id"], (Value.str name).isIdentifier = true) ∧
      ("shop", "order_id") ≠ ("shop_order", "id") ∧
      Program.statements "Shops" "shop" .postgresql [⟨"order_id", calls⟩] = .ok [
        "CREATE TABLE shop (order_id BIGINT, CONSTRAINT fk_shop_order_id FOREIGN KEY (order_id) " ++
          "REFERENCES orders(id), CONSTRAINT check_shop_order_id_0 CHECK (order_id >= 0));",
        "CREATE INDEX index_shop_order_id ON shop(order_id);"] ∧
      Program.statements "Shops" "shop_order" .postgresql [⟨"id", calls⟩] = .ok [
        "CREATE TABLE shop_order (id BIGINT, CONSTRAINT fk_shop_order_id FOREIGN KEY (id) " ++
          "REFERENCES orders(id), CONSTRAINT check_shop_order_id_0 CHECK (id >= 0));",
        "CREATE INDEX index_shop_order_id ON shop_order(id);"] := by
  refine ⟨by decide, by decide, ?_, ?_⟩
  · refine Eq.trans (b := .ok _) rfl (congrArg Except.ok ?_)
    decide +kernel
  · refine Eq.trans (b := .ok _) rfl (congrArg Except.ok ?_)
    decide +kernel

end TableDdl
