import Mathlib.Data.List.Forall2
import Mathlib.Data.List.Nodup
import TableDdl.Proofs.Column.Sketch
import TableDdl.Proofs.Table.Defect

/-!
# Names of constraints and indexes

Every constraint and every index of a table has a name, which is written from what it is for, the
table and the column. A `GeneratedName` keeps what a name is written from, so that names can be told
apart without looking at their text.

* `GeneratedName.Heads`: a clause or a statement that begins with its name and says what the name is
  for. `heads_constraintNames`, `heads_indexNames`: those of a column do, in order;
* `GeneratedName.text_injective`: in one table different names have different texts. The word for the
  purpose ends at the first underscore and the position of a check begins after the last one,
  whatever underscores and digits the table and the column have;
* `statements_name_distinct`: hence all names in the statements of a table are different.
-/

namespace TableDdl

/-! ## Names -/

/-- What a name is for; a check is one of the checks of its column. -/
inductive NamedPart where
  | primaryKey
  | foreignKey
  | check (position : Nat)
  | unique
  | index
  deriving DecidableEq, Repr

namespace NamedPart

/-- The word that a name begins with. -/
def word : NamedPart → String
  | .primaryKey => "pk"
  | .foreignKey => "fk"
  | .check _ => "check"
  | .unique => "unique"
  | .index => "index"

/-- What follows the column in a name. -/
def suffix : NamedPart → String
  | .check position => "_" ++ position.repr
  | _ => ""

/-- What comes before a name where it is given. -/
def before : NamedPart → String
  | .index => "CREATE INDEX "
  | _ => "CONSTRAINT "

/-- What comes after a name where it is given. -/
def after : NamedPart → String
  | .primaryKey => " PRIMARY KEY ("
  | .foreignKey => " FOREIGN KEY ("
  | .check _ => " CHECK ("
  | .unique => " UNIQUE ("
  | .index => " ON "

/-- Only checks share their word. -/
theorem eq_or_check_of_word {p q : NamedPart} (h : p.word = q.word) :
    p = q ∨ ∃ i j, p = .check i ∧ q = .check j := by
  cases p <;> cases q <;> simp_all [word]

theorem underscore_notMem_word (p : NamedPart) : '_' ∉ p.word.toList := by
  cases p <;> simp [word]

end NamedPart

/-- What the name of a constraint or an index is written from, the table apart. -/
structure GeneratedName where
  part : NamedPart
  column : String
  deriving DecidableEq, Repr

namespace GeneratedName

def text (table : String) (n : GeneratedName) : String :=
  n.part.word ++ "_" ++ table ++ "_" ++ n.column ++ n.part.suffix

/-- **The clause or the statement gives the name** to the part that the name is for. -/
def Heads (table : String) (n : GeneratedName) (clause : String) : Prop :=
  ∃ rest, clause = n.part.before ++ n.text table ++ n.part.after ++ rest

/-! ## Texts tell names apart -/

section
variable {α : Type} {x : α} {l m r s : List α}

/-- A list is divided in one way at the first place of an element. -/
theorem append_cons_inj_of_notMem_left (hl : x ∉ l) (hm : x ∉ m) (h : l ++ x :: r = m ++ x :: s) :
    l = m ∧ r = s := by
  induction l generalizing m with
  | nil =>
    cases m with
    | nil => simpa using h
    | cons b m =>
      obtain ⟨rfl, -⟩ := List.cons.inj h
      exact absurd List.mem_cons_self hm
  | cons a l ih =>
    cases m with
    | nil =>
      obtain ⟨rfl, -⟩ := List.cons.inj h
      exact absurd List.mem_cons_self hl
    | cons b m =>
      simp only [List.cons_append, List.cons.injEq, List.mem_cons, not_or] at h hl hm
      obtain ⟨rfl, hrest⟩ := h
      obtain ⟨rfl, rfl⟩ := ih hl.2 hm.2 hrest
      exact ⟨rfl, rfl⟩

/-- A list is divided in one way at the last place of an element. -/
theorem append_cons_inj_of_notMem_right (hr : x ∉ r) (hs : x ∉ s) (h : l ++ x :: r = m ++ x :: s) :
    l = m ∧ r = s := by
  have hreverse : r.reverse ++ x :: l.reverse = s.reverse ++ x :: m.reverse := by
    simpa using congrArg List.reverse h
  obtain ⟨hrs, hlm⟩ := append_cons_inj_of_notMem_left (by simpa using hr) (by simpa using hs) hreverse
  exact ⟨List.reverse_injective hlm, List.reverse_injective hrs⟩

end

theorem underscore_notMem_repr (i : Nat) : '_' ∉ i.repr.toList := by
  intro h
  rw [Nat.toList_repr] at h
  have hdigit : '_'.isDigit = true := Nat.isDigit_of_mem_toDigits (by decide) (by decide) h
  exact absurd hdigit (by decide)

theorem repr_injective {i j : Nat} (h : i.repr = j.repr) : i = j := by
  have hdigits : Nat.toDigits 10 i = Nat.toDigits 10 j := by
    simpa only [Nat.toList_repr] using congrArg String.toList h
  simpa using congrArg (Nat.ofDigitChars 10 · 0) hdigits

theorem toList_text (table : String) (n : GeneratedName) : (n.text table).toList =
    n.part.word.toList ++ '_' :: (table.toList ++ '_' :: (n.column.toList ++ n.part.suffix.toList)) := by
  simp [text]

/-- The text of a name says what it is for, up to the position of a check. -/
theorem word_eq_of_text_eq {table : String} {n m : GeneratedName}
    (h : n.text table = m.text table) :
    n.part.word = m.part.word ∧ n.column ++ n.part.suffix = m.column ++ m.part.suffix := by
  have hlist := congrArg String.toList h
  rw [toList_text, toList_text] at hlist
  obtain ⟨hword, hrest⟩ := append_cons_inj_of_notMem_left n.part.underscore_notMem_word
    m.part.underscore_notMem_word hlist
  refine ⟨String.toList_injective hword, String.toList_injective ?_⟩
  simpa using hrest

/-- **In one table, names with the same text are the same.** -/
theorem text_injective (table : String) : Function.Injective (text table) := by
  rintro ⟨p, c⟩ ⟨q, d⟩ h
  obtain ⟨hword, hcolumn⟩ := word_eq_of_text_eq h
  rcases NamedPart.eq_or_check_of_word hword with rfl | ⟨i, j, rfl, rfl⟩
  · rw [String.append_left_inj] at hcolumn
    rw [show c = d from hcolumn]
  · have hlist : c.toList ++ '_' :: i.repr.toList = d.toList ++ '_' :: j.repr.toList := by
      simpa [NamedPart.suffix] using congrArg String.toList hcolumn
    obtain ⟨hc, hi⟩ := append_cons_inj_of_notMem_right (underscore_notMem_repr i)
      (underscore_notMem_repr j) hlist
    rw [String.toList_injective hc, repr_injective (String.toList_injective hi)]

end GeneratedName

/-! ## The names of a column -/

namespace Declaration

/-- What the constraints of a column are for, in the order in which they are written. -/
def constraintParts (c : Declaration) (r : Rules) : List NamedPart :=
  (if c.primaryKey then [.primaryKey] else [])
    ++ (c.referral.map fun _ => .foreignKey).toList
    ++ (c.conditions r).mapIdx (fun position _ => .check position)
    ++ (if c.unique then [.unique] else [])

def constraintNames (c : Declaration) (r : Rules) : List GeneratedName :=
  (c.constraintParts r).map (⟨·, c.name.display⟩)

def indexNames (c : Declaration) : List GeneratedName :=
  if c.index then [⟨.index, c.name.display⟩] else []

section
variable (c : Declaration) (r : Rules) (table : String)

/-! ### Clauses give their names -/

theorem heads_primaryKeyClause :
    GeneratedName.Heads table ⟨.primaryKey, c.name.display⟩ (c.primaryKeyClause table) := by
  refine ⟨c.name.display ++ ")", ?_⟩
  unfold primaryKeyClause constraintName GeneratedName.text
  simp only [NamedPart.before, NamedPart.word, NamedPart.suffix, NamedPart.after,
    String.append_empty, String.append_assoc]

theorem heads_foreignKeyClause (k : Referral) :
    GeneratedName.Heads table ⟨.foreignKey, c.name.display⟩ (c.foreignKeyClause table k) := by
  refine ⟨c.name.display ++ ") REFERENCES " ++ k.table ++ "(" ++ k.column ++ ")"
    ++ actionClause "DELETE" k.onDelete ++ actionClause "UPDATE" k.onUpdate, ?_⟩
  unfold foreignKeyClause constraintName GeneratedName.text
  simp only [NamedPart.before, NamedPart.word, NamedPart.suffix, NamedPart.after,
    String.append_empty, String.append_assoc]

theorem heads_checkClause (position : Nat) (condition : String) :
    GeneratedName.Heads table ⟨.check position, c.name.display⟩
      (c.checkClause table position condition) := by
  refine ⟨condition ++ ")", ?_⟩
  unfold checkClause constraintName GeneratedName.text
  simp only [NamedPart.before, NamedPart.word, NamedPart.suffix, NamedPart.after,
    String.append_assoc]

theorem heads_uniqueClause :
    GeneratedName.Heads table ⟨.unique, c.name.display⟩ (c.uniqueClause table) := by
  refine ⟨c.name.display ++ ")", ?_⟩
  unfold uniqueClause constraintName GeneratedName.text
  simp only [NamedPart.before, NamedPart.word, NamedPart.suffix, NamedPart.after,
    String.append_empty, String.append_assoc]

theorem heads_indexStatement :
    GeneratedName.Heads table ⟨.index, c.name.display⟩ (c.indexStatement table) := by
  refine ⟨table ++ "(" ++ c.name.display ++ ");", ?_⟩
  unfold indexStatement constraintName GeneratedName.text
  simp only [NamedPart.before, NamedPart.word, NamedPart.suffix, NamedPart.after,
    String.append_empty, String.append_assoc]

theorem forall₂_mapIdx {α β γ : Type} {R : β → γ → Prop} (l : List α) (f : Nat → α → β)
    (g : Nat → α → γ) (h : ∀ i a, R (f i a) (g i a)) : List.Forall₂ R (l.mapIdx f) (l.mapIdx g) := by
  induction l generalizing f g with
  | nil => exact .nil
  | cons a l ih =>
    rw [List.mapIdx_cons, List.mapIdx_cons]
    exact .cons (h 0 a) (ih _ _ fun i => h (i + 1))

/-- **The constraints of a column give its names**, in order. -/
theorem heads_constraintNames :
    List.Forall₂ (GeneratedName.Heads table) (c.constraintNames r) (c.constraints r table) := by
  rw [constraintNames, List.forall₂_map_left_iff]
  have hkey : List.Forall₂ (fun p => GeneratedName.Heads table ⟨p, c.name.display⟩)
      (if c.primaryKey then [.primaryKey] else [])
      (if c.primaryKey then [c.primaryKeyClause table] else []) := by
    split
    · exact .cons (c.heads_primaryKeyClause table) .nil
    · exact .nil
  have hreferral : List.Forall₂ (fun p => GeneratedName.Heads table ⟨p, c.name.display⟩)
      (c.referral.map fun _ => .foreignKey).toList
      (c.referral.map (c.foreignKeyClause table)).toList := by
    cases c.referral with
    | none => exact .nil
    | some k => exact .cons (c.heads_foreignKeyClause table k) .nil
  have hchecks : List.Forall₂ (fun p => GeneratedName.Heads table ⟨p, c.name.display⟩)
      ((c.conditions r).mapIdx fun position _ => .check position)
      ((c.conditions r).mapIdx (c.checkClause table)) :=
    forall₂_mapIdx _ _ _ (c.heads_checkClause table)
  have hunique : List.Forall₂ (fun p => GeneratedName.Heads table ⟨p, c.name.display⟩)
      (if c.unique then [.unique] else []) (if c.unique then [c.uniqueClause table] else []) := by
    split
    · exact .cons (c.heads_uniqueClause table) .nil
    · exact .nil
  exact List.rel_append (List.rel_append (List.rel_append hkey hreferral) hchecks) hunique

theorem heads_indexNames :
    List.Forall₂ (GeneratedName.Heads table) c.indexNames (c.indexes table) := by
  unfold indexNames indexes
  split
  · exact .cons (c.heads_indexStatement table) .nil
  · exact .nil

/-! ### Names of a column are different -/

/-- The checks of a column have different positions, and it has at most one part of each other kind. -/
theorem nodup_constraintParts : (c.constraintParts r).Nodup := by
  have hchecks : ((c.conditions r).mapIdx fun position _ => NamedPart.check position).Nodup :=
    List.pairwise_iff_getElem.2 fun i j hi hj hij => by simpa using Nat.ne_of_lt hij
  unfold constraintParts
  cases c.primaryKey <;> cases c.referral <;> cases c.unique <;>
    simp [List.nodup_append, List.mem_mapIdx, hchecks]

theorem index_notMem_constraintParts : NamedPart.index ∉ c.constraintParts r := by
  unfold constraintParts
  cases c.primaryKey <;> cases c.referral <;> cases c.unique <;> simp [List.mem_mapIdx]

variable {c r}

theorem column_of_mem_constraintNames {n : GeneratedName} (h : n ∈ c.constraintNames r) :
    n.column = c.name.display := by
  obtain ⟨p, -, rfl⟩ := List.mem_map.1 h
  rfl

theorem part_of_mem_constraintNames {n : GeneratedName} (h : n ∈ c.constraintNames r) :
    n.part ≠ .index := by
  obtain ⟨p, hp, rfl⟩ := List.mem_map.1 h
  exact fun hindex => c.index_notMem_constraintParts r (hindex ▸ hp)

theorem eq_of_mem_indexNames {n : GeneratedName} (h : n ∈ c.indexNames) :
    n = ⟨.index, c.name.display⟩ := by
  unfold indexNames at h
  split at h
  · exact List.mem_singleton.1 h
  · cases h

theorem nodup_constraintNames : (c.constraintNames r).Nodup :=
  (c.nodup_constraintParts r).map fun p q h => by simpa using h

theorem nodup_indexNames : c.indexNames.Nodup := by
  unfold indexNames
  split <;> simp

end

end Declaration

/-! ## The names of a table -/

/-- The names of all constraints and then of all indexes of a table. -/
def tableNames (r : Rules) (declared : List Declaration) : List GeneratedName :=
  declared.flatMap (·.constraintNames r) ++ declared.flatMap (·.indexNames)

section
variable {declared : List Declaration}

/-- Names of different columns are different. -/
theorem nodup_flatMap_names {f : Declaration → List GeneratedName}
    (hnodup : ∀ c, (f c).Nodup) (hcolumn : ∀ c, ∀ n ∈ f c, n.column = c.name.display)
    (hdistinct : (declared.map (·.name.display)).Nodup) : (declared.flatMap f).Nodup := by
  refine List.nodup_flatMap.2 ⟨fun c _ => hnodup c, (List.pairwise_map.1 hdistinct).imp ?_⟩
  intro c d hne n hc hd
  exact hne ((hcolumn c n hc).symm.trans (hcolumn d n hd))

/-- **The names of a table are different**, if those of its columns are. -/
theorem nodup_tableNames (r : Rules) (hdistinct : (declared.map (·.name.display)).Nodup) :
    (tableNames r declared).Nodup := by
  refine List.nodup_append.2 ⟨?_, ?_, ?_⟩
  · exact nodup_flatMap_names (fun _ => Declaration.nodup_constraintNames)
      (fun _ _ => Declaration.column_of_mem_constraintNames) hdistinct
  · refine nodup_flatMap_names (fun _ => Declaration.nodup_indexNames) ?_ hdistinct
    intro c n hn
    rw [Declaration.eq_of_mem_indexNames hn]
  · rintro n hn m hm rfl
    obtain ⟨c, -, hc⟩ := List.mem_flatMap.1 hn
    obtain ⟨d, -, hd⟩ := List.mem_flatMap.1 hm
    exact Declaration.part_of_mem_constraintNames hc (by rw [Declaration.eq_of_mem_indexNames hd])

theorem exists_column_of_mem_tableNames {r : Rules} {n : GeneratedName}
    (h : n ∈ tableNames r declared) : ∃ c ∈ declared, n.column = c.name.display := by
  rcases List.mem_append.1 h with h | h
  · obtain ⟨c, hc, hn⟩ := List.mem_flatMap.1 h
    exact ⟨c, hc, Declaration.column_of_mem_constraintNames hn⟩
  · obtain ⟨c, hc, hn⟩ := List.mem_flatMap.1 h
    exact ⟨c, hc, by rw [Declaration.eq_of_mem_indexNames hn]⟩

theorem heads_flatMap (table : String) {f : Declaration → List GeneratedName}
    {g : Declaration → List String}
    (h : ∀ c, List.Forall₂ (GeneratedName.Heads table) (f c) (g c)) (declared : List Declaration) :
    List.Forall₂ (GeneratedName.Heads table) (declared.flatMap f) (declared.flatMap g) := by
  induction declared with
  | nil => exact .nil
  | cons c declared ih => exact List.rel_append (h c) ih

end

/-! ## The names in the statements -/

/-- A declared column keeps its name. -/
theorem Snapshot.name_of_declare {s : Snapshot} {c : Declaration} (h : s.declare = .ok c) :
    s.name = c.name.toValue := by
  unfold declare at h
  split at h
  · cases h
  · cases h
  · rename_i name type hname htype
    obtain ⟨hvalue, -⟩ := Value.fullText?_eq_some_iff.1 hname
    simp only at h
    split at h
    · cases h
    · obtain ⟨default, -, h⟩ := bind_eq_ok h
      obtain ⟨referral, -, h⟩ := bind_eq_ok h
      obtain ⟨checks, -, h⟩ := bind_eq_ok h
      cases h
      exact hvalue

/-- The statements of a table are those of its columns, which can all be declared. -/
theorem exists_declared_of_statements {t : TableDefinition} {d : Dialect} {out : List String}
    (hd : t.dialect = .dialect d) (h : t.statements = .ok out) :
    ∃ declared, t.columns.mapM Snapshot.declare = .ok declared ∧
      out = statementsFor d.rules t.name.display declared := by
  rw [TableDefinition.statements_of_display? hd (display?_of_statements h),
    TableDefinition.declarations] at h
  split at h
  · rename_i declared hdeclared
    cases h
    exact ⟨declared, hdeclared, rfl⟩
  · cases h

theorem name_of_mapM_declare {columns : List Snapshot} {declared : List Declaration}
    (h : columns.mapM Snapshot.declare = .ok declared) :
    columns.map (·.name) = declared.map (·.name.toValue) := by
  induction columns generalizing declared with
  | nil => cases h; rfl
  | cons s columns ih =>
    rw [List.mapM_cons] at h
    obtain ⟨c, hc, h⟩ := bind_eq_ok h
    obtain ⟨rest, hrest, h⟩ := bind_eq_ok h
    cases h
    rw [List.map_cons, List.map_cons, ih hrest, Snapshot.name_of_declare hc]

theorem display_of_mapM_declare {columns : List Snapshot} {declared : List Declaration}
    {names : List String} (h : columns.mapM Snapshot.declare = .ok declared)
    (hnames : columns.map (·.name) = names.map Value.str) :
    declared.map (·.name.display) = names := by
  have hdisplay := congrArg (List.map Value.display) ((name_of_mapM_declare h).symm.trans hnames)
  simp only [List.map_map, Function.comp_def, Value.display_toValue] at hdisplay
  exact hdisplay.trans (List.map_id names)

/-- **The names in the statements of a table.** The statements are those of the declared columns. Their
constraint clauses, which all stand in the `CREATE TABLE`, and the statements after it give the names
of the columns, in order. -/
structure GivesNames (d : Dialect) (table : String) (columns : List Snapshot) (out : List String)
    (declared : List Declaration) : Prop where
  declare : columns.mapM Snapshot.declare = .ok declared
  statements : out = statementsFor d.rules table declared
  constraints : List.Forall₂ (GeneratedName.Heads table)
    (declared.flatMap (·.constraintNames d.rules)) (declared.flatMap (·.constraints d.rules table))
  indexes : List.Forall₂ (GeneratedName.Heads table)
    (declared.flatMap (·.indexNames)) (declared.flatMap (·.indexes table))

theorem exists_givesNames {generator table : String} {d : Dialect} {columns : List Snapshot}
    {out : List String}
    (hout : (TableDefinition.mk generator (.str table) (.dialect d) columns).statements = .ok out) :
    ∃ declared, GivesNames d table columns out declared := by
  obtain ⟨declared, hdeclared, rfl⟩ := exists_declared_of_statements rfl hout
  exact ⟨declared, hdeclared, rfl,
    heads_flatMap table (fun c => c.heads_constraintNames d.rules table) declared,
    heads_flatMap table (fun c => c.heads_indexNames table) declared⟩

/-- **All names in the statements of a table are different**, where the names of its columns are: no
two constraints or indexes have the same text as their name. -/
theorem statements_name_distinct (generator table : String) (d : Dialect) (columns : List Snapshot)
    (names out : List String) (hnames : columns.map (·.name) = names.map Value.str)
    (hdistinct : names.Nodup)
    (hout : (TableDefinition.mk generator (.str table) (.dialect d) columns).statements = .ok out) :
    ∃ declared, GivesNames d table columns out declared ∧
      ((tableNames d.rules declared).map (GeneratedName.text table)).Nodup := by
  obtain ⟨declared, hgives⟩ := exists_givesNames hout
  refine ⟨declared, hgives, ?_⟩
  rw [List.nodup_map_iff (GeneratedName.text_injective table)]
  exact nodup_tableNames d.rules (by rwa [display_of_mapM_declare hgives.declare hnames])

/-- A column whose name continues that of another one like the position of a check would. -/
def numberedColumns : List Snapshot :=
  let positive : ConstraintSet := { unsigned := .bool true, checks := some [.str "true"] }
  [⟨.str "a", .str "INT", { positive with primaryKey := .bool true, index := .bool true }⟩,
    ⟨.str "a_0", .str "INT", { positive with unique := .bool true, index := .bool true }⟩]

theorem statements_name_distinct_numberedColumns :
    numberedColumns.map (·.name) = ["a", "a_0"].map Value.str ∧ ["a", "a_0"].Nodup ∧
      ∃ out declared,
        (TableDefinition.mk "Shops" (.str "t_a") (.dialect .sqlite) numberedColumns).statements =
          .ok out ∧
        GivesNames .sqlite "t_a" numberedColumns out declared ∧
        (tableNames Dialect.sqlite.rules declared).map (GeneratedName.text "t_a") =
          ["pk_t_a_a", "check_t_a_a_0", "check_t_a_a_1", "check_t_a_a_0_0", "check_t_a_a_0_1",
            "unique_t_a_a_0", "index_t_a_a", "index_t_a_a_0"] ∧
        ["pk_t_a_a", "check_t_a_a_0", "check_t_a_a_1", "check_t_a_a_0_0", "check_t_a_a_0_1",
            "unique_t_a_a_0", "index_t_a_a", "index_t_a_a_0"].Nodup := by
  have hdistinct : ["a", "a_0"].Nodup := by decide
  obtain ⟨declared, hgives, hnodup⟩ := statements_name_distinct "Shops" "t_a" .sqlite
    numberedColumns ["a", "a_0"] _ rfl hdistinct rfl
  cases hgives.declare
  exact ⟨rfl, hdistinct, _, _, rfl, hgives, rfl, hnodup⟩

end TableDdl
