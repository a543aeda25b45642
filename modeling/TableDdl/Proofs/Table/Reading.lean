import TableDdl.Table.Scan

/-!
# Reading statements part by part

How the parts of a statement are found again by a reader of SQL, and how it is seen of a text that
is put together from pieces that the reader takes it for one item.

* `Scan.parts?` takes a statement apart at the first parenthesis that opens outside quotes and at
  the one that closes it. `parts?_append`: a plain text before the parentheses and an item list
  between them are found again.
* `Reads s a t`: the reader comes from `s` to `t` by the text `a` and meets no comma outside quotes
  and parentheses. These facts are composed piece by piece (`Reads.append`, `Reads.intercalate`,
  `Reads.paren`), and `reads_iff_isItem` says that a text that leads from the start back to the start
  is an item.
* The pieces: plain texts (`reads_of_plain`), string literals (`reads_quote`), and in parentheses
  every balanced text (`reads_of_balanced`).
-/

namespace TableDdl

namespace Scan

/-! ## The parts of a statement -/

/-- The text before the first parenthesis that opens outside quotes, and the text after it. -/
def open? (s : Scan) : List Char → Option (List Char × List Char)
  | [] => none
  | c :: cs =>
    if c = '(' ∧ s.quoted = false then some ([], cs)
    else (s.next? c).bind fun t => (t.open? cs).map fun r => (c :: r.1, r.2)

/-- The text before the first parenthesis that closes what is not opened in it, and the text after
it. -/
def close? (s : Scan) : List Char → Option (List Char × List Char)
  | [] => none
  | c :: cs =>
    if c = ')' ∧ s = {} then some ([], cs)
    else (s.next? c).bind fun t => (t.close? cs).map fun r => (c :: r.1, r.2)

/-- **The parts of a statement**: what comes before its parentheses, between them and after them.
There are none if a semicolon outside quotes comes first. -/
def parts? (cs : List Char) : Option (List Char × List Char × List Char) :=
  (open? {} cs).bind fun r => (close? {} r.2).map fun q => (r.1, q.1, q.2)

theorem open?_append {head : List Char} (h : ∀ c ∈ head, isInert c = true) (rest : List Char) :
    open? {} (head ++ '(' :: rest) = some (head, rest) := by
  induction head with
  | nil => rfl
  | cons c cs ih =>
    have hc := h c List.mem_cons_self
    simp only [isInert, Bool.and_eq_true, bne_iff_ne] at hc
    have hopen : ¬(c = '(' ∧ (({} : Scan).quoted = false)) := fun hp => hc.1.1.2 hp.1
    have hnext : next? {} c = some {} := by simp [next?, hc]
    rw [List.cons_append, open?, if_neg hopen, hnext, Option.bind_some,
      ih fun d hd => h d (List.mem_cons_of_mem _ hd)]
    rfl

theorem close?_append {s : Scan} {body : List Char} (h : s.after? body = some {})
    (rest : List Char) : s.close? (body ++ ')' :: rest) = some (body, rest) := by
  induction body generalizing s with
  | nil =>
    cases h
    rfl
  | cons c cs ih =>
    obtain ⟨t, hnext, h⟩ := Option.bind_eq_some_iff.1 h
    have hclose : ¬(c = ')' ∧ s = {}) := by
      rintro ⟨rfl, rfl⟩
      cases hnext
    rw [List.cons_append, close?, if_neg hclose, hnext, Option.bind_some, ih h]
    rfl

/-- **Parts are found again.** -/
theorem parts?_append {head body : List Char} (hh : ∀ c ∈ head, isInert c = true)
    (hb : Balanced body) (tail : List Char) :
    parts? (head ++ '(' :: (body ++ ')' :: tail)) = some (head, body, tail) := by
  unfold parts?
  rw [open?_append hh, Option.bind_some, close?_append hb]
  rfl

end Scan

/-! ## Reading pieces -/

/-- One more character of an item, which no comma ends. -/
def Scan.step? (s : Scan) (c : Char) : Option Scan := if c = ',' ∧ s = {} then none else s.next? c

/-- **The text `a` takes the reader from `s` to `t`** within one item. -/
def Reads (s : Scan) (a : String) (t : Scan) : Prop := a.toList.foldlM Scan.step? s = some t

/-- Where the reader stands in the parentheses of a piece. -/
def Scan.inner : Scan := ⟨false, 1⟩

theorem Scan.endsItem_iff {s : Scan} {cs : List Char} :
    s.endsItem cs = true ↔ cs.foldlM Scan.step? s = some {} := by
  induction cs generalizing s with
  | nil => simp [Scan.endsItem]
  | cons c cs ih =>
    rw [List.foldlM_cons, Scan.endsItem, Scan.step?]
    by_cases hc : c = ',' ∧ s = {}
    · rw [if_pos hc]
      simp [hc.1, hc.2]
    · have hb : (c == ',' && s == {}) = false := by simpa using hc
      rw [if_neg hc, hb]
      cases s.next? c with
      | none => simp
      | some t => simpa using ih

/-- A text that leads the reader from the start back to the start is an item. -/
theorem reads_iff_isItem {a : String} : Reads {} a {} ↔ Scan.isItem a.toList = true :=
  Scan.endsItem_iff.symm

/-- A text that is written out is read character by character. -/
theorem reads_ofList {s t : Scan} {cs : List Char} (h : cs.foldlM Scan.step? s = some t) :
    Reads s (String.ofList cs) t := by
  unfold Reads
  rwa [String.toList_ofList]

theorem Reads.append {s t u : Scan} {a b : String} (ha : Reads s a t) (hb : Reads t b u) :
    Reads s (a ++ b) u := by
  unfold Reads at *
  rw [String.toList_append, List.foldlM_append, ha]
  exact hb

theorem reads_empty (s : Scan) : Reads s "" s := rfl

/-- Pieces that keep the reader where it is can be joined by a separator that does so too. -/
theorem Reads.intercalate {s : Scan} {separator : String} (hs : Reads s separator s)
    {pieces : List String} (h : ∀ a ∈ pieces, Reads s a s) :
    Reads s (separator.intercalate pieces) s := by
  induction pieces with
  | nil => exact reads_empty s
  | cons a rest ih =>
    have ha := h a List.mem_cons_self
    have hrest := ih fun b hb => h b (List.mem_cons_of_mem _ hb)
    cases rest with
    | nil => simpa using ha
    | cons b rest =>
      rw [String.intercalate_cons_cons]
      exact (ha.append hs).append hrest

/-- A text in parentheses, after a piece that opens them. -/
theorem Reads.paren {first a : String} (hf : Reads {} first Scan.inner)
    (ha : Reads Scan.inner a Scan.inner) : Reads {} (first ++ a ++ ")") {} :=
  (hf.append ha).append (reads_ofList rfl)

/-! ## The pieces -/

/-- A character that means nothing to the reader of a list. -/
def isPlain (c : Char) : Bool := isInert c && c != ','

/-- A class of characters is plain if it has none of the special ones. -/
theorem isPlain_of_class {p : Char → Bool}
    (hp : ['\'', '(', ')', ';', ','].any p = false) {c : Char} (h : p c = true) :
    isPlain c = true := by
  have hne : ∀ special ∈ ['\'', '(', ')', ';', ','], c ≠ special := by
    rintro special hs rfl
    exact List.any_eq_false.1 hp c hs h
  simp only [List.forall_mem_cons] at hne
  obtain ⟨hquote, hopen, hclose, hsemicolon, hcomma, -⟩ := hne
  simp [isPlain, isInert, hquote, hopen, hclose, hsemicolon, hcomma]

/-- A text in which no character means anything to the reader. -/
def Plain (a : String) : Prop := ∀ c ∈ a.toList, isPlain c = true

/-- A text that is written out is looked at character by character. -/
theorem plain_ofList {cs : List Char} (h : cs.all isPlain = true) : Plain (String.ofList cs) := by
  unfold Plain
  rw [String.toList_ofList]
  exact List.all_eq_true.1 h

theorem Plain.append {a b : String} (ha : Plain a) (hb : Plain b) : Plain (a ++ b) := by
  intro c hc
  rw [String.toList_append] at hc
  rcases List.mem_append.1 hc with hc | hc
  · exact ha c hc
  · exact hb c hc

theorem Plain.isInert {a : String} (h : Plain a) : ∀ c ∈ a.toList, isInert c = true := by
  intro c hc
  have hp := h c hc
  rw [isPlain, Bool.and_eq_true] at hp
  exact hp.1

theorem Scan.step?_of_isPlain {c : Char} (h : isPlain c = true) (n : Nat) :
    Scan.step? ⟨false, n⟩ c = some ⟨false, n⟩ := by
  simp only [isPlain, TableDdl.isInert, Bool.and_eq_true, bne_iff_ne] at h
  simp [Scan.step?, Scan.next?, h]

/-- A plain text keeps the reader at its level. -/
theorem reads_of_plain {a : String} (h : Plain a) (n : Nat) : Reads ⟨false, n⟩ a ⟨false, n⟩ := by
  unfold Reads Plain at *
  generalize a.toList = cs at h ⊢
  induction cs with
  | nil => rfl
  | cons c cs ih =>
    rw [List.foldlM_cons, Scan.step?_of_isPlain (h c List.mem_cons_self)]
    exact ih fun d hd => h d (List.mem_cons_of_mem _ hd)

/-- Where a parenthesis is open, no comma ends an item. -/
theorem Scan.step?_deeper {s t : Scan} {c : Char} (h : s.next? c = some t) :
    (s.deeper 1).step? c = some (t.deeper 1) := by
  have hdeep : ¬(c = ',' ∧ s.deeper 1 = {}) := by
    rintro ⟨-, hs⟩
    exact absurd (congrArg Scan.depth hs) (Nat.succ_ne_zero _)
  rw [Scan.step?, if_neg hdeep]
  exact Scan.next?_deeper h 1

theorem Scan.foldlM_step?_deeper {s t : Scan} {cs : List Char} (h : s.after? cs = some t) :
    cs.foldlM Scan.step? (s.deeper 1) = some (t.deeper 1) := by
  induction cs generalizing s with
  | nil =>
    cases h
    rfl
  | cons c cs ih =>
    obtain ⟨u, hnext, h⟩ := Option.bind_eq_some_iff.1 h
    rw [List.foldlM_cons, Scan.step?_deeper hnext]
    exact ih h

/-- A balanced text can stand in parentheses, whatever commas it has. -/
theorem reads_of_balanced {a : String} (h : Balanced a.toList) : Reads Scan.inner a Scan.inner :=
  Scan.foldlM_step?_deeper h

/-- Between quotes the reader stays there. -/
theorem Scan.foldlM_step?_encode (n : Nat) (cs : List Char) :
    (Literal.encode cs).foldlM Scan.step? ⟨true, n⟩ = some ⟨true, n⟩ := by
  induction cs with
  | nil => rfl
  | cons c cs ih =>
    by_cases hc : c = '\''
    · subst hc
      simpa [Literal.encode, Scan.step?, Scan.next?] using ih
    · simpa [Literal.encode, hc, Scan.step?, Scan.next?] using ih

/-- A string literal keeps the reader at its level. -/
theorem reads_quote (s : String) (n : Nat) : Reads ⟨false, n⟩ (Literal.quote s) ⟨false, n⟩ := by
  unfold Reads Literal.quote Literal.quoteChars
  rw [String.toList_ofList, List.cons_append, List.foldlM_cons]
  show (Literal.encode s.toList ++ ['\'']).foldlM Scan.step? ⟨true, n⟩ = _
  rw [List.foldlM_append, Scan.foldlM_step?_encode]
  rfl

/-- String literals that are separated by commas can stand in parentheses. -/
theorem reads_quoteAll (values : List String) :
    Reads Scan.inner (Literal.quoteAll values) Scan.inner := by
  unfold Literal.quoteAll
  refine Reads.intercalate (reads_ofList rfl) fun a ha => ?_
  obtain ⟨value, -, rfl⟩ := List.mem_map.1 ha
  exact reads_quote value 1

/-! ## Entries of a list -/

/-- A text that begins, and not with a blank. -/
def Begins (a : String) : Prop := ∃ c cs, a.toList = c :: cs ∧ c ≠ ' '

theorem Begins.append {a : String} (h : Begins a) (b : String) : Begins (a ++ b) := by
  obtain ⟨c, cs, ha, hc⟩ := h
  exact ⟨c, cs ++ b.toList, by rw [String.toList_append, ha, List.cons_append], hc⟩

/-- **A text that is found again in a list**: one item, without a blank before it. -/
structure IsEntry (a : String) : Prop where
  reads : Reads {} a {}
  begins : Begins a

theorem IsEntry.balanced {a : String} (h : IsEntry a) : Balanced a.toList :=
  Scan.balanced_of_isItem (reads_iff_isItem.1 h.reads)

/-- A list of entries is balanced. -/
theorem balanced_entries {entries : List String} (h : ∀ a ∈ entries, IsEntry a) :
    Balanced (", ".intercalate entries).toList := by
  induction entries with
  | nil => rfl
  | cons a rest ih =>
    have ha := (h a List.mem_cons_self).balanced
    have hrest := ih fun b hb => h b (List.mem_cons_of_mem _ hb)
    cases rest with
    | nil => simpa using ha
    | cons b rest =>
      rw [String.intercalate_cons_cons, String.toList_append, String.toList_append]
      exact (ha.append (by decide)).append hrest

/-- **The entries of a list are found again.** -/
theorem items_entries {entries : List String} (hne : entries ≠ [])
    (h : ∀ a ∈ entries, IsEntry a) :
    Scan.items (", ".intercalate entries).toList = entries.map String.toList := by
  have hitem : ∀ x ∈ entries.map String.toList, Scan.isItem x = true ∧ x.head? ≠ some ' ' := by
    intro x hx
    obtain ⟨a, ha, rfl⟩ := List.mem_map.1 hx
    obtain ⟨c, cs, hcs, hc⟩ := (h a ha).begins
    refine ⟨reads_iff_isItem.1 (h a ha).reads, ?_⟩
    rw [hcs]
    simpa using hc
  cases entries with
  | nil => exact absurd rfl hne
  | cons a rest =>
    rw [String.toList_intercalate]
    exact Scan.items_intercalate (fun x hx => (hitem x hx).1) fun x hx => (hitem x hx).2

end TableDdl
