import EntityMapper.Proofs.Sql.Spans
import EntityMapper.Proofs.Sql.Statements
import EntityMapper.Sql.Declaration

/-!
# Headers and sections as parts of a statement

A header has a name that is not empty, the tokens after it end the statement, and the items of its
column section keep the order of these tokens. A column definition therefore declares a type that
is a part of the statement and is not empty.
-/

namespace EntityMapper.Sql

/-! ## Headers -/

namespace Header

/-- What stands behind a qualified name is an end of the tokens. -/
theorem qualified_rest (name : String) (ts : List Token) : (qualified name ts).rest <:+ ts := by
  fun_induction qualified name ts with
  | case1 name dot part ts _ ih => exact ih.trans ⟨[dot, part], rfl⟩
  | case2 => exact List.suffix_rfl
  | case3 => exact List.suffix_rfl

/-- A name that is read is not empty, and what follows it ends the tokens. -/
theorem named?_eq_some {ts : List Token} {h : Header} (hn : named? ts = some h) :
    h.name ≠ "" ∧ h.rest <:+ ts := by
  cases ts with
  | nil => cases hn
  | cons t ts =>
    simp only [named?] at hn
    split at hn
    · split at hn
      · cases hn
      · rename_i hne
        obtain rfl := Option.some.inj hn
        exact ⟨hne, (qualified_rest _ ts).trans (List.suffix_cons t ts)⟩
    · cases hn

/-- A header has a name that is not empty, and its rest is an end of the tokens. -/
theorem afterCreate?_eq_some {ts : List Token} {h : Header} (ha : afterCreate? ts = some h) :
    h.name ≠ "" ∧ h.rest <:+ ts := by
  rw [afterCreate?] at ha
  split at ha
  · cases ha
  · rename_i t us hdrop
    have hsuffix : t :: us <:+ ts := hdrop ▸ List.dropWhile_suffix _
    split at ha
    · obtain ⟨hne, hrest⟩ := named?_eq_some ha
      refine ⟨hne, hrest.trans (List.IsSuffix.trans ?_ ((List.suffix_cons t us).trans hsuffix))⟩
      split
      · exact List.drop_suffix 3 us
      · exact List.suffix_rfl
    · cases ha

/-- A header has a name that is not empty, and what follows it ends the tokens. -/
theorem find?_eq_some {ts : List Token} {h : Header} (hf : find? ts = some h) :
    h.name ≠ "" ∧ h.rest <:+ ts := by
  induction ts with
  | nil => cases hf
  | cons t ts ih =>
    rw [find?] at hf
    split at hf
    · rename_i header hheader
      obtain rfl := Option.some.inj hf
      split at hheader
      · obtain ⟨hne, hrest⟩ := afterCreate?_eq_some hheader
        exact ⟨hne, hrest.trans (List.suffix_cons t ts)⟩
      · cases hheader
    · obtain ⟨hne, hrest⟩ := ih hf
      exact ⟨hne, hrest.trans (List.suffix_cons t ts)⟩

/-- The index of the token behind a header in the tokens that it was found in. -/
def index (ts : List Token) (h : Header) : Nat :=
  ts.length - h.rest.length

/-- The items of the column section behind a header, none if there is no section. -/
def items (h : Header) : List (List Token) :=
  match h.rest with
  | [] => []
  | t :: ts => if t.isPunctuation "(" then Sql.items ts else []

/-- The table of a header is put together from the items of its section. -/
theorem table_eq (text : List Char) (h : Header) :
    (h.table text).1 = (assemble text h.name h.items).1 := by
  rw [table, items]
  cases h.rest with
  | nil => rfl
  | cons t ts =>
    dsimp only
    split
    · rfl
    · rfl

end Header

/-! ## Items -/

/-- An item is a part of the tokens it is cut from, in their order. -/
theorem sublist_of_mem_itemsFrom {depth : Nat} {ts item : List Token} (read : List Token)
    (h : item ∈ itemsFrom depth read ts) : item.Sublist (read.reverse ++ ts) := by
  induction ts generalizing depth read with
  | nil =>
    obtain rfl := List.mem_singleton.mp h
    simp
  | cons t ts ih =>
    have longer {depth : Nat} (h : item ∈ itemsFrom depth (t :: read) ts) :
        item.Sublist (read.reverse ++ t :: ts) := by
      simpa using ih (t :: read) h
    unfold itemsFrom at h
    split at h
    · exact longer h
    · split at h
      · split at h
        · obtain rfl := List.mem_singleton.mp h
          exact List.sublist_append_left _ _
        · exact longer h
      · split at h
        · obtain rfl | h := List.mem_cons.mp h
          · exact List.sublist_append_left _ _
          · exact ((ih [] h).trans (List.sublist_cons_self t ts)).trans
              (List.sublist_append_right _ _)
        · exact longer h

/-- An item keeps the order of the tokens of its section. -/
theorem sublist_of_mem_items {ts item : List Token} (h : item ∈ items ts) : item.Sublist ts :=
  sublist_of_mem_itemsFrom [] (List.mem_filter.mp h).1

/-- An item of a header is a part of the header's rest. -/
theorem Header.sublist_of_mem_items {h : Header} {item : List Token} (hi : item ∈ h.items) :
    item.Sublist h.rest := by
  rw [Header.items] at hi
  split at hi
  · cases hi
  · rename_i t ts hrest
    split at hi
    · rw [hrest]
      exact (Sql.sublist_of_mem_items hi).trans (List.sublist_cons_self t ts)
    · cases hi

/-! ## Definitions -/

/-- A group of parentheses ends where one of the tokens stops. -/
theorem closeGroup_stop {depth : Nat} {ts rest : List Token} {stop : Nat}
    (h : closeGroup depth ts = some (stop, rest)) : ∃ t ∈ ts, t.stop = stop := by
  induction ts generalizing depth with
  | nil => cases h
  | cons t ts ih =>
    have later {depth : Nat} (h : closeGroup depth ts = some (stop, rest)) :
        ∃ u ∈ t :: ts, u.stop = stop := by
      obtain ⟨u, hu, hstop⟩ := ih h
      exact ⟨u, List.mem_cons_of_mem t hu, hstop⟩
    rw [closeGroup] at h
    split at h
    · exact later h
    · split at h
      · split at h
        · exact ⟨t, List.mem_cons_self, congrArg Prod.fst (Option.some.inj h)⟩
        · exact later h
      · exact later h

/-- A declared type ends where its first token or a later one stops. -/
theorem typeExtent_stop (type : Token) (ts : List Token) :
    ∃ t ∈ type :: ts, t.stop = (typeExtent type ts).1 := by
  cases ts with
  | nil => exact ⟨type, List.mem_cons_self, rfl⟩
  | cons t ts =>
    rw [typeExtent]
    split
    · split
      · rename_i extent hclose
        obtain ⟨stop, rest⟩ := extent
        obtain ⟨u, hu, hstop⟩ := closeGroup_stop hclose
        exact ⟨u, List.mem_cons_of_mem _ (List.mem_cons_of_mem _ hu), hstop⟩
      · refine ⟨((t :: ts).getLast?).getD t, List.mem_cons_of_mem _ ?_, rfl⟩
        rw [List.getLast?_eq_some_getLast (List.cons_ne_nil t ts), Option.getD_some]
        exact List.getLast_mem _
    · exact ⟨type, List.mem_cons_self, rfl⟩

/-- A definition is read from a name that is not empty and a word for the type. -/
theorem Definition.ofItem?_eq_some {item : List Token} {d : Definition}
    (h : Definition.ofItem? item = some d) :
    d.name.value ≠ "" ∧ d.type.kind = .word ∧
      ∃ ts, item = d.name :: d.type :: ts ∧ typeExtent d.type ts = (d.typeStop, d.rest) := by
  unfold Definition.ofItem? at h
  split at h
  · rename_i name type ts
    split at h
    · rename_i hcond
      obtain rfl := Option.some.inj h
      simp only [Bool.and_eq_true, bne_iff_ne, ne_eq, beq_iff_eq] at hcond
      exact ⟨hcond.1, hcond.2, ts, rfl, rfl⟩
    · cases h
  · cases h

/-- The declared type of a definition is a part of the text that is not empty. -/
theorem Definition.sqlType_ne {item : List Token} {d : Definition} {text : List Char} {low : Nat}
    (h : Definition.ofItem? item = some d) (hitem : Spanned low text.length item) :
    d.sqlType text ≠ "" ∧ (d.sqlType text).toList <:+: text := by
  obtain ⟨-, -, ts, rfl, hextent⟩ := Definition.ofItem?_eq_some h
  have htype : Spanned d.name.stop text.length (d.type :: ts) := hitem.2.2
  obtain ⟨u, hu, hstop⟩ := typeExtent_stop d.type ts
  rw [hextent] at hstop
  have hbounds := htype.mem hu
  have hstart := htype.mem List.mem_cons_self
  have hle : d.type.start < d.typeStop := by
    obtain rfl | hu := List.mem_cons.mp hu
    · omega
    · have := htype.stop_le_start hu
      omega
  have hlen : 0 < (slice text d.type.start d.typeStop).length := by
    rw [length_slice (by omega)]
    omega
  constructor
  · intro hempty
    have : slice text d.type.start d.typeStop = [] := by
      simpa [Definition.sqlType, slice] using congrArg String.toList hempty
    rw [this] at hlen
    exact absurd hlen (by simp)
  · rw [Definition.sqlType, String.toList_ofList]
    exact slice_isInfix text d.type.start d.typeStop

end EntityMapper.Sql
