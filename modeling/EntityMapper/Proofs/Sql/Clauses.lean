import EntityMapper.Proofs.Naming.Collisions
import EntityMapper.Proofs.Sql.Pairs

/-!
# Clauses of a table

A clause of the table adds no column and takes none away.  If its first `PRIMARY KEY` lists one
column alone then the column of that name is a key and not null; otherwise the clause changes
nothing.  Where a clause stands among the items does not matter.
-/

namespace EntityMapper.Sql

open Schema

/-! ## The column that a clause lists alone -/

/-- The tokens begin with the column of the given name, alone in parentheses. -/
def IsSole (ts : List Token) (name : String) : Prop :=
  ∃ opening column closing back, ts = opening :: column :: closing :: back ∧
    opening.isPunctuation "(" = true ∧ column.isIdentifier = true ∧ column.value = name ∧
    closing.isPunctuation ")" = true

/-- The first `PRIMARY KEY` in the clause lists the column of the given name alone. -/
def ListsAlone (clause : List Token) (name : String) : Prop :=
  ∃ front primary key list, clause = front ++ primary :: key :: list ∧
    primary.isWord "PRIMARY" = true ∧ key.isWord "KEY" = true ∧
    ¬ HasPair "PRIMARY" "KEY" (front ++ [primary]) ∧ IsSole list name

/-- The sole column is read iff the tokens begin with it, alone in parentheses. -/
theorem soleColumn?_eq_some_iff {ts : List Token} {name : String} :
    soleColumn? ts = some name ↔ IsSole ts name := by
  constructor
  · intro h
    unfold soleColumn? at h
    split at h
    · rename_i opening column closing back
      split at h
      · rename_i hcond
        simp only [Bool.and_eq_true] at hcond
        exact ⟨opening, column, closing, back, rfl, hcond.1.1, hcond.1.2, Option.some.inj h,
          hcond.2⟩
      · cases h
    · cases h
  · rintro ⟨opening, column, closing, back, rfl, ho, hcolumn, rfl, hc⟩
    simp [soleColumn?, ho, hcolumn, hc]

/-- Whether tokens begin with some words is settled by as many of them. -/
theorem beginsWith_append {words : List String} {xs : List Token} (h : words.length ≤ xs.length)
    (ys : List Token) : beginsWith words (xs ++ ys) = beginsWith words xs := by
  induction words generalizing xs with
  | nil => cases xs <;> cases ys <;> rfl
  | cons word words ih =>
    cases xs with
    | nil => cases h
    | cons x xs => rw [List.cons_append, beginsWith, beginsWith, ih (Nat.le_of_succ_le_succ h)]

/-- The key that a clause declares is the column that its first `PRIMARY KEY` lists alone. -/
theorem keyColumn?_eq_some_iff {clause : List Token} {name : String} :
    keyColumn? clause = some name ↔ ListsAlone clause name := by
  induction clause with
  | nil =>
    constructor
    · exact fun h => absurd h (by simp [keyColumn?])
    · rintro ⟨front, primary, key, list, heq, -⟩
      exact absurd heq (by simp)
  | cons t ts ih =>
    have hfirst {front list : List Token} {primary key : Token}
        (hts : ts = front ++ primary :: key :: list) :
        beginsWith ["PRIMARY", "KEY"] (t :: ts) =
          beginsWith ["PRIMARY", "KEY"] (t :: (front ++ [primary])) := by
      have hlonger : ["PRIMARY", "KEY"].length ≤ (t :: (front ++ [primary])).length := by simp
      rw [hts, ← beginsWith_append hlonger (key :: list)]
      simp
    rw [keyColumn?]
    split
    · rename_i hpair
      constructor
      · intro h
        cases ts with
        | nil => simp [beginsWith] at hpair
        | cons u us =>
          simp only [beginsWith, Bool.and_true, Bool.and_eq_true] at hpair
          exact ⟨[], t, u, us, rfl, hpair.1, hpair.2, not_hasPair_singleton _ _ t,
            soleColumn?_eq_some_iff.mp h⟩
      · rintro ⟨front, primary, key, list, heq, hprimary, hkey, hnone, hsole⟩
        cases front with
        | nil =>
          obtain ⟨rfl, rfl⟩ := List.cons_eq_cons.mp heq
          exact soleColumn?_eq_some_iff.mpr hsole
        | cons first front =>
          obtain ⟨rfl, hts⟩ := List.cons_eq_cons.mp heq
          rw [hfirst hts] at hpair
          exact absurd (hasPair_cons_iff.mpr (.inl hpair)) hnone
    · rename_i hpair
      rw [ih]
      constructor
      · rintro ⟨front, primary, key, list, hts, hprimary, hkey, hnone, hsole⟩
        refine ⟨t :: front, primary, key, list, by rw [hts, List.cons_append], hprimary, hkey, ?_,
          hsole⟩
        rw [List.cons_append, hasPair_cons_iff, not_or, ← hfirst hts]
        exact ⟨hpair, hnone⟩
      · rintro ⟨front, primary, key, list, heq, hprimary, hkey, hnone, hsole⟩
        cases front with
        | nil =>
          obtain ⟨rfl, rfl⟩ := List.cons_eq_cons.mp heq
          exact absurd (by simp [beginsWith, hprimary, hkey]) hpair
        | cons first front =>
          obtain ⟨rfl, hts⟩ := List.cons_eq_cons.mp heq
          exact ⟨front, primary, key, list, hts, hprimary, hkey, fun h => hnone (h.cons t), hsole⟩

/-! ## Items without the clauses -/

/-- Whether an item is a clause of the table. -/
def isClause (item : List Token) : Bool :=
  item.head?.any fun first => first.isIdentifier && beginsClause first

/-- The items that are no clauses. -/
def withoutClauses (parts : List (List Token)) : List (List Token) :=
  parts.filter fun item => !isClause item

/-- One of the clauses makes the column of the given name a key: the two names are the same in lower
case. -/
def MakesKey (parts : List (List Token)) (name : String) : Prop :=
  ∃ clause ∈ parts, isClause clause = true ∧ ∃ column, ListsAlone clause column ∧
    comparable column = comparable name

/-- A key clause is read as a clause with its column. -/
theorem ofItem?_of_isClause {item : List Token} (h : isClause item = true) (text : List Char) :
    ∃ first, ItemReading.ofItem? text item = some (.clause first (keyColumn? item)) := by
  cases item with
  | nil => cases h
  | cons first ts =>
    simp only [isClause, List.head?_cons, Option.any_some, Bool.and_eq_true] at h
    exact ⟨first, by rw [ItemReading.ofItem?, if_neg (by simp [h.1]), if_pos h.2]⟩

/-- An item that is no key clause is not read as one. -/
theorem ofItem?_of_not_isClause {item : List Token} (h : isClause item = false) {text : List Char}
    {first : Token} {key : Option String} :
    ItemReading.ofItem? text item ≠ some (.clause first key) := by
  cases item with
  | nil => exact nofun
  | cons t ts =>
    simp only [isClause, List.head?_cons, Option.any_some, Bool.and_eq_false_iff] at h
    intro hread
    rw [ItemReading.ofItem?] at hread
    split at hread
    · cases hread
    · rename_i hname
      split at hread
      · rename_i hclause
        rcases h with h | h
        · rw [h] at hname
          exact hname rfl
        · rw [h] at hclause
          cases hclause
      · split at hread <;> cases hread

/-- A key clause defines no column. -/
theorem not_defines_of_isClause {text : List Char} {item : List Token} (h : isClause item = true)
    (c : Column) : ¬ Defines text item c := by
  intro hc
  obtain ⟨first, hread⟩ := ofItem?_of_isClause h text
  rw [Defines, hread] at hc
  cases hc

/-- Clauses neither add a column nor take one away. -/
theorem kept_withoutClauses (text : List Char) (name : String) (taken : List String)
    (parts : List (List Token)) :
    kept text name taken (withoutClauses parts) = kept text name taken parts := by
  induction parts generalizing taken with
  | nil => rfl
  | cons item parts ih =>
    rw [withoutClauses] at ih ⊢
    cases hclause : isClause item with
    | true =>
      rw [List.filter_cons_of_neg (by simp [hclause]),
        kept_cons_of_not_defines (not_defines_of_isClause hclause), ih]
    | false =>
      rw [List.filter_cons_of_pos (by simp [hclause])]
      by_cases hd : ∃ d, Defines text item d
      · obtain ⟨d, hd⟩ := hd
        rw [kept_cons_of_defines hd, kept_cons_of_defines hd, ih, ih]
      · rw [kept_cons_of_not_defines (not_exists.mp hd),
          kept_cons_of_not_defines (not_exists.mp hd), ih]

/-! ## The keys that clauses name -/

/-- The keys are the columns that clauses list alone, but for a column without a name. -/
theorem mem_clauseKeys_iff {text : List Char} {parts : List (List Token)} {key : String} :
    key ∈ clauseKeys (parts.filterMap (ItemReading.ofItem? text)) ↔
      ∃ clause ∈ parts, isClause clause = true ∧ ∃ column, ListsAlone clause column ∧
        column ≠ "" ∧ comparable column = key := by
  rw [clauseKeys, List.mem_filterMap]
  constructor
  · rintro ⟨reading, hreading, hkey⟩
    obtain ⟨item, hitem, hread⟩ := List.mem_filterMap.mp hreading
    split at hkey
    · rename_i first column
      split at hkey
      · cases hkey
      · rename_i hne
        cases hclause : isClause item with
        | false => exact absurd hread (ofItem?_of_not_isClause hclause)
        | true =>
          obtain ⟨first', hread'⟩ := ofItem?_of_isClause hclause text
          rw [hread'] at hread
          obtain ⟨-, hcolumn⟩ := ItemReading.clause.inj (Option.some.inj hread)
          exact ⟨item, hitem, hclause, column, keyColumn?_eq_some_iff.mp hcolumn, hne,
            Option.some.inj hkey⟩
    · cases hkey
  · rintro ⟨clause, hmem, hclause, column, hlists, hne, rfl⟩
    obtain ⟨first, hread⟩ := ofItem?_of_isClause hclause text
    refine ⟨_, List.mem_filterMap.mpr ⟨clause, hmem, hread⟩, ?_⟩
    rw [keyColumn?_eq_some_iff.mpr hlists]
    exact if_neg hne

/-- Without the key clauses there are no keys from clauses. -/
theorem clauseKeys_withoutClauses (text : List Char) (parts : List (List Token)) :
    clauseKeys ((withoutClauses parts).filterMap (ItemReading.ofItem? text)) = [] := by
  rw [List.eq_nil_iff_forall_not_mem]
  intro key hkey
  obtain ⟨clause, hmem, hclause, -⟩ := mem_clauseKeys_iff.mp hkey
  rw [withoutClauses, List.mem_filter, hclause] at hmem
  exact absurd hmem.2 (by decide)

/-- Only the empty name compares as the empty one. -/
theorem comparable_eq_empty {name : String} (h : comparable name = comparable "") : name = "" := by
  rw [comparable, comparable, String.ofList_inj] at h
  cases hname : name.toList with
  | nil => simpa using hname
  | cons c cs =>
    obtain ⟨d, ds, hlower, -⟩ := Naming.exists_lower_cons c cs
    rw [hname, hlower] at h
    cases h

/-! ## What clauses do to the columns -/

/-- The second column is the first one, marked as a key if a clause makes it one. -/
def MarkedBy (parts : List (List Token)) (c c' : Column) : Prop :=
  (MakesKey parts c.name → c' = { c with primaryKey := true, nullable := false }) ∧
    (¬ MakesKey parts c.name → c' = c)

/-- A column that is kept is marked exactly if a clause makes it a key. -/
theorem markedBy_markKey {text : List Char} {name : String} {parts : List (List Token)} {c : Column}
    (hc : c ∈ kept text name [] parts) :
    MarkedBy parts c (markKey (clauseKeys (parts.filterMap (ItemReading.ofItem? text))) c) := by
  have hne : c.name ≠ "" := by
    obtain ⟨places, -, hfirst⟩ := exists_places text name [] parts
    obtain ⟨i, hi, rfl⟩ := List.getElem_of_mem hc
    obtain ⟨⟨item, -, hdefines⟩, -⟩ := hfirst.get hi (hfirst.length_eq ▸ hi)
    obtain ⟨d, hd, heq, -⟩ := hdefines.definition
    have hname : (kept text name [] parts)[i].name = d.name.value := congrArg Column.name heq
    rw [hname]
    exact (Definition.ofItem?_eq_some hd).1
  have hmem : comparable c.name ∈ clauseKeys (parts.filterMap (ItemReading.ofItem? text)) ↔
      MakesKey parts c.name := by
    rw [mem_clauseKeys_iff]
    constructor
    · rintro ⟨clause, hclause, his, column, hlists, -, heq⟩
      exact ⟨clause, hclause, his, column, hlists, heq⟩
    · rintro ⟨clause, hclause, his, column, hlists, heq⟩
      refine ⟨clause, hclause, his, column, hlists, ?_, heq⟩
      rintro rfl
      exact hne (comparable_eq_empty heq.symm)
  constructor
  · intro hkey
    rw [markKey, if_pos (hmem.mpr hkey)]
  · intro hkey
    rw [markKey, if_neg (hmem.not.mpr hkey)]

/-- Items that are the same but for their clauses, which name the same keys, give the same table. -/
theorem assemble_congr {text : List Char} {name : String} {parts parts' : List (List Token)}
    (hitems : withoutClauses parts' = withoutClauses parts)
    (hkeys : ∀ column, MakesKey parts' column ↔ MakesKey parts column) :
    (assemble text name parts').1 = (assemble text name parts).1 := by
  have hkept : kept text name [] parts' = kept text name [] parts := by
    rw [← kept_withoutClauses, hitems, kept_withoutClauses]
  have hcolumns : (assemble text name parts').1.columns = (assemble text name parts).1.columns := by
    rw [columns_assemble, columns_assemble, hkept]
    refine List.map_congr_left fun c hc => ?_
    obtain ⟨hmarked, hleft⟩ := markedBy_markKey hc
    obtain ⟨hmarked', hleft'⟩ := markedBy_markKey (hkept ▸ hc)
    by_cases hkey : MakesKey parts c.name
    · rw [hmarked hkey, hmarked' ((hkeys c.name).mpr hkey)]
    · rw [hleft hkey, hleft' (mt (hkeys c.name).mp hkey)]
  simp only [assemble] at hcolumns ⊢
  rw [hcolumns]

/-- The columns of a table are those that its items give without the clauses, where the columns that
some clause lists alone behind its first `PRIMARY KEY` are keys and not null, and all else is the
same. A clause that lists no column in this way can be left out, and the clauses can stand anywhere
among the other items. -/
theorem columns_of_clauses (text : List Char) (name : String) (parts : List (List Token)) :
    List.Forall₂ (MarkedBy parts) (assemble text name (withoutClauses parts)).1.columns
        (assemble text name parts).1.columns ∧
      (∀ front clause back, parts = front ++ clause :: back → isClause clause = true →
        (∀ column, ¬ ListsAlone clause column) →
          (assemble text name (front ++ back)).1 = (assemble text name parts).1) ∧
      ∀ parts', withoutClauses parts' = withoutClauses parts →
        (∀ clause, isClause clause = true → (clause ∈ parts' ↔ clause ∈ parts)) →
          (assemble text name parts').1 = (assemble text name parts).1 := by
  refine ⟨?_, ?_, fun parts' hitems hclauses => assemble_congr hitems fun column => ?_⟩
  · rw [columns_assemble, columns_assemble, kept_withoutClauses, clauseKeys_withoutClauses,
      List.forall₂_map_left_iff, List.forall₂_map_right_iff, List.forall₂_same]
    intro c hc
    have hplain : markKey [] c = c := if_neg List.not_mem_nil
    rw [hplain]
    exact markedBy_markKey hc
  · rintro front clause back rfl hclause hnone
    refine assemble_congr ?_ fun column => ⟨?_, ?_⟩
    · simp [withoutClauses, hclause]
    · rintro ⟨other, hother, hkey⟩
      refine ⟨other, ?_, hkey⟩
      rw [List.mem_append, List.mem_cons]
      exact (List.mem_append.mp hother).imp id .inr
    · rintro ⟨other, hother, hother', listed, hlists, heq⟩
      rw [List.mem_append, List.mem_cons] at hother
      obtain hfront | rfl | hback := hother
      · exact ⟨other, List.mem_append_left back hfront, hother', listed, hlists, heq⟩
      · exact absurd hlists (hnone listed)
      · exact ⟨other, List.mem_append_right front hback, hother', listed, hlists, heq⟩
  · constructor
    · rintro ⟨clause, hmem, hclause, hkey⟩
      exact ⟨clause, (hclauses clause hclause).mp hmem, hclause, hkey⟩
    · rintro ⟨clause, hmem, hclause, hkey⟩
      exact ⟨clause, (hclauses clause hclause).mpr hmem, hclause, hkey⟩

end EntityMapper.Sql
