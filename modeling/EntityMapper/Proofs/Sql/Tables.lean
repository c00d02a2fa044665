import EntityMapper.Proofs.Sql.Sections
import Mathlib.Data.List.Forall2
import Mathlib.Data.List.TakeWhile

/-!
# What every table that is read satisfies

The columns of a table are its first definitions: an item keeps its column exactly when no earlier
item defines a column of the same comparable name, and the columns stand in the order of these
items. With what a single definition yields this gives the invariants of the tables that any text
is read to.
-/

namespace EntityMapper.Sql

open Schema

/-! ## One definition -/

/-- What holds of every column that is read off a text. -/
structure SoundColumn (text : List Char) (c : Column) : Prop where
  name_ne : c.name ≠ ""
  name_not_clause : String.ofList (Text.upper c.name.toList) ∉ clauseWords
  fieldName_eq : c.fieldName = Naming.fieldName c.name
  type_eq : c.type = JavaType.ofSql c.sqlType
  typeUnknown_eq : c.typeUnknown = (JavaType.ofSql? c.sqlType).isNone
  sqlType_ne : c.sqlType ≠ ""
  sqlType_isInfix : c.sqlType.toList <:+: text
  nullable_of_key : c.primaryKey = true → c.nullable = false

/-- An item of a text defines a column. -/
def Defines (text : List Char) (item : List Token) (c : Column) : Prop :=
  ItemReading.ofItem? text item = some (.column c)

/-- An item that defines a column holds a definition whose name begins no clause. -/
theorem Defines.definition {text : List Char} {item : List Token} {c : Column}
    (h : Defines text item c) : ∃ d, Definition.ofItem? item = some d ∧ c = d.column text ∧
      d.name.upper ∉ clauseWords := by
  cases item with
  | nil => cases h
  | cons first ts =>
    rw [Defines, ItemReading.ofItem?] at h
    split at h
    · cases h
    · split at h
      · cases h
      · rename_i hclause
        split at h
        · rename_i d hd
          refine ⟨d, hd, (ItemReading.column.inj (Option.some.inj h)).symm, ?_⟩
          obtain ⟨-, -, us, hitem, -⟩ := Definition.ofItem?_eq_some hd
          obtain ⟨rfl, -⟩ := List.cons_eq_cons.mp hitem
          rw [beginsClause, Bool.or_eq_true, not_or, List.contains_iff_mem] at hclause
          exact hclause.1
        · cases h

/-- A column that an item of a text defines is sound. -/
theorem Defines.sound {text : List Char} {item : List Token} {c : Column} {low : Nat}
    (h : Defines text item c) (hitem : Spanned low text.length item) : SoundColumn text c := by
  obtain ⟨d, hd, rfl, hclause⟩ := h.definition
  obtain ⟨hne, hinfix⟩ := Definition.sqlType_ne hd hitem
  exact
    { name_ne := (Definition.ofItem?_eq_some hd).1
      name_not_clause := hclause
      fieldName_eq := rfl
      type_eq := rfl
      typeUnknown_eq := rfl
      sqlType_ne := hne
      sqlType_isInfix := hinfix
      nullable_of_key := fun hkey => by
        simp only [Definition.column] at hkey ⊢
        simp [hkey] }

/-- A column that is sound for a text is sound for a longer one around it. -/
theorem SoundColumn.mono {text text' : List Char} {c : Column} (h : SoundColumn text c)
    (htext : text <:+: text') : SoundColumn text' c :=
  { h with sqlType_isInfix := h.sqlType_isInfix.trans htext }

/-! ## Marking keys -/

/-- Marking a key keeps the name. -/
@[simp] theorem markKey_name (keys : List String) (c : Column) :
    (markKey keys c).name = c.name := by
  rw [markKey]
  split <;> rfl

/-- Marking a column as the primary key keeps it sound. -/
theorem SoundColumn.markKey {text : List Char} {c : Column} (h : SoundColumn text c)
    (keys : List String) : SoundColumn text (markKey keys c) := by
  rw [Sql.markKey]
  split
  · exact { h with nullable_of_key := fun _ => rfl }
  · exact h

/-! ## The first definitions -/

/-- The item at a place is the first one that defines a column of its comparable name. -/
def FirstDefines (text : List Char) (parts : List (List Token)) (c : Column) (place : Nat) :
    Prop :=
  (∃ item, parts[place]? = some item ∧ Defines text item c) ∧
    ∀ earlier < place, ∀ item d, parts[earlier]? = some item → Defines text item d →
      comparable d.name ≠ comparable c.name

/-- The columns that items add to a table whose taken names are given. -/
def kept (text : List Char) (name : String) (taken : List String) (parts : List (List Token)) :
    List Column :=
  (outcomes name taken (parts.filterMap (ItemReading.ofItem? text))).filterMap
    ItemOutcome.column?

/-- An item that defines a column keeps it if its name is free, and takes the name. -/
theorem kept_cons_of_defines {text : List Char} {name : String} {taken : List String}
    {item : List Token} {parts : List (List Token)} {c : Column} (h : Defines text item c) :
    kept text name taken (item :: parts) =
      if comparable c.name ∈ taken then kept text name taken parts
      else c :: kept text name (comparable c.name :: taken) parts := by
  rw [kept, List.filterMap_cons, show ItemReading.ofItem? text item = _ from h]
  dsimp only
  rw [outcomes]
  split
  · rfl
  · rfl

/-- An item that defines no column adds none. -/
theorem kept_cons_of_not_defines {text : List Char} {name : String} {taken : List String}
    {item : List Token} {parts : List (List Token)} (h : ∀ c, ¬ Defines text item c) :
    kept text name taken (item :: parts) = kept text name taken parts := by
  rw [kept, kept, List.filterMap_cons]
  cases hr : ItemReading.ofItem? text item with
  | none => rfl
  | some r =>
    cases r with
    | notAName first => rfl
    | clause first key => rfl
    | noType first => rfl
    | column c => exact absurd hr (h c)

/-- No column is kept whose name is taken. -/
theorem comparable_not_mem_of_mem_kept {text : List Char} {name : String} {taken : List String}
    {parts : List (List Token)} {c : Column} (h : c ∈ kept text name taken parts) :
    comparable c.name ∉ taken := by
  induction parts generalizing taken with
  | nil => cases h
  | cons item parts ih =>
    by_cases hd : ∃ d, Defines text item d
    · obtain ⟨d, hd⟩ := hd
      rw [kept_cons_of_defines hd] at h
      split at h
      · exact ih h
      · rename_i hfree
        obtain rfl | h := List.mem_cons.mp h
        · exact hfree
        · exact fun hmem => ih h (List.mem_cons_of_mem _ hmem)
    · rw [kept_cons_of_not_defines (not_exists.mp hd)] at h
      exact ih h

/-- No two columns have the same comparable name. -/
theorem nodup_kept (text : List Char) (name : String) (taken : List String)
    (parts : List (List Token)) :
    ((kept text name taken parts).map fun c => comparable c.name).Nodup := by
  induction parts generalizing taken with
  | nil => exact List.nodup_nil
  | cons item parts ih =>
    by_cases hd : ∃ d, Defines text item d
    · obtain ⟨d, hd⟩ := hd
      rw [kept_cons_of_defines hd]
      split
      · exact ih taken
      · rw [List.map_cons, List.nodup_cons]
        refine ⟨fun hmem => ?_, ih _⟩
        obtain ⟨e, he, heq⟩ := List.mem_map.mp hmem
        exact comparable_not_mem_of_mem_kept he (heq ▸ List.mem_cons_self)
    · rw [kept_cons_of_not_defines (not_exists.mp hd)]
      exact ih taken

/-- A first definition stays the first one behind items that define no column of its name. -/
theorem FirstDefines.cons {text : List Char} {parts : List (List Token)} {c : Column}
    {place : Nat} (h : FirstDefines text parts c place) {item : List Token}
    (hitem : ∀ d, Defines text item d → comparable d.name ≠ comparable c.name) :
    FirstDefines text (item :: parts) c (place + 1) := by
  obtain ⟨hplace, hearlier⟩ := h
  refine ⟨hplace, fun earlier hlt other d hother hd => ?_⟩
  cases earlier with
  | zero => exact hitem d (Option.some.inj hother ▸ hd)
  | succ earlier => exact hearlier earlier (by omega) other d hother hd

/-- An item in front that defines none of the columns moves their places on by one. -/
theorem FirstDefines.forall₂_cons {text : List Char} {parts : List (List Token)}
    {columns : List Column} {places : List Nat}
    (h : List.Forall₂ (FirstDefines text parts) columns places) {item : List Token}
    (hitem : ∀ c ∈ columns, ∀ d, Defines text item d → comparable d.name ≠ comparable c.name) :
    List.Forall₂ (FirstDefines text (item :: parts)) columns (places.map (· + 1)) := by
  induction h with
  | nil => exact .nil
  | cons hc _ ih =>
    exact .cons (hc.cons (hitem _ List.mem_cons_self))
      (ih fun c hc => hitem c (List.mem_cons_of_mem _ hc))

/-- The columns stand in the order of the items that define them first. -/
theorem exists_places (text : List Char) (name : String) (taken : List String)
    (parts : List (List Token)) :
    ∃ places : List Nat, places.Pairwise (· < ·) ∧
      List.Forall₂ (FirstDefines text parts) (kept text name taken parts) places := by
  induction parts generalizing taken with
  | nil => exact ⟨[], .nil, .nil⟩
  | cons item parts ih =>
    have behind (taken : List String) (hitem : ∀ c ∈ kept text name taken parts, ∀ d,
        Defines text item d → comparable d.name ≠ comparable c.name) :
        ∃ places : List Nat, (∀ place ∈ places, 0 < place) ∧ places.Pairwise (· < ·) ∧
          List.Forall₂ (FirstDefines text (item :: parts)) (kept text name taken parts)
            places := by
      obtain ⟨places, horder, hfirst⟩ := ih taken
      exact ⟨places.map (· + 1), by simp, horder.map _ fun _ _ => Nat.succ_lt_succ,
        FirstDefines.forall₂_cons hfirst hitem⟩
    by_cases hd : ∃ d, Defines text item d
    · obtain ⟨d, hd⟩ := hd
      have same {e : Column} (he : Defines text item e) : e = d :=
        ItemReading.column.inj (Option.some.inj (he.symm.trans hd))
      rw [kept_cons_of_defines hd]
      split
      · rename_i htaken
        obtain ⟨places, -, horder, hfirst⟩ := behind taken fun c hc e he heq =>
          comparable_not_mem_of_mem_kept hc (heq ▸ same he ▸ htaken)
        exact ⟨places, horder, hfirst⟩
      · obtain ⟨places, hpos, horder, hfirst⟩ :=
          behind (comparable d.name :: taken) fun c hc e he heq =>
            comparable_not_mem_of_mem_kept hc (heq ▸ same he ▸ List.mem_cons_self)
        exact ⟨0 :: places, .cons hpos horder, .cons ⟨⟨item, rfl, hd⟩, by simp⟩ hfirst⟩
    · have hnone := not_exists.mp hd
      rw [kept_cons_of_not_defines hnone]
      obtain ⟨places, -, horder, hfirst⟩ :=
        behind taken fun _ _ d hd => absurd hd (hnone d)
      exact ⟨places, horder, hfirst⟩

/-- The name of every column that an item defines is taken or among the columns. -/
theorem comparable_mem_kept {text : List Char} {name : String} (taken : List String)
    {parts : List (List Token)} {item : List Token} (hitem : item ∈ parts) {c : Column}
    (hc : Defines text item c) : comparable c.name ∈ taken ∨
      comparable c.name ∈ (kept text name taken parts).map fun c => comparable c.name := by
  induction parts generalizing taken with
  | nil => cases hitem
  | cons first parts ih =>
    by_cases hd : ∃ d, Defines text first d
    · obtain ⟨d, hd⟩ := hd
      rw [kept_cons_of_defines hd]
      split
      · rename_i htaken
        obtain rfl | hitem := List.mem_cons.mp hitem
        · obtain rfl : c = d := ItemReading.column.inj (Option.some.inj (hc.symm.trans hd))
          exact .inl htaken
        · exact ih taken hitem
      · rw [List.map_cons]
        obtain rfl | hitem := List.mem_cons.mp hitem
        · obtain rfl : c = d := ItemReading.column.inj (Option.some.inj (hc.symm.trans hd))
          exact .inr List.mem_cons_self
        · obtain htaken | hmem := ih (comparable d.name :: taken) hitem
          · obtain heq | htaken := List.mem_cons.mp htaken
            · exact .inr (heq ▸ List.mem_cons_self)
            · exact .inl htaken
          · exact .inr (List.mem_cons_of_mem _ hmem)
    · have hnone := not_exists.mp hd
      rw [kept_cons_of_not_defines hnone]
      obtain rfl | hitem := List.mem_cons.mp hitem
      · exact absurd hc (hnone c)
      · exact ih taken hitem

/-! ## The table of a text -/

/-- The columns are the first definitions among the items of a text, in the order of the items,
where the keys that clauses name are marked. -/
structure DefinedBy (text : List Char) (parts : List (List Token)) (columns : List Column) :
    Prop where
  order : ∃ places : List Nat, places.Pairwise (· < ·) ∧
    List.Forall₂ (fun c place => ∃ d, FirstDefines text parts d place ∧
      c = markKey (clauseKeys (parts.filterMap (ItemReading.ofItem? text))) d) columns places
  complete : ∀ item ∈ parts, ∀ d, Defines text item d →
    comparable d.name ∈ columns.map fun c => comparable c.name

/-- What holds of every table that is read off a text. -/
structure SoundTable (text : List Char) (t : Table) : Prop where
  name_ne : t.name ≠ ""
  className_eq : t.className = Naming.className t.name
  names_nodup : (t.columns.map fun c => comparable c.name).Nodup
  columns_sound : ∀ c ∈ t.columns, SoundColumn text c
  declared : ∃ statement ∈ statements text, ∃ header,
    Header.find? (tokenize (String.ofList statement)) = some header ∧ header.name = t.name ∧
      DefinedBy statement header.items t.columns

/-- The columns of a table are those that are kept, with the keys marked. -/
theorem columns_assemble (text : List Char) (name : String) (parts : List (List Token)) :
    (assemble text name parts).1.columns = (kept text name [] parts).map
      (markKey (clauseKeys (parts.filterMap (ItemReading.ofItem? text)))) := rfl

/-- Marking keys keeps the names of columns. -/
@[simp] theorem map_comparable_markKey (keys : List String) (columns : List Column) :
    ((columns.map (markKey keys)).map fun c => comparable c.name) =
      columns.map fun c => comparable c.name := by
  simp

/-- The columns that are put together from items are their first definitions. -/
theorem definedBy_assemble (text : List Char) (name : String) (parts : List (List Token)) :
    DefinedBy text parts (assemble text name parts).1.columns := by
  rw [columns_assemble]
  constructor
  · obtain ⟨places, horder, hfirst⟩ := exists_places text name [] parts
    refine ⟨places, horder, List.forall₂_map_left_iff.mpr ?_⟩
    exact hfirst.imp fun c place hc => ⟨c, hc, rfl⟩
  · intro item hitem d hd
    rw [map_comparable_markKey]
    exact (comparable_mem_kept [] hitem hd).resolve_left (by simp)

/-- Every column that is kept is sound. -/
theorem sound_of_mem_kept {text : List Char} {name : String} {taken : List String}
    {parts : List (List Token)} (low : Nat)
    (hparts : ∀ item ∈ parts, Spanned low text.length item) {c : Column}
    (h : c ∈ kept text name taken parts) : SoundColumn text c := by
  obtain ⟨places, -, hfirst⟩ := exists_places text name taken parts
  obtain ⟨i, hi, rfl⟩ := List.getElem_of_mem h
  have hplace := hfirst.get hi (hfirst.length_eq ▸ hi)
  obtain ⟨⟨item, hitem, hdefines⟩, -⟩ := hplace
  exact hdefines.sound (hparts item (List.mem_of_getElem? hitem))

/-- The table of a statement is sound. -/
theorem tableOf?_sound {statement : List Char} {t : Table} {remarks : List Remark}
    (h : tableOf? statement = some (t, remarks)) :
    t.name ≠ "" ∧ t.className = Naming.className t.name ∧
      (t.columns.map fun c => comparable c.name).Nodup ∧
      (∀ c ∈ t.columns, SoundColumn statement c) ∧
      ∃ header, Header.find? (tokenize (String.ofList statement)) = some header ∧
        header.name = t.name ∧ DefinedBy statement header.items t.columns := by
  obtain ⟨header, hfind, htable⟩ := Option.map_eq_some_iff.mp h
  obtain ⟨hne, hrest⟩ := Header.find?_eq_some hfind
  obtain rfl : (assemble statement header.name header.items).1 = t := by
    rw [← Header.table_eq, htable]
  refine ⟨hne, rfl, ?_, ?_, header, hfind, rfl, definedBy_assemble _ _ _⟩
  · rw [columns_assemble, map_comparable_markKey]
    exact nodup_kept statement header.name [] header.items
  · intro c hc
    rw [columns_assemble] at hc
    obtain ⟨d, hd, rfl⟩ := List.mem_map.mp hc
    refine (sound_of_mem_kept 0 (fun item hitem => ?_) hd).markKey _
    have htokens := spanned_tokenize (String.ofList statement)
    rw [String.toList_ofList] at htokens
    exact htokens.sublist ((Header.sublist_of_mem_items hitem).trans hrest.sublist)

/-- A table is read exactly if it is the first one that a statement declares. -/
theorem read_result_iff [DelimiterForm] {text : String} {t : Table} :
    (read text).result = .ok t ↔
      ∃ remarks, (statements text.toList).findSome? tableOf? = some (t, remarks) := by
  rw [read]
  cases (statements text.toList).findSome? tableOf? with
  | none => simp
  | some found =>
    obtain ⟨table, remarks⟩ := found
    simp

/-- A text in which no statement declares a table fails to be read. -/
theorem read_result_of_none [DelimiterForm] {text : String}
    (h : (statements text.toList).findSome? tableOf? = none) :
    (read text).result = .error .noTableDeclaration := by
  rw [read, h]

/-- White space declares no table. -/
theorem tableOf?_strip_blank [DelimiterForm] {part : List Char}
    (h : ∀ c ∈ part, Text.isSpace c = true) : tableOf? (Text.strip part) = none := by
  rw [Text.strip, List.dropWhile_eq_nil_iff.mpr h]
  rfl

/-- The table that is read is the first one that a part of the text declares. -/
theorem findSome?_statements [DelimiterForm] (cs : List Char) :
    (statements cs).findSome? tableOf? =
      ((cut {} [] (lexemes cs)).map textOf).findSome? fun part => tableOf? (Text.strip part) := by
  obtain ⟨more, others, hcut⟩ := cut_eq_cons {} (lexemes cs)
  have hne : (cut {} [] (lexemes cs)).map textOf ≠ [] := by simp [hcut]
  unfold statements
  generalize (cut {} [] (lexemes cs)).map textOf = parts at hne
  dsimp only
  split
  · rename_i hblank
    rw [List.getLast?_eq_some_getLast hne, Option.getD_some, List.all_eq_true] at hblank
    conv_rhs => rw [← List.dropLast_append_getLast hne]
    rw [List.findSome?_append, List.findSome?_singleton, tableOf?_strip_blank hblank,
      List.findSome?_map]
    simp [Function.comp_def]
  · rw [List.findSome?_map]
    rfl

/-- A text that is a statement is read by its own lexemes. -/
theorem read_of_isStatement {cs : List Char} {t : Table} {remarks : List Remark}
    (h : IsStatement cs ∧
      (Header.find? (tokensFrom 0 (lexemes cs))).map (Header.table cs) = some (t, remarks)) :
    read (String.ofList cs) = ⟨.ok t, remarks⟩ := by
  obtain ⟨hstatement, hlexemes⟩ := h
  obtain ⟨others, hstatements⟩ := hstatement.exists_statements
  have htable : tableOf? cs = some (t, remarks) := by
    rw [tableOf?, tokenize, String.toList_ofList, hlexemes]
  rw [read, String.toList_ofList, hstatements, List.findSome?_cons, htable]

/-- What is made of the table that such a text is read to. -/
theorem map_read_of_isStatement {α : Type} {cs : List Char} {f : Table → α} {a : α}
    (h : IsStatement cs ∧
      (Header.find? (tokensFrom 0 (lexemes cs))).map (fun header => f (header.table cs).1) =
        some a) :
    (read (String.ofList cs)).result.map f = .ok a := by
  obtain ⟨hstatement, hmade⟩ := h
  obtain ⟨header, hfound, rfl⟩ := Option.map_eq_some_iff.mp hmade
  rw [read_of_isStatement ⟨hstatement, by rw [hfound]; rfl⟩]
  rfl

/-- Every table that a text is read to is sound: its names are distinct and no clause words, its
columns follow from their names and declared types, and they are the first definitions in order. -/
theorem soundTable_of_read {text : String} {t : Table} (h : (read text).result = .ok t) :
    SoundTable text.toList t := by
  obtain ⟨remarks, hfound⟩ := read_result_iff.mp h
  obtain ⟨statement, hmem, htable⟩ := List.exists_of_findSome?_eq_some hfound
  obtain ⟨hne, hclass, hnodup, hcolumns, hdeclared⟩ := tableOf?_sound htable
  exact
    { name_ne := hne
      className_eq := hclass
      names_nodup := hnodup
      columns_sound := fun c hc => (hcolumns c hc).mono (statement_isInfix hmem)
      declared := ⟨statement, hmem, hdeclared⟩ }

theorem soundTable_of_read_repeated_column :
    (read "CREATE TABLE t (id INT, ID TEXT)").result =
        .ok ⟨"t", "T", [⟨"id", "id", .integer, "INT", false, false, true, false⟩]⟩ ∧
      SoundTable "CREATE TABLE t (id INT, ID TEXT)".toList
        ⟨"t", "T", [⟨"id", "id", .integer, "INT", false, false, true, false⟩]⟩ := by
  have hread : read "CREATE TABLE t (id INT, ID TEXT)" =
      ⟨.ok ⟨"t", "T", [⟨"id", "id", .integer, "INT", false, false, true, false⟩]⟩,
        [.duplicateColumn "ID" "t"]⟩ :=
    read_of_isStatement (by decide +kernel)
  have h := congrArg Reading.result hread
  exact ⟨h, soundTable_of_read h⟩

end EntityMapper.Sql
