import EntityMapper.Proofs.Sql.Clauses

/-!
# What is said about the items of a section

Every item of a column section gives the table one column, or else one remark says why it gives
none: the item begins with no name, is a clause, gives no type, or repeats the name of a column.  A
further remark names a type that is not known, whether the column is kept or not, and nothing else
is said about items.  A table without columns is always remarked on.
-/

namespace EntityMapper.Sql

open Schema

/-! ## How an item is read -/

/-- How an item of a text is read, by its first tokens. -/
inductive ReadAs (text : List Char) : List Token → ItemReading → Prop where
  | notAName {first : Token} {ts : List Token} (hname : first.isIdentifier = false) :
      ReadAs text (first :: ts) (.notAName first)
  | clause {first : Token} {ts : List Token} (hname : first.isIdentifier = true)
      (hclause : beginsClause first = true) :
      ReadAs text (first :: ts) (.clause first (keyColumn? (first :: ts)))
  | noType {first : Token} {ts : List Token} (hname : first.isIdentifier = true)
      (hclause : beginsClause first = false)
      (htype : first.value = "" ∨ ∀ type ∈ ts.head?, type.kind ≠ .word) :
      ReadAs text (first :: ts) (.noType first)
  | column {name type : Token} {ts : List Token} (hname : name.isIdentifier = true)
      (hclause : beginsClause name = false) (hne : name.value ≠ "") (htype : type.kind = .word) :
      ReadAs text (name :: type :: ts)
        (.column ((Definition.mk name type (typeExtent type ts).1 (typeExtent type ts).2).column
          text))

/-- An item gives no column if its name is empty or no type word follows. -/
theorem Definition.ofItem?_eq_none_iff {first : Token} {ts : List Token} :
    Definition.ofItem? (first :: ts) = none ↔
      first.value = "" ∨ ∀ type ∈ ts.head?, type.kind ≠ .word := by
  cases ts with
  | nil => simp [Definition.ofItem?]
  | cons type ts =>
    simp only [Definition.ofItem?]
    split
    · rename_i hcond
      simp only [Bool.and_eq_true, bne_iff_ne, ne_eq, beq_iff_eq] at hcond
      simp [hcond]
    · rename_i hcond
      simp only [Bool.and_eq_true, bne_iff_ne, ne_eq, beq_iff_eq, not_and] at hcond
      simpa [or_iff_not_imp_left] using hcond

/-- What an item is read as is its reading. -/
theorem readAs_iff {text : List Char} {item : List Token} {r : ItemReading} :
    ReadAs text item r ↔ ItemReading.ofItem? text item = some r := by
  constructor
  · intro h
    cases h with
    | notAName hname => simp [ItemReading.ofItem?, hname]
    | clause hname hclause => simp [ItemReading.ofItem?, hname, hclause]
    | noType hname hclause htype =>
      simp [ItemReading.ofItem?, hname, hclause, Definition.ofItem?_eq_none_iff.mpr htype]
    | column hname hclause hne htype =>
      simp [ItemReading.ofItem?, hname, hclause, Definition.ofItem?, hne, htype]
  · intro h
    cases item with
    | nil => cases h
    | cons first ts =>
      rw [ItemReading.ofItem?] at h
      split at h
      · rename_i hname
        obtain rfl := Option.some.inj h
        exact .notAName (by simpa using hname)
      · rename_i hname
        rw [Bool.not_eq_true', Bool.not_eq_false] at hname
        split at h
        · rename_i hclause
          obtain rfl := Option.some.inj h
          exact .clause hname hclause
        · rename_i hclause
          rw [Bool.not_eq_true] at hclause
          split at h
          · rename_i d hd
            obtain rfl := Option.some.inj h
            obtain ⟨hne, htype, us, hitem, hextent⟩ := Definition.ofItem?_eq_some hd
            obtain ⟨rfl, rfl⟩ := List.cons_eq_cons.mp hitem
            have hparts : d = ⟨d.name, d.type, (typeExtent d.type us).1,
                (typeExtent d.type us).2⟩ := by
              rw [hextent]
            rw [hparts]
            exact .column hname hclause hne htype
          · rename_i hd
            obtain rfl := Option.some.inj h
            exact .noType hname hclause (Definition.ofItem?_eq_none_iff.mp hd)

/-- Every item is read in some way. -/
theorem exists_readAs (text : List Char) {item : List Token} (hne : item ≠ []) :
    ∃ r, ReadAs text item r := by
  obtain ⟨first, ts, rfl⟩ := List.exists_cons_of_ne_nil hne
  simp only [readAs_iff, ItemReading.ofItem?]
  split
  · exact ⟨_, rfl⟩
  · split
    · exact ⟨_, rfl⟩
    · split
      · exact ⟨_, rfl⟩
      · exact ⟨_, rfl⟩

/-! ## What is to be said -/

/-- Whether a remark says why an item gives the table no column. -/
def Remark.isRefusal : Remark → Bool
  | .notAName _ _ | .clause _ | .noType _ | .duplicateColumn _ _ => true
  | .noDeclaration _ | .noColumnSection _ | .unknownType _ _ | .noColumns _ => false

/-- One of the earlier items defines a column whose name is the same in lower case. -/
def Repeats (text : List Char) (earlier : List (List Token)) (c : Column) : Prop :=
  ∃ item ∈ earlier, ∃ d, ReadAs text item (.column d) ∧ comparable d.name = comparable c.name

/-- What is to be said about an item of a section, where the items in front of it are given. -/
inductive Warranted (text : List Char) (table : String) (earlier : List (List Token))
    (item : List Token) : Remark → Prop where
  | notAName {first : Token} (h : ReadAs text item (.notAName first)) :
      Warranted text table earlier item (.notAName first.value table)
  | clause {first : Token} {key : Option String} (h : ReadAs text item (.clause first key)) :
      Warranted text table earlier item (.clause first.value)
  | noType {first : Token} (h : ReadAs text item (.noType first)) :
      Warranted text table earlier item (.noType first.value)
  | unknownType {c : Column} (h : ReadAs text item (.column c))
      (htype : JavaType.ofSql? c.sqlType = none) :
      Warranted text table earlier item (.unknownType c.sqlType c.name)
  | duplicateColumn {c : Column} (h : ReadAs text item (.column c))
      (hrepeats : Repeats text earlier c) :
      Warranted text table earlier item (.duplicateColumn c.name table)

/-- What is left of an item: the column that the table gains and the remarks. -/
structure ItemAccount where
  column? : Option Column
  remarks : List Remark

/-- An account of an item, where the items in front of it are given. -/
structure ItemAccount.Covers (text : List Char) (table : String) (earlier : List (List Token))
    (item : List Token) (account : ItemAccount) : Prop where
  /-- There is one column, or one remark that says why there is none. -/
  one : account.column?.toList.length + account.remarks.countP Remark.isRefusal = 1
  column_iff : ∀ c, account.column? = some c ↔
    ReadAs text item (.column c) ∧ ¬ Repeats text earlier c
  nodup : account.remarks.Nodup
  mem_remarks_iff : ∀ remark, remark ∈ account.remarks ↔
    Warranted text table earlier item remark

/-- Accounts of items one after the other, where the items in front of them are given. -/
inductive Covered (text : List Char) (table : String) :
    List (List Token) → List (List Token) → List ItemAccount → Prop where
  | nil {earlier : List (List Token)} : Covered text table earlier [] []
  | cons {earlier parts : List (List Token)} {item : List Token} {account : ItemAccount}
      {accounts : List ItemAccount} (hitem : account.Covers text table earlier item)
      (hparts : Covered text table (earlier ++ [item]) parts accounts) :
      Covered text table earlier (item :: parts) (account :: accounts)

/-- There are as many columns and remarks that say why there is none as there are items. -/
theorem Covered.balance {text : List Char} {table : String} {earlier parts : List (List Token)}
    {accounts : List ItemAccount} (h : Covered text table earlier parts accounts) :
    (accounts.filterMap ItemAccount.column?).length +
      (accounts.flatMap ItemAccount.remarks).countP Remark.isRefusal = parts.length := by
  induction h with
  | nil => rfl
  | @cons earlier parts item account accounts hitem _ ih =>
    have hone := hitem.one
    rw [List.flatMap_cons, List.countP_append, List.length_cons]
    cases hcolumn : account.column? with
    | none =>
      rw [hcolumn, Option.toList_none, List.length_nil] at hone
      rw [List.filterMap_cons_none hcolumn]
      omega
    | some c =>
      rw [hcolumn, Option.toList_some, List.length_singleton] at hone
      rw [List.filterMap_cons_some hcolumn, List.length_cons]
      omega

/-! ## The outcome of one item -/

/-- The outcome of an item, where the comparable names of earlier columns are given. -/
def ItemReading.outcome (table : String) (names : List String) : ItemReading → ItemOutcome
  | .notAName first => .skipped (.notAName first.value table)
  | .clause first _ => .skipped (.clause first.value)
  | .noType first => .skipped (.noType first.value)
  | .column c => if comparable c.name ∈ names then .duplicate c else .kept c

/-- The comparable names of the columns up to an item. -/
def ItemReading.names (names : List String) : ItemReading → List String
  | .column c => if comparable c.name ∈ names then names else comparable c.name :: names
  | _ => names

/-- The outcome of an item stands in front of those of the others, which know its name. -/
theorem outcomes_cons (table : String) (names : List String) (r : ItemReading)
    (rs : List ItemReading) : outcomes table names (r :: rs) =
      r.outcome table names :: outcomes table (r.names names) rs := by
  cases r with
  | notAName first => rfl
  | clause first key => rfl
  | noType first => rfl
  | column c =>
    rw [outcomes, ItemReading.outcome, ItemReading.names]
    split <;> rfl

/-- The names are the comparable ones of all columns that the items define. -/
def Takes (text : List Char) (earlier : List (List Token)) (names : List String) : Prop :=
  ∀ name, name ∈ names ↔
    ∃ item ∈ earlier, ∃ d, ReadAs text item (.column d) ∧ comparable d.name = name

section

variable {text : List Char} {table : String} {earlier : List (List Token)} {item : List Token}
  {r : ItemReading} {names : List String}

/-- An item has one reading. -/
theorem ReadAs.unique {r' : ItemReading} (h : ReadAs text item r) (h' : ReadAs text item r') :
    r = r' :=
  Option.some.inj ((readAs_iff.mp h).symm.trans (readAs_iff.mp h'))

/-- Items that are none take no names. -/
theorem takes_nil (text : List Char) : Takes text [] [] := by
  simp [Takes]

/-- An item adds the name of the column that it defines. -/
theorem Takes.concat (hnames : Takes text earlier names) (hread : ReadAs text item r) :
    Takes text (earlier ++ [item]) (r.names names) := by
  intro name
  have hitem : (∃ other ∈ earlier ++ [item], ∃ d, ReadAs text other (.column d) ∧
      comparable d.name = name) ↔
        name ∈ names ∨ ∃ d, r = .column d ∧ comparable d.name = name := by
    rw [hnames]
    constructor
    · rintro ⟨other, hother, d, hd, hname⟩
      obtain hother | hother := List.mem_append.mp hother
      · exact .inl ⟨other, hother, d, hd, hname⟩
      · obtain rfl := List.mem_singleton.mp hother
        exact .inr ⟨d, hread.unique hd, hname⟩
    · rintro (⟨other, hother, d, hd, hname⟩ | ⟨d, rfl, hname⟩)
      · exact ⟨other, List.mem_append_left _ hother, d, hd, hname⟩
      · exact ⟨item, List.mem_append_right _ List.mem_cons_self, d, hread, hname⟩
  rw [hitem]
  cases r with
  | notAName first => simp [ItemReading.names]
  | clause first key => simp [ItemReading.names]
  | noType first => simp [ItemReading.names]
  | column c =>
    simp only [ItemReading.names, ItemReading.column.injEq, exists_eq_left']
    split
    · rename_i htaken
      exact ⟨.inl, fun h => h.elim id fun heq => heq ▸ htaken⟩
    · rw [List.mem_cons, or_comm, eq_comm]

/-- A type is unknown exactly if no rule applies to it. -/
theorem ReadAs.typeUnknown_iff {c : Column} (h : ReadAs text item (.column c)) :
    c.typeUnknown = true ↔ JavaType.ofSql? c.sqlType = none := by
  cases h
  exact Option.isNone_iff_eq_none

/-- The one remark about a type says that it is unknown. -/
theorem mem_typeRemarks_iff {c : Column} {remark : Remark} :
    remark ∈ ItemOutcome.typeRemarks c ↔
      c.typeUnknown = true ∧ remark = .unknownType c.sqlType c.name := by
  rw [ItemOutcome.typeRemarks]
  split
  · rename_i hunknown
    simp [hunknown]
  · rename_i hunknown
    simp [hunknown]

/-- The remarks about an item are those that are to be made. -/
theorem mem_remarks_outcome_iff (hnames : Takes text earlier names) (hread : ReadAs text item r)
    {remark : Remark} : remark ∈ (r.outcome table names).remarks table ↔
      Warranted text table earlier item remark := by
  constructor
  · intro hmem
    cases r with
    | notAName first => exact List.mem_singleton.mp hmem ▸ .notAName hread
    | clause first key => exact List.mem_singleton.mp hmem ▸ .clause hread
    | noType first => exact List.mem_singleton.mp hmem ▸ .noType hread
    | column c =>
      have htype (hmem : remark ∈ ItemOutcome.typeRemarks c) :
          Warranted text table earlier item remark := by
        obtain ⟨hunknown, rfl⟩ := mem_typeRemarks_iff.mp hmem
        exact .unknownType hread (hread.typeUnknown_iff.mp hunknown)
      rw [ItemReading.outcome] at hmem
      split at hmem
      · rename_i htaken
        obtain hmem | hmem := List.mem_append.mp hmem
        · exact htype hmem
        · exact List.mem_singleton.mp hmem ▸ .duplicateColumn hread ((hnames _).mp htaken)
      · exact htype hmem
  · intro hwarranted
    cases hwarranted with
    | notAName h =>
      obtain rfl := hread.unique h
      exact List.mem_singleton.mpr rfl
    | clause h =>
      obtain rfl := hread.unique h
      exact List.mem_singleton.mpr rfl
    | noType h =>
      obtain rfl := hread.unique h
      exact List.mem_singleton.mpr rfl
    | @unknownType c h htype =>
      obtain rfl := hread.unique h
      have hmem : Remark.unknownType c.sqlType c.name ∈ ItemOutcome.typeRemarks c :=
        mem_typeRemarks_iff.mpr ⟨h.typeUnknown_iff.mpr htype, rfl⟩
      rw [ItemReading.outcome]
      split
      · exact List.mem_append_left _ hmem
      · exact hmem
    | duplicateColumn h hrepeats =>
      obtain rfl := hread.unique h
      rw [ItemReading.outcome, if_pos ((hnames _).mpr hrepeats)]
      exact List.mem_append_right _ List.mem_cons_self

/-- The account that an outcome gives. -/
def ItemOutcome.account (table : String) (o : ItemOutcome) : ItemAccount :=
  ⟨o.column?, o.remarks table⟩

/-- Remarks about types refuse no column. -/
theorem countP_typeRemarks (c : Column) :
    (ItemOutcome.typeRemarks c).countP Remark.isRefusal = 0 := by
  rw [List.countP_eq_zero]
  intro remark hmem
  obtain ⟨-, rfl⟩ := mem_typeRemarks_iff.mp hmem
  exact Bool.false_ne_true

theorem nodup_typeRemarks (c : Column) : (ItemOutcome.typeRemarks c).Nodup := by
  rw [ItemOutcome.typeRemarks]
  split
  · exact List.nodup_singleton _
  · exact List.nodup_nil

/-- What is left of an item is an account of it. -/
theorem covers_outcome (hnames : Takes text earlier names) (hread : ReadAs text item r) :
    ((r.outcome table names).account table).Covers text table earlier item where
  mem_remarks_iff _ := mem_remarks_outcome_iff hnames hread
  one := by
    cases r with
    | notAName first => rfl
    | clause first key => rfl
    | noType first => rfl
    | column c =>
      rw [ItemReading.outcome]
      split
      · simp [ItemOutcome.account, ItemOutcome.column?, ItemOutcome.remarks, countP_typeRemarks,
          Remark.isRefusal]
      · simp [ItemOutcome.account, ItemOutcome.column?, ItemOutcome.remarks, countP_typeRemarks]
  nodup := by
    cases r with
    | notAName first => exact List.nodup_singleton _
    | clause first key => exact List.nodup_singleton _
    | noType first => exact List.nodup_singleton _
    | column c =>
      rw [ItemReading.outcome]
      split
      · refine (nodup_typeRemarks c).append (List.nodup_singleton _) ?_
        rw [List.disjoint_singleton]
        intro hmem
        exact Remark.noConfusion (mem_typeRemarks_iff.mp hmem).2
      · exact nodup_typeRemarks c
  column_iff d := by
    have hrepeats : comparable d.name ∈ names ↔ Repeats text earlier d := hnames _
    rw [← hrepeats]
    cases r with
    | notAName first => exact iff_of_false nofun fun h => nomatch hread.unique h.1
    | clause first key => exact iff_of_false nofun fun h => nomatch hread.unique h.1
    | noType first => exact iff_of_false nofun fun h => nomatch hread.unique h.1
    | column c =>
      rw [ItemReading.outcome]
      split
      · rename_i htaken
        refine iff_of_false nofun ?_
        rintro ⟨hd, hfree⟩
        obtain rfl := ItemReading.column.inj (hread.unique hd)
        exact hfree htaken
      · rename_i hfree
        constructor
        · intro heq
          obtain rfl : c = d := Option.some.inj heq
          exact ⟨hread, hfree⟩
        · rintro ⟨hd, -⟩
          obtain rfl := ItemReading.column.inj (hread.unique hd)
          rfl

end

/-! ## All items -/

/-- What is left of the items of a section are accounts of them. -/
theorem covered_outcomes {text : List Char} {table : String} {earlier parts : List (List Token)}
    {names : List String} (hnames : Takes text earlier names) (hparts : ∀ item ∈ parts, item ≠ []) :
    Covered text table earlier parts
      ((outcomes table names (parts.filterMap (ItemReading.ofItem? text))).map
        (ItemOutcome.account table)) := by
  induction parts generalizing earlier names with
  | nil => exact .nil
  | cons item parts ih =>
    obtain ⟨hitem, hparts⟩ := List.forall_mem_cons.mp hparts
    obtain ⟨r, hread⟩ := exists_readAs text hitem
    rw [List.filterMap_cons_some (readAs_iff.mp hread), outcomes_cons, List.map_cons]
    exact .cons (covers_outcome hnames hread) (ih (hnames.concat hread) hparts)

/-- The items are accounted for by the columns of the table, of which clauses may mark some, and by
the remarks. -/
structure Reported (text : List Char) (parts : List (List Token)) (t : Table)
    (remarks : List Remark) : Prop where
  covered : ∃ accounts, Covered text t.name [] parts accounts ∧
    List.Forall₂ (MarkedBy parts) (accounts.filterMap ItemAccount.column?) t.columns ∧
    remarks = accounts.flatMap ItemAccount.remarks ++
      if t.columns = [] then [.noColumns t.name] else []
  balance : t.columns.length + remarks.countP Remark.isRefusal = parts.length

/-- A table that is put together from items accounts for them. -/
theorem reported_assemble (text : List Char) (name : String) {parts : List (List Token)}
    (hparts : ∀ item ∈ parts, item ≠ []) :
    Reported text parts (assemble text name parts).1 (assemble text name parts).2 := by
  have hcovered : Covered text name [] parts
      ((outcomes name [] (parts.filterMap (ItemReading.ofItem? text))).map
        (ItemOutcome.account name)) := covered_outcomes (takes_nil text) hparts
  have hkept : ((outcomes name [] (parts.filterMap (ItemReading.ofItem? text))).map
      (ItemOutcome.account name)).filterMap ItemAccount.column? = kept text name [] parts :=
    List.filterMap_map
  have hremarks : (assemble text name parts).2 =
      ((outcomes name [] (parts.filterMap (ItemReading.ofItem? text))).map
        (ItemOutcome.account name)).flatMap ItemAccount.remarks ++
          if (assemble text name parts).1.columns = [] then [.noColumns name] else [] := by
    rw [List.flatMap_map, assemble]
    simp only [List.isEmpty_iff]
    rfl
  have hmarked : List.Forall₂ (MarkedBy parts) (kept text name [] parts)
      (assemble text name parts).1.columns := by
    rw [columns_assemble, List.forall₂_map_right_iff, List.forall₂_same]
    exact fun c hc => markedBy_markKey hc
  refine ⟨⟨_, hcovered, hkept ▸ hmarked, hremarks⟩, ?_⟩
  rw [hremarks, List.countP_append, ← hcovered.balance, hkept, hmarked.length_eq]
  split
  · rfl
  · rfl

/-- The statement is the first one in the text that has a header, which is the given one. -/
def FirstDeclares (text statement : List Char) (h : Header) : Prop :=
  ∃ before after, statements text = before ++ statement :: after ∧
    (∀ s ∈ before, Header.find? (tokenize (String.ofList s)) = none) ∧
    Header.find? (tokenize (String.ofList statement)) = some h

/-- A column section follows the header. -/
def Header.HasSection (h : Header) : Prop :=
  h.rest.head?.any (·.isPunctuation "(") = true

/-- A header in front of a section introduces the table of its items. -/
theorem Header.table_of_hasSection {h : Header} (hsection : h.HasSection) (text : List Char) :
    h.table text = assemble text h.name h.items := by
  rw [HasSection] at hsection
  rw [table, items]
  cases hrest : h.rest with
  | nil =>
    rw [hrest] at hsection
    cases hsection
  | cons t ts =>
    rw [hrest, List.head?_cons, Option.any_some] at hsection
    simp only [if_pos hsection]

/-- A header with no section behind it introduces a table without columns. -/
theorem Header.table_of_not_hasSection {h : Header} (hsection : ¬ h.HasSection)
    (text : List Char) :
    h.table text = (⟨h.name, Naming.className h.name, []⟩, [.noColumnSection h.name]) := by
  rw [HasSection] at hsection
  rw [table]
  cases hrest : h.rest with
  | nil => rfl
  | cons t ts =>
    rw [hrest, List.head?_cons, Option.any_some] at hsection
    simp only [if_neg hsection]

/-- No item of a section is empty. -/
theorem Header.ne_nil_of_mem_items {h : Header} {item : List Token} (hitem : item ∈ h.items) :
    item ≠ [] := by
  rw [items] at hitem
  split at hitem
  · cases hitem
  · split at hitem
    · exact of_decide_eq_true (List.mem_filter.mp hitem).2
    · cases hitem

/-- A table that is read is introduced by the first header of the text. -/
theorem exists_header_of_read {text : String} {t : Table} (h : (read text).result = .ok t) :
    ∃ statement header, FirstDeclares text.toList statement header ∧
      header.table statement = (t, (read text).remarks) := by
  obtain ⟨remarks, hfound⟩ := read_result_iff.mp h
  obtain ⟨before, statement, after, hstatements, htable, hbefore⟩ :=
    List.findSome?_eq_some_iff.mp hfound
  obtain ⟨header, hfind, hheader⟩ := Option.map_eq_some_iff.mp htable
  refine ⟨statement, header, ⟨before, after, hstatements, fun s hs => ?_, hfind⟩, ?_⟩
  · exact Option.map_eq_none_iff.mp (hbefore s hs)
  · rw [hheader, read, hfound]

/-- If a text is read to a table then its first statement with a header gives it.  Where a section
follows the header every item of it gives one column or one remark that says why it gives none, in
their order, and a remark on an unknown type exactly where it defines a column of such a type; and
a table without columns is warned of. -/
theorem remarks_of_read {text : String} {t : Table} (h : (read text).result = .ok t) :
    ∃ statement header, FirstDeclares text.toList statement header ∧ header.name = t.name ∧
      (header.HasSection → Reported statement header.items t (read text).remarks) ∧
      (¬ header.HasSection → t.columns = [] ∧ (read text).remarks = [.noColumnSection t.name]) ∧
      (t.columns = [] → ∃ remark ∈ (read text).remarks, remark.severity = .warning) := by
  obtain ⟨statement, header, hfirst, htable⟩ := exists_header_of_read h
  refine ⟨statement, header, hfirst, ?_⟩
  by_cases hsection : header.HasSection
  · have hreported := reported_assemble statement header.name fun item hitem =>
      Header.ne_nil_of_mem_items (h := header) hitem
    have hassembled := Header.table_of_hasSection hsection statement
    rw [htable] at hassembled
    rw [← hassembled] at hreported
    refine ⟨(congrArg (Table.name ∘ Prod.fst) hassembled).symm, fun _ => hreported,
      fun hnone => absurd hsection hnone, fun hempty => ?_⟩
    obtain ⟨⟨accounts, -, -, hremarks⟩, -⟩ := hreported
    simp only [if_pos hempty] at hremarks
    refine ⟨.noColumns t.name, ?_, rfl⟩
    rw [hremarks]
    exact List.mem_append_right _ List.mem_cons_self
  · rw [Header.table_of_not_hasSection hsection] at htable
    obtain ⟨rfl, hremarks⟩ := Prod.mk.inj htable
    refine ⟨rfl, fun hsome => absurd hsome hsection, fun _ => ⟨rfl, hremarks.symm⟩, fun _ => ?_⟩
    rw [← hremarks]
    exact ⟨_, List.mem_cons_self, rfl⟩

/-- A section with an item of each kind: a number, a clause, an unknown type, a name alone, a
repeated name and a plain column. -/
def mixedText : String :=
  "CREATE TABLE t (1 x, PRIMARY KEY (a), a GEOMETRY, b, A INT, c INT)"

/-- The table that the mixed section is read to. -/
def mixedTable : Table :=
  ⟨"t", "T", [⟨"a", "a", .string, "GEOMETRY", true, false, false, true⟩,
    ⟨"c", "c", .integer, "INT", false, false, true, false⟩]⟩

theorem remarks_of_read_mixed :
    (read mixedText).result = .ok mixedTable ∧
      (read mixedText).remarks = [.notAName "1" "t", .clause "PRIMARY",
        .unknownType "GEOMETRY" "a", .noType "b", .duplicateColumn "A" "t"] ∧
      ∃ statement header, FirstDeclares mixedText.toList statement header ∧ header.HasSection ∧
        Reported statement header.items mixedTable (read mixedText).remarks ∧
        header.items.length = 6 := by
  have hread : read mixedText = ⟨.ok mixedTable, [.notAName "1" "t", .clause "PRIMARY",
      .unknownType "GEOMETRY" "a", .noType "b", .duplicateColumn "A" "t"]⟩ :=
    read_of_isStatement (by decide +kernel)
  have hresult := congrArg Reading.result hread
  have hremarks := congrArg Reading.remarks hread
  obtain ⟨statement, header, hfirst, -, hreported, hnone, -⟩ := remarks_of_read hresult
  have hsection : header.HasSection := by
    by_contra hsection
    exact List.cons_ne_nil _ _ (hnone hsection).1
  refine ⟨hresult, hremarks, statement, header, hfirst, hsection, hreported hsection, ?_⟩
  rw [← (hreported hsection).balance, hremarks]
  decide

end EntityMapper.Sql
