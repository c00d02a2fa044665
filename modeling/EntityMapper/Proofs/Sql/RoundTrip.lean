import EntityMapper.Proofs.Sql.WrittenTokens

/-!
# Written declarations are read back

A text that begins with a written declaration has a first statement that begins with it. The
header of that statement has the written name, the items of its section are the written columns,
and each of them is read as the column that it describes.
-/

namespace EntityMapper.Sql

open Schema

/-! ## Words and marks -/

/-- Whether a word is one of the given ones does not hang on where it stands. -/
theorem isWordIn_word (value : String) (index : Nat) (words : List String) :
    (word value index).isWordIn words = (word value 0).isWordIn words := rfl

@[simp] theorem kind_word (value : String) (index : Nat) : (word value index).kind = .word := rfl

@[simp] theorem kind_number (ds : List Char) (index : Nat) : (number ds index).kind = .number := rfl

@[simp] theorem kind_quotedName (name : String) (index : Nat) :
    (quotedName name index).kind = .quoted := rfl

/-- Only punctuation is a mark. -/
theorem isPunctuation_of_kind {t : Token} (h : t.kind ≠ .punctuation) (m : String) :
    t.isPunctuation m = false := by
  simp [Token.isPunctuation, h]

/-! ## The header -/

/-- The first header of a written declaration has the written name. -/
theorem find?_headerTokens (ifNotExists : Bool) {name : String} (hne : name ≠ "")
    (more : List Token) :
    ∃ index, Header.find? (headerTokens ifNotExists name 0 ++ more) =
      some ⟨name, mark '(' index :: more⟩ := by
  have hcreate : (word "CREATE" 0).isWord "CREATE" = true := by decide
  have hmodifier : (word "TABLE" 7).isWordIn tableModifiers = false := by decide
  have htable : (word "TABLE" 7).isWord "TABLE" = true := by decide
  have hexists : (word "IF" 13).isWord "IF" = true ∧ (word "NOT" 16).isWord "NOT" = true ∧
      (word "EXISTS" 20).isWord "EXISTS" = true := by decide
  have hnamed (i j : Nat) : Header.named? (quotedName name i :: mark '(' j :: more) =
      some ⟨name, mark '(' j :: more⟩ := by
    have hqualified : Header.qualified name (mark '(' j :: more) = ⟨name, mark '(' j :: more⟩ := by
      cases more with
      | nil => rfl
      | cons t ts => rfl
    change (if (true && name != "") = true then
      (let header := Header.qualified name (mark '(' j :: more)
       if header.name = "" then none else some header) else none) = _
    rw [if_pos (by simpa using hne), hqualified]
    exact if_neg hne
  cases ifNotExists with
  | false =>
    refine ⟨0 + (introText false).length + 1 + (inBackticks name.toList).length + 1, ?_⟩
    change Header.find? (word "CREATE" 0 :: word "TABLE" 7 :: quotedName name _ ::
      mark '(' _ :: more) = _
    rw [Header.find?, if_pos hcreate, Header.afterCreate?,
      List.dropWhile_cons_of_neg (by simp [hmodifier])]
    dsimp only
    rw [if_pos htable, if_neg (by simp [beginsWith, quotedName, Token.isWord, Token.isWordIn]),
      hnamed]
  | true =>
    refine ⟨0 + (introText true).length + 1 + (inBackticks name.toList).length + 1, ?_⟩
    change Header.find? (word "CREATE" 0 :: word "TABLE" 7 :: word "IF" 13 :: word "NOT" 16 ::
      word "EXISTS" 20 :: quotedName name _ :: mark '(' _ :: more) = _
    rw [Header.find?, if_pos hcreate, Header.afterCreate?,
      List.dropWhile_cons_of_neg (by simp [hmodifier])]
    dsimp only
    rw [if_pos htable, if_pos (by simp [beginsWith, hexists]), List.drop_succ_cons,
      List.drop_succ_cons, List.drop_succ_cons, List.drop_zero, hnamed]

/-! ## The items of a section -/

/-- Cutting a section at its commas goes through tokens from one depth to another without a cut. -/
def Passes (depth : Nat) (ts : List Token) (depth' : Nat) : Prop :=
  ∀ read more, itemsFrom depth read (ts ++ more) = itemsFrom depth' (ts.reverse ++ read) more

theorem Passes.nil (depth : Nat) : Passes depth [] depth := fun _ _ => rfl

/-- A token that leads from one depth to another stands in front of those that lead on. -/
theorem Passes.cons {depth depth' depth'' : Nat} {t : Token} {ts : List Token}
    (ht : Passes depth [t] depth') (hts : Passes depth' ts depth'') :
    Passes depth (t :: ts) depth'' := by
  intro read more
  have h := ht read (ts ++ more)
  rw [List.singleton_append] at h
  rw [List.cons_append, h, hts, List.reverse_singleton, List.reverse_cons, List.append_assoc]

/-- Rows that lead from depth to depth can be put together. -/
theorem Passes.append {depth depth' depth'' : Nat} {xs ys : List Token}
    (hx : Passes depth xs depth') (hy : Passes depth' ys depth'') :
    Passes depth (xs ++ ys) depth'' := by
  intro read more
  rw [List.append_assoc, hx, hy, List.reverse_append, List.append_assoc]

/-- A token that is no punctuation stays at its depth. -/
theorem passes_of_not_mark {t : Token} (h : t.kind ≠ .punctuation) (depth : Nat) :
    Passes depth [t] depth := by
  intro read more
  rw [List.singleton_append, itemsFrom.eq_def]
  simp [isPunctuation_of_kind h]

/-- Tokens without punctuation stay at their depth. -/
theorem passes_of_not_marks {ts : List Token} (h : ∀ t ∈ ts, t.kind ≠ .punctuation)
    (depth : Nat) : Passes depth ts depth := by
  induction ts with
  | nil => exact .nil depth
  | cons t ts ih =>
    exact (passes_of_not_mark (h t List.mem_cons_self) depth).cons
      (ih fun u hu => h u (List.mem_cons_of_mem t hu))

/-- An opening parenthesis leads one level down. -/
theorem passes_opening (depth index : Nat) : Passes depth [mark '(' index] (depth + 1) := by
  intro read more
  rw [List.singleton_append, itemsFrom.eq_def]
  rfl

/-- A closing parenthesis leads one level up. -/
theorem passes_closing (depth index : Nat) : Passes (depth + 1) [mark ')' index] depth := by
  intro read more
  rw [List.singleton_append, itemsFrom.eq_def]
  rfl

/-- A comma inside parentheses stays at its depth. -/
theorem passes_comma (depth index : Nat) :
    Passes (depth + 1) [mark ',' index] (depth + 1) := by
  intro read more
  rw [List.singleton_append, itemsFrom.eq_def]
  rfl

/-- The arguments that follow close the list that they stand in. -/
theorem passes_moreArguments (dss : List (List Char)) (depth index : Nat) :
    Passes (depth + 1) (moreArgumentsTokens dss index) depth := by
  induction dss generalizing index with
  | nil => exact passes_closing depth index
  | cons ds dss ih =>
    exact (passes_comma depth index).cons ((passes_of_not_mark (by simp) _).cons (ih _))

/-- An argument list is passed over from its opening to its closing parenthesis. -/
theorem passes_arguments (dss : List (List Char)) (depth index : Nat) :
    Passes depth (argumentsTokens dss index) depth := by
  cases dss with
  | nil => exact .nil depth
  | cons ds dss =>
    exact (passes_opening depth index).cons
      ((passes_of_not_mark (by simp) _).cons (passes_moreArguments dss depth _))

/-- Constraints are written in words. -/
theorem kind_of_mem_constraintsTokens {ks : List Constraint} {index : Nat} {t : Token}
    (h : t ∈ constraintsTokens ks index) : t.kind = .word := by
  induction ks generalizing index with
  | nil => cases h
  | cons k ks ih =>
    obtain h | h := List.mem_append.mp h
    · cases k with
      | notNull | primaryKey =>
        obtain rfl | h := List.mem_cons.mp h
        · rfl
        · obtain rfl := List.mem_singleton.mp h
          rfl
      | autoIncrement =>
        obtain rfl := List.mem_singleton.mp h
        rfl
    · exact ih h

/-- The tokens of a column stay together in one item. -/
theorem passes_column (c : WrittenColumn) (index : Nat) : Passes 0 (c.tokens index) 0 :=
  (passes_of_not_mark (by simp) 0).cons <| (passes_of_not_mark (by simp) 0).cons <|
    (passes_arguments c.arguments 0 _).append <| passes_of_not_marks
      (fun _ ht => by simp [kind_of_mem_constraintsTokens ht]) 0

/-- The items behind the first column. -/
def moreItems : List WrittenColumn → Nat → List (List Token)
  | [], _ => []
  | c :: cs, index => c.tokens (index + 2) :: moreItems cs (index + 2 + c.text.length)

/-- The items of a section, one for each column. -/
def sectionItems : List WrittenColumn → Nat → List (List Token)
  | [], _ => []
  | c :: cs, index => c.tokens index :: moreItems cs (index + c.text.length)

/-- The columns that follow are an item each, and the last one ends the section. -/
theorem itemsFrom_moreColumns (cs : List WrittenColumn) (read more : List Token) (index : Nat) :
    itemsFrom 0 read (moreColumnsTokens cs index ++ more) =
      read.reverse :: moreItems cs index := by
  induction cs generalizing read index with
  | nil => rfl
  | cons c cs ih =>
    rw [moreColumnsTokens, List.cons_append, itemsFrom.eq_def]
    change read.reverse :: itemsFrom 0 [] (c.tokens (index + 2) ++
      moreColumnsTokens cs (index + 2 + c.text.length) ++ more) = _
    rw [List.append_assoc, passes_column, List.append_nil, ih, List.reverse_reverse, moreItems]

/-- No item of written columns is empty. -/
theorem moreItems_ne_nil {cs : List WrittenColumn} {index : Nat} :
    ∀ item ∈ moreItems cs index, item ≠ [] := by
  induction cs generalizing index with
  | nil => exact fun _ h => absurd h List.not_mem_nil
  | cons c cs ih =>
    intro item h
    obtain rfl | h := List.mem_cons.mp h
    · exact List.cons_ne_nil _ _
    · exact ih item h

/-- The items of a written section are its columns, whatever comes behind the section. -/
theorem items_sectionTokens (cs : List WrittenColumn) (index : Nat) (more : List Token) :
    items (sectionTokens cs index ++ more) = sectionItems cs index := by
  cases cs with
  | nil => rfl
  | cons c cs =>
    rw [items, sectionTokens, List.append_assoc, passes_column, itemsFrom_moreColumns,
      List.append_nil, List.reverse_reverse, sectionItems, List.filter_eq_self]
    intro item h
    obtain rfl | h := List.mem_cons.mp h
    · exact decide_eq_true (List.cons_ne_nil _ _)
    · exact decide_eq_true (moreItems_ne_nil item h)

/-! ## Constraints -/

/-- A word that is written in upper case is only itself. -/
theorem isWord_word {value : String} (h : String.ofList (Text.upper value.toList) = value)
    (index : Nat) (w : String) : (word value index).isWord w = (value == w) := by
  rw [Token.isWord, isWordIn_word, Token.isWordIn, Token.upper, word, h, Bool.eq_iff_iff]
  simp

theorem isWord_not (index : Nat) (w : String) : (word "NOT" index).isWord w = ("NOT" == w) :=
  isWord_word (by decide) index w

theorem isWord_null (index : Nat) (w : String) : (word "NULL" index).isWord w = ("NULL" == w) :=
  isWord_word (by decide) index w

theorem isWord_primary (index : Nat) (w : String) :
    (word "PRIMARY" index).isWord w = ("PRIMARY" == w) :=
  isWord_word (by decide) index w

theorem isWord_key (index : Nat) (w : String) : (word "KEY" index).isWord w = ("KEY" == w) :=
  isWord_word (by decide) index w

theorem isWord_autoIncrement (index : Nat) (w : String) :
    (word "AUTO_INCREMENT" index).isWord w = ("AUTO_INCREMENT" == w) :=
  isWord_word (by decide) index w

/-- The words of a constraint stand together exactly where it is written. -/
theorem hasSequence_notNull (ks : List Constraint) (index : Nat) :
    hasSequence ["NOT", "NULL"] (constraintsTokens ks index) = decide (.notNull ∈ ks) := by
  induction ks generalizing index with
  | nil => rfl
  | cons k ks ih =>
    cases k <;> simp [constraintsTokens, Constraint.tokens, hasSequence, beginsWith, ih,
      isWord_not, isWord_null, isWord_primary, isWord_key, isWord_autoIncrement]

/-- The words that make a key stand together exactly where the constraint is written. -/
theorem hasSequence_primaryKey (ks : List Constraint) (index : Nat) :
    hasSequence ["PRIMARY", "KEY"] (constraintsTokens ks index) = decide (.primaryKey ∈ ks) := by
  induction ks generalizing index with
  | nil => rfl
  | cons k ks ih =>
    cases k <;> simp [constraintsTokens, Constraint.tokens, hasSequence, beginsWith, ih,
      isWord_not, isWord_null, isWord_primary, isWord_key, isWord_autoIncrement]

/-- A word for automatic numbers is there exactly where the constraint is written. -/
theorem any_autoIncrement (ks : List Constraint) (index : Nat) :
    (constraintsTokens ks index).any (·.isWordIn autoIncrementWords) =
      decide (.autoIncrement ∈ ks) := by
  have hmarked : ∀ k : Constraint, ((k.tokens 0).any (·.isWordIn autoIncrementWords)) =
      decide (k = .autoIncrement) := by
    intro k
    cases k <;> decide
  induction ks generalizing index with
  | nil => rfl
  | cons k ks ih =>
    have hk : ((k.tokens (index + 1)).any (·.isWordIn autoIncrementWords)) =
        decide (k = .autoIncrement) := by
      rw [← hmarked k]
      cases k <;> rfl
    rw [constraintsTokens, List.any_append, hk, ih]
    cases k <;> simp

/-- Constraints stand outside parentheses. -/
theorem topLevel_constraintsTokens (ks : List Constraint) (index : Nat) :
    topLevel (constraintsTokens ks index) = constraintsTokens ks index := by
  have h : ∀ ts : List Token, (∀ t ∈ ts, t.kind = .word) → topLevelFrom 0 ts = ts := by
    intro ts hts
    induction ts with
    | nil => rfl
    | cons t ts ih =>
      have hmark := isPunctuation_of_kind (t := t) (by simp [hts t List.mem_cons_self])
      rw [topLevelFrom, if_neg (by simp [hmark]), if_neg (by simp [hmark]), if_pos rfl,
        ih fun u hu => hts u (List.mem_cons_of_mem t hu)]
  exact h _ fun _ ht => kind_of_mem_constraintsTokens ht

/-! ## Declared types -/

/-- The argument list of a written type is closed where its text ends. -/
theorem closeGroup_moreArguments (dss : List (List Char)) (index : Nat) (more : List Token) :
    closeGroup 1 (moreArgumentsTokens dss index ++ more) =
      some (index + (moreArgumentsText dss).length, more) := by
  induction dss generalizing index with
  | nil => rfl
  | cons ds dss ih =>
    change closeGroup 1 (moreArgumentsTokens dss (index + 1 + ds.length) ++ more) = _
    rw [ih, moreArgumentsText, List.length_cons, List.length_append]
    simp only [Nat.add_assoc, Nat.add_comm 1]

/-- A declared type ends behind its arguments. -/
theorem typeExtent_arguments (keyword : String) (dss : List (List Char)) (ks : List Constraint)
    (index next : Nat) :
    typeExtent (word keyword index)
        (argumentsTokens dss (index + keyword.toList.length) ++ constraintsTokens ks next) =
      (index + (keyword.toList ++ argumentsText dss).length, constraintsTokens ks next) := by
  cases dss with
  | nil =>
    have hstop : (word keyword index).stop =
      index + (keyword.toList ++ argumentsText []).length := by
      simp [word, argumentsText, String.length_toList]
    change typeExtent (word keyword index) (constraintsTokens ks next) = _
    rw [← hstop]
    cases hts : constraintsTokens ks next with
    | nil => rfl
    | cons t ts =>
      have hkind : t.kind = .word := kind_of_mem_constraintsTokens (hts ▸ List.mem_cons_self)
      rw [typeExtent, if_neg (by simp [isPunctuation_of_kind, hkind])]
  | cons ds dss =>
    have hclose := closeGroup_moreArguments dss (index + keyword.toList.length + 1 + ds.length)
      (constraintsTokens ks next)
    have hnumber (ts : List Token) : closeGroup 1 (number ds (index + keyword.toList.length + 1) ::
        ts) = closeGroup 1 ts := rfl
    have hopening : (mark '(' (index + keyword.toList.length)).isPunctuation "(" = true := rfl
    rw [argumentsTokens, List.cons_append, List.cons_append, typeExtent, if_pos hopening, hnumber,
      hclose]
    simp [argumentsText, Nat.add_assoc, Nat.add_comm 1]

/-- Written argument lists hold nothing but digits and the marks around them. -/
theorem isArgument_of_mem_argumentsText {dss : List (List Char)}
    (h : ∀ ds ∈ dss, ∀ d ∈ ds, d.isDigit = true) :
    ∀ c ∈ argumentsText dss, JavaType.isArgument c = true := by
  have hdigits {ds : List Char} (hds : ∀ d ∈ ds, d.isDigit = true) :
      ∀ d ∈ ds, JavaType.isArgument d = true := fun d hd => by
    simp [JavaType.isArgument, hds d hd]
  have hmore : ∀ dss : List (List Char), (∀ ds ∈ dss, ∀ d ∈ ds, d.isDigit = true) →
      ∀ c ∈ moreArgumentsText dss, JavaType.isArgument c = true := by
    intro dss h
    induction dss with
    | nil => simp [moreArgumentsText, JavaType.isArgument]
    | cons ds dss ih =>
      rw [moreArgumentsText, List.forall_mem_cons, List.forall_mem_append]
      exact ⟨by decide, hdigits (h ds List.mem_cons_self),
        ih fun es hes => h es (List.mem_cons_of_mem ds hes)⟩
  cases dss with
  | nil => simp [argumentsText]
  | cons ds dss =>
    rw [argumentsText, List.forall_mem_cons, List.forall_mem_append]
    exact ⟨by decide, hdigits (h ds List.mem_cons_self),
      hmore dss fun es hes => h es (List.mem_cons_of_mem ds hes)⟩

/-! ## The columns -/

/-- The Java type of the declared type is the one that its keyword stands for. -/
theorem WrittenColumn.ofSql?_typeText (c : WrittenColumn) :
    JavaType.ofSql? (String.ofList c.typeText) = some c.rule.2 :=
  JavaType.ofSql?_spelled c.rule_mem c.keyword_mem
    (isArgument_of_mem_argumentsText c.arguments_digits)

/-- Whether the type numbers its rows is told by the word in front of its arguments. -/
theorem WrittenColumn.occurs_serial (c : WrittenColumn) (index : Nat) :
    Text.occurs "SERIAL".toList (word c.keyword index).upper.toList =
      Text.occurs "SERIAL".toList c.typeText := by
  have hupper : (word c.keyword index).upper.toList = c.keyword.toList := by
    rw [Token.upper, String.toList_ofList, word,
      JavaType.upper_keyword c.keyword c.keyword_mem_keywords]
  rw [hupper, WrittenColumn.typeText, JavaType.occurs_spelled List.mem_cons_self
    (isArgument_of_mem_argumentsText c.arguments_digits)]

/-- The definition that a written column is read as. -/
def WrittenColumn.definition (c : WrittenColumn) (index : Nat) : Definition :=
  { name := quotedName c.name index
    type := word c.keyword (index + c.typeStart)
    typeStop := index + c.typeStart + c.typeText.length
    rest := constraintsTokens c.constraints (index + c.typeStart + c.typeText.length) }

/-- The item of a written column is read as its definition. -/
theorem WrittenColumn.ofItem?_tokens (c : WrittenColumn) (index : Nat) :
    Definition.ofItem? (c.tokens index) = some (c.definition index) := by
  have hextent := typeExtent_arguments c.keyword c.arguments c.constraints
    (index + c.typeStart) (index + c.typeStart + c.typeText.length)
  rw [tokens, Definition.ofItem?, hextent, if_pos (by simpa [quotedName] using c.name_ne)]
  rfl

/-- The type is cut out of the text as it was written. -/
theorem WrittenColumn.slice_text (c : WrittenColumn) (before after : List Char) :
    slice (before ++ c.text ++ after) (before.length + c.typeStart)
      (before.length + c.typeStart + c.typeText.length) = c.typeText := by
  have htext : before ++ c.text ++ after = (before ++ (inBackticks c.name.toList ++ [' '])) ++
      c.typeText ++ (constraintsText c.constraints ++ after) := by
    simp [text]
  have hstart : before.length + c.typeStart =
      (before ++ (inBackticks c.name.toList ++ [' '])).length := by
    simp [typeStart]
  rw [htext, hstart, slice_append_append]

/-- The definition describes the written column. -/
theorem WrittenColumn.column_definition (c : WrittenColumn) (before after : List Char) :
    (c.definition before.length).column (before ++ c.text ++ after) = c.column := by
  have hsql : (c.definition before.length).sqlType (before ++ c.text ++ after) =
      String.ofList c.typeText := congrArg String.ofList (c.slice_text before after)
  have hkey : (c.definition before.length).isKey = decide (.primaryKey ∈ c.constraints) := by
    rw [Definition.isKey, definition, topLevel_constraintsTokens, hasSequence_primaryKey]
  have hnull : (c.definition before.length).isNotNull = decide (.notNull ∈ c.constraints) := by
    rw [Definition.isNotNull, definition, topLevel_constraintsTokens, hasSequence_notNull]
  have hserial : (c.definition before.length).isAutoIncrement =
      (Text.occurs "SERIAL".toList c.typeText || decide (.autoIncrement ∈ c.constraints)) := by
    rw [Definition.isAutoIncrement, definition, topLevel_constraintsTokens, any_autoIncrement,
      occurs_serial]
  rw [Definition.column, hsql, hkey, hnull, hserial, JavaType.ofSql, ofSql?_typeText, column]
  simp [definition, quotedName]

/-- A written column is read as the column that it describes, wherever it stands in a text. -/
theorem WrittenColumn.defines (c : WrittenColumn) (before after : List Char) :
    ItemReading.ofItem? (before ++ c.text ++ after) (c.tokens before.length) =
      some (.column c.column) := by
  have hclause : beginsClause (quotedName c.name before.length) = false := by
    have hmem : clauseWords.contains (quotedName c.name before.length).upper = false := by
      rw [List.contains_eq_mem, decide_eq_false_iff_not]
      exact c.name_not_clause
    rw [beginsClause, hmem]
    rfl
  rw [tokens, ItemReading.ofItem?, if_neg (by simp [Token.isIdentifier]), hclause,
    ← tokens, ofItem?_tokens]
  dsimp only
  rw [if_neg Bool.false_ne_true, column_definition]

/-- Each item of written columns is read as its column. -/
theorem filterMap_moreItems (cs : List WrittenColumn) (before after : List Char) :
    (moreItems cs before.length).filterMap
        (ItemReading.ofItem? (before ++ moreColumnsText cs ++ after)) =
      cs.map fun c => .column c.column := by
  induction cs generalizing before with
  | nil => rfl
  | cons c cs ih =>
    have htext : before ++ moreColumnsText (c :: cs) ++ after =
        (before ++ [',', ' ']) ++ c.text ++ (moreColumnsText cs ++ after) := by
      simp [moreColumnsText]
    have hmore : before ++ moreColumnsText (c :: cs) ++ after =
        (before ++ [',', ' '] ++ c.text) ++ moreColumnsText cs ++ after := by
      simp [moreColumnsText]
    have hlength : before.length + 2 = (before ++ [',', ' ']).length := by simp
    have hc := c.defines (before ++ [',', ' ']) (moreColumnsText cs ++ after)
    have hcs := ih (before ++ [',', ' '] ++ c.text)
    rw [← htext] at hc
    rw [← hmore, List.length_append] at hcs
    rw [moreItems, hlength, List.filterMap_cons, hc, hcs]
    rfl

/-- The items of a written section are read as its columns. -/
theorem filterMap_sectionItems (cs : List WrittenColumn) (before after : List Char) :
    (sectionItems cs before.length).filterMap
        (ItemReading.ofItem? (before ++ sectionText cs ++ after)) =
      cs.map fun c => .column c.column := by
  cases cs with
  | nil => rfl
  | cons c cs =>
    have htext : before ++ sectionText (c :: cs) ++ after =
        before ++ c.text ++ (moreColumnsText cs ++ after) := by
      simp [sectionText]
    have hmore : before ++ sectionText (c :: cs) ++ after =
        (before ++ c.text) ++ moreColumnsText cs ++ after := by
      simp [sectionText]
    have hc := c.defines before (moreColumnsText cs ++ after)
    have hcs := filterMap_moreItems cs (before ++ c.text) after
    rw [← htext] at hc
    rw [← hmore, List.length_append] at hcs
    rw [sectionItems, List.filterMap_cons, hc, hcs]
    rfl

/-! ## The table -/

/-- Columns of different names are all kept, and their names are taken for what comes behind. -/
theorem outcomes_append (table : String) {taken : List String} {columns : List Column}
    (hnodup : (columns.map fun c => comparable c.name).Nodup)
    (htaken : ∀ c ∈ columns, comparable c.name ∉ taken) (rs : List ItemReading) :
    outcomes table taken (columns.map .column ++ rs) = columns.map .kept ++
      outcomes table ((columns.map fun c => comparable c.name).reverse ++ taken) rs := by
  induction columns generalizing taken with
  | nil => rfl
  | cons c columns ih =>
    rw [List.map_cons, List.nodup_cons] at hnodup
    have htaken' : ∀ d ∈ columns, comparable d.name ∉ comparable c.name :: taken := by
      intro d hd hmem
      obtain heq | hmem := List.mem_cons.mp hmem
      · exact hnodup.1 (List.mem_map.mpr ⟨d, hd, heq⟩)
      · exact htaken d (List.mem_cons_of_mem c hd) hmem
    rw [List.map_cons, List.cons_append, outcomes, if_neg (htaken c List.mem_cons_self),
      ih hnodup.2 htaken']
    simp

/-- Columns of different names are all kept. -/
theorem outcomes_columns (table : String) {taken : List String} {columns : List Column}
    (hnodup : (columns.map fun c => comparable c.name).Nodup)
    (htaken : ∀ c ∈ columns, comparable c.name ∉ taken) :
    outcomes table taken (columns.map .column) = columns.map .kept := by
  have hall := outcomes_append table hnodup htaken []
  rwa [outcomes, List.append_nil, List.append_nil] at hall

theorem markKey_nil (c : Column) : markKey [] c = c :=
  if_neg List.not_mem_nil

/-- Items that are read as columns of different names are put together to these columns. -/
theorem assemble_columns {text : List Char} {parts : List (List Token)} {columns : List Column}
    (name : String)
    (hparts : parts.filterMap (ItemReading.ofItem? text) = columns.map .column)
    (hnodup : (columns.map fun c => comparable c.name).Nodup) :
    (assemble text name parts).1 = ⟨name, Naming.className name, columns⟩ := by
  have hkeys : clauseKeys (columns.map ItemReading.column) = [] := by
    rw [clauseKeys, List.filterMap_map, List.filterMap_eq_nil_iff]
    exact fun _ _ => rfl
  have hkept : (columns.map ItemOutcome.kept).filterMap ItemOutcome.column? = columns := by
    rw [List.filterMap_map]
    exact List.filterMap_some
  rw [assemble, hparts]
  dsimp only
  rw [outcomes_columns name hnodup (fun _ _ => List.not_mem_nil), hkept, hkeys,
    List.map_congr_left fun c _ => markKey_nil c, List.map_id']

/-- The tokens of a text begin with those of the written declaration that it begins with. -/
theorem tokenize_declaration (ifNotExists : Bool) (name : String) (columns : List WrittenColumn)
    (after : List Char) :
    ∃ more, tokenize (String.ofList (headerText ifNotExists name ++ sectionText columns ++ after)) =
      headerTokens ifNotExists name 0 ++
        (sectionTokens columns (headerText ifNotExists name).length ++ more) := by
  obtain ⟨ls, hls, -, htokens⟩ := yields_declaration ifNotExists name columns after
  have hzero := htokens 0
  dsimp only at hzero
  rw [Nat.zero_add] at hzero
  refine ⟨tokensFrom (0 + (textOf ls).length) (lexemesAt
    ⟨(headerText ifNotExists name ++ sectionText columns).getLast?.or none, after⟩), ?_⟩
  rw [tokenize, String.toList_ofList, lexemes_eq, Cursor.start, hls, tokensFrom_append, hzero,
    List.append_assoc]

/-- A statement that begins with a written declaration declares its table. -/
theorem tableOf?_declaration (ifNotExists : Bool) {name : String} (hname : name ≠ "")
    {columns : List WrittenColumn} (hnodup : (columns.map fun c => comparable c.name).Nodup)
    (after : List Char) :
    ∃ remarks, tableOf? (headerText ifNotExists name ++ sectionText columns ++ after) =
      some (⟨name, Naming.className name, columns.map WrittenColumn.column⟩, remarks) := by
  obtain ⟨more, htokens⟩ := tokenize_declaration ifNotExists name columns after
  obtain ⟨index, hfind⟩ := find?_headerTokens ifNotExists hname
    (sectionTokens columns (headerText ifNotExists name).length ++ more)
  have hreadings := filterMap_sectionItems columns (headerText ifNotExists name) after
  rw [← items_sectionTokens columns _ more, ← Function.comp_def ItemReading.column,
    ← List.map_map] at hreadings
  have hnames : ((columns.map WrittenColumn.column).map fun c => comparable c.name).Nodup := by
    rw [List.map_map]
    exact hnodup
  have htable := assemble_columns name hreadings hnames
  refine ⟨(assemble (headerText ifNotExists name ++ sectionText columns ++ after) name
    (items (sectionTokens columns (headerText ifNotExists name).length ++ more))).2, ?_⟩
  rw [tableOf?, htokens, hfind, Option.map_some, ← htable]
  rfl

/-- A column section ends with a parenthesis. -/
theorem getLast?_sectionText (columns : List WrittenColumn) :
    (sectionText columns).getLast? = some ')' := by
  have hmore : ∀ columns : List WrittenColumn,
      (moreColumnsText columns).getLast? = some ')' := by
    intro columns
    induction columns with
    | nil => rfl
    | cons c columns ih =>
      rw [moreColumnsText, List.getLast?_append, List.getLast?_append, ih]
      rfl
  cases columns with
  | nil => rfl
  | cons c columns =>
    rw [sectionText, List.getLast?_append, hmore]
    rfl

/-- A written declaration is read back, whatever comes behind it: the table has the written name
and the written columns in their order. -/
theorem read_declarationText (ifNotExists : Bool) {name : String} (hname : name ≠ "")
    {columns : List WrittenColumn} (hnodup : (columns.map fun c => comparable c.name).Nodup)
    (tail : String) : (read (declarationText ifNotExists name columns ++ tail)).result =
      .ok ⟨name, Naming.className name, columns.map WrittenColumn.column⟩ := by
  obtain ⟨ls, hls, hcalm, -⟩ := yields_declaration ifNotExists name columns tail.toList
  have hfirst : (headerText ifNotExists name ++ sectionText columns).head? = some 'C' := by
    have hcreate : "CREATE TABLE".toList.head? = some 'C' := by decide
    unfold headerText introText
    simp only [List.head?_append, hcreate, Option.some_or]
  have hlast : (headerText ifNotExists name ++ sectionText columns).getLast? = some ')' := by
    rw [List.getLast?_append, getLast?_sectionText, Option.some_or]
  have hlexemes := (lexemes_eq _).trans hls
  obtain ⟨after, others, hstatements⟩ := statements_calm hlexemes (textOf_of_lexemesAt hls) hcalm
    hfirst hlast (by decide) (by decide)
  obtain ⟨remarks, htable⟩ := tableOf?_declaration ifNotExists hname hnodup after
  rw [read, String.toList_append, declarationText, String.toList_ofList, hstatements,
    List.findSome?_cons, htable]

/-- A column whose name holds marks of a column section. -/
def priceColumn : WrittenColumn where
  name := "price, (net);"
  rule := (["DECIMAL", "NUMERIC"], .bigDecimal)
  keyword := "DECIMAL"
  arguments := [['1', '0'], ['2']]
  constraints := [.notNull]
  name_ne := by decide
  name_not_clause := by decide
  rule_mem := by decide
  keyword_mem := by decide
  arguments_ne := by decide
  arguments_digits := by decide

theorem read_declarationText_priceColumn :
    "a`b" ≠ "" ∧ ([priceColumn].map fun c => comparable c.name).Nodup ∧
      (read (declarationText true "a`b" [priceColumn] ++ "; DROP TABLE `a``b`")).result =
        .ok ⟨"a`b", Naming.className "a`b", [priceColumn.column]⟩ :=
  ⟨by decide, by simp,
    read_declarationText true (by decide) (by simp) "; DROP TABLE `a``b`"⟩

example : declarationText true "a`b" [priceColumn] =
    "CREATE TABLE IF NOT EXISTS `a``b` (`price, (net);` DECIMAL(10,2) NOT NULL)" := by
  decide

end EntityMapper.Sql
