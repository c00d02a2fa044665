import EntityMapper.Proofs.Sql.Written

/-!
# The tokens of written declarations

Each part of a written declaration is read as lexemes of its own, whatever comes behind it, and
yields the tokens that are listed for it. Where a part ends in a word or in a row of digits, this
needs that the next part begins with one of a few texts.
-/

namespace EntityMapper.Sql

open Schema

/-- A written number is one token. -/
theorem yields_number {ds : List Char} (hne : ds ≠ []) (hds : ∀ d ∈ ds, d.isDigit = true)
    {last : Char} (hlast : last ∈ argumentEnds) (before : Option Char) (rest : List Char) :
    Yields before ds (last :: rest) fun index => [number ds index] :=
  yields_digits hne hds hlast before rest

/-- The arguments behind a row of digits begin with a character that ends the row. -/
theorem moreArgumentsText_eq_cons (dss : List (List Char)) :
    ∃ last ∈ argumentEnds, ∃ cs, moreArgumentsText dss = last :: cs := by
  cases dss with
  | nil => exact ⟨')', by decide, [], rfl⟩
  | cons ds dss => exact ⟨',', by decide, _, rfl⟩

/-- A mark, a row of digits and the arguments behind it are read one after the other. -/
theorem yields_argument {c : Char} (hc : c ∈ sectionMarks) {ds : List Char} (hne : ds ≠ [])
    (hds : ∀ d ∈ ds, d.isDigit = true) {dss : List (List Char)} {rest : List Char}
    {more : Nat → List Token} (before : Option Char)
    (hmore : ∀ before, Yields before (moreArgumentsText dss) rest more) :
    Yields before (c :: (ds ++ moreArgumentsText dss)) rest fun index =>
      mark c index :: number ds (index + 1) :: more (index + 1 + ds.length) := by
  obtain ⟨last, hlast, cs, hcs⟩ := moreArgumentsText_eq_cons dss
  have hnumber : Yields (some c) ds (moreArgumentsText dss ++ rest) fun index =>
      [number ds index] := by
    rw [hcs]
    exact yields_number hne hds hlast (some c) (cs ++ rest)
  have hrest := hnumber.append (hmore _)
  exact (yields_mark hc before (ds ++ moreArgumentsText dss ++ rest)).append hrest

/-- The arguments that follow are numbers with commas between them, up to the parenthesis. -/
theorem yields_moreArguments {dss : List (List Char)} (hne : ∀ ds ∈ dss, ds ≠ [])
    (hdss : ∀ ds ∈ dss, ∀ d ∈ ds, d.isDigit = true) (before : Option Char) (rest : List Char) :
    Yields before (moreArgumentsText dss) rest (moreArgumentsTokens dss) := by
  induction dss generalizing before with
  | nil => exact yields_mark (by decide) before rest
  | cons ds dss ih =>
    exact yields_argument (by decide) (hne ds List.mem_cons_self) (hdss ds List.mem_cons_self)
      before fun before => ih (fun es hes => hne es (List.mem_cons_of_mem ds hes))
        (fun es hes => hdss es (List.mem_cons_of_mem ds hes)) before

/-- A written argument list is read as its tokens. -/
theorem yields_arguments {dss : List (List Char)} (hne : ∀ ds ∈ dss, ds ≠ [])
    (hdss : ∀ ds ∈ dss, ∀ d ∈ ds, d.isDigit = true) (before : Option Char) (rest : List Char) :
    Yields before (argumentsText dss) rest (argumentsTokens dss) := by
  cases dss with
  | nil => exact yields_nil before rest
  | cons ds dss =>
    exact yields_argument (by decide) (hne ds List.mem_cons_self) (hdss ds List.mem_cons_self)
      before fun before => yields_moreArguments (fun es hes => hne es (List.mem_cons_of_mem ds hes))
        (fun es hes => hdss es (List.mem_cons_of_mem ds hes)) before rest

/-- Constraints and what follows a column begin with what may follow a declared type. -/
theorem exists_typeFollower (ks : List Constraint) {last : Char} (hlast : last ∈ argumentEnds)
    (rest : List Char) :
    ∃ next ∈ typeFollowers.tail, next.toList <+: constraintsText ks ++ last :: rest := by
  cases ks with
  | nil =>
    simp only [argumentEnds, List.mem_cons, List.not_mem_nil, or_false] at hlast
    obtain rfl | rfl := hlast
    · exact ⟨",", by decide, rest, rfl⟩
    · exact ⟨")", by decide, rest, rfl⟩
  | cons k ks =>
    refine ⟨" " ++ k.text, by cases k <;> decide, constraintsText ks ++ last :: rest, ?_⟩
    rw [String.toList_append, constraintsText, List.cons_append, List.append_assoc,
      List.append_assoc]
    rfl

/-- A blank and words behind it yield the words. -/
theorem yields_blank_words {text rest : List Char} (next : List Char)
    (h : readsWords (some ' ') text next = true) (hnext : next <+: rest) (before : Option Char) :
    Yields before (' ' :: text) rest fun index => wordTokens (index + 1) text :=
  (yields_blank before (text ++ rest)).append (yields_words next h hnext)

/-- Written constraints are read as their words. -/
theorem yields_constraints (ks : List Constraint) {last : Char} (hlast : last ∈ argumentEnds)
    (before : Option Char) (rest : List Char) :
    Yields before (constraintsText ks) (last :: rest) (constraintsTokens ks) := by
  induction ks generalizing before with
  | nil => exact yields_nil before (last :: rest)
  | cons k ks ih =>
    obtain ⟨next, hnext, hprefix⟩ := exists_typeFollower ks hlast rest
    have hk := yields_blank_words _ (readsWords_constraint k next hnext) hprefix before
    refine (hk.append (ih _)).congr fun index => ?_
    rw [wordTokens_constraint, constraintsTokens, List.length_cons,
      show index + 1 + k.text.toList.length = index + (k.text.toList.length + 1) by omega]

/-- What follows the keyword of a declared type is one of the texts before which it is a word. -/
theorem WrittenColumn.exists_follower (c : WrittenColumn) {last : Char}
    (hlast : last ∈ argumentEnds) (rest : List Char) :
    ∃ next ∈ typeFollowers, next.toList <+:
      argumentsText c.arguments ++ (constraintsText c.constraints ++ last :: rest) := by
  cases h : c.arguments with
  | nil =>
    obtain ⟨next, hnext, hprefix⟩ := exists_typeFollower c.constraints hlast rest
    exact ⟨next, List.mem_of_mem_tail hnext, hprefix⟩
  | cons ds dss => exact ⟨"(", by decide, _, rfl⟩

/-- A written type is one of the keywords of declared types. -/
theorem WrittenColumn.keyword_mem_keywords (c : WrittenColumn) :
    c.keyword ∈ JavaType.keywords :=
  List.mem_flatMap.mpr ⟨c.rule, c.rule_mem, c.keyword_mem⟩

/-- A column definition yields its tokens in front of a comma or a closing parenthesis. -/
theorem yields_column (c : WrittenColumn) {last : Char} (hlast : last ∈ argumentEnds)
    (before : Option Char) (rest : List Char) :
    Yields before c.text (last :: rest) c.tokens := by
  obtain ⟨next, hnext, hprefix⟩ := c.exists_follower hlast rest
  obtain ⟨hne, hspace⟩ := wordTokens_keyword c.keyword c.keyword_mem_keywords
  have hconstraints before := yields_constraints c.constraints hlast before rest
  have harguments before := (yields_arguments c.arguments_ne c.arguments_digits before
    (constraintsText c.constraints ++ last :: rest)).append (hconstraints _)
  have hkeyword before := yields_blank_words next.toList
    (readsWords_keyword c.keyword c.keyword_mem_keywords next hnext) hprefix before
  rw [← List.append_assoc] at hkeyword
  have htype before := (hkeyword before).append (harguments _)
  have hname := (yields_name before c.name.toList (by simp [backtick])).append (htype _)
  rw [show c.text = inBackticks c.name.toList ++ (' ' :: c.keyword.toList ++
    (argumentsText c.arguments ++ constraintsText c.constraints)) by
      simp [WrittenColumn.text, WrittenColumn.typeText]]
  refine hname.congr fun index => ?_
  rw [wordTokens_eq_word hne hspace, String.ofList_toList, WrittenColumn.tokens,
    WrittenColumn.typeStart, WrittenColumn.typeText, List.length_append, List.length_cons]
  simp only [Nat.add_assoc, List.singleton_append, Nat.add_comm 1]
  rfl

/-- Behind a column stands a comma or the end of the section. -/
theorem moreColumnsText_eq_cons (cs : List WrittenColumn) :
    ∃ last ∈ argumentEnds, ∃ more, moreColumnsText cs = last :: more := by
  cases cs with
  | nil => exact ⟨')', by decide, [], rfl⟩
  | cons c cs => exact ⟨',', by decide, _, rfl⟩

/-- A column and the section behind it are read one after the other. -/
theorem yields_column_more (c : WrittenColumn) {cs : List WrittenColumn} {rest : List Char}
    {more : Nat → List Token} (before : Option Char)
    (hmore : ∀ before, Yields before (moreColumnsText cs) rest more) :
    Yields before (c.text ++ moreColumnsText cs) rest fun index =>
      c.tokens index ++ more (index + c.text.length) := by
  obtain ⟨last, hlast, text, htext⟩ := moreColumnsText_eq_cons cs
  have hcolumn : Yields before c.text (moreColumnsText cs ++ rest) c.tokens := by
    rw [htext]
    exact yields_column c hlast before (text ++ rest)
  exact hcolumn.append (hmore _)

/-- The columns that follow are read as their tokens, up to the end of the section. -/
theorem yields_moreColumns (cs : List WrittenColumn) (before : Option Char) (rest : List Char) :
    Yields before (moreColumnsText cs) rest (moreColumnsTokens cs) := by
  induction cs generalizing before with
  | nil => exact yields_mark (by decide) before rest
  | cons c cs ih =>
    have hcomma := (yields_mark (c := ',') (by decide) before _).append
      ((yields_blank _ _).append (yields_column_more c _ ih))
    exact hcomma.congr fun index => by simp [moreColumnsTokens]

/-- A written section is read as the tokens of its columns. -/
theorem yields_section (cs : List WrittenColumn) (before : Option Char) (rest : List Char) :
    Yields before (sectionText cs) rest (sectionTokens cs) := by
  cases cs with
  | nil => exact yields_mark (by decide) before rest
  | cons c cs => exact yields_column_more c before fun before => yields_moreColumns cs before rest

/-- The first word of a declaration is read as one. -/
theorem yields_create (rest : List Char) :
    Yields none "CREATE".toList (' ' :: 'T' :: rest) fun index => [word "CREATE" index] :=
  (yields_words [' ', 'T'] (by decide) ⟨rest, rfl⟩).congr fun index =>
    wordTokens_eq_word (by decide) (by decide) index

/-- The word in front of the name is read as one. -/
theorem yields_table {rest : List Char} (next : List Char)
    (h : readsWords (some ' ') "TABLE".toList next = true) (hnext : next <+: rest)
    (before : Option Char) :
    Yields before (' ' :: "TABLE".toList) rest fun index => [word "TABLE" (index + 1)] :=
  (yields_blank_words next h hnext before).congr fun index =>
    wordTokens_eq_word (by decide) (by decide) (index + 1)

/-- The three words of the guard are read as such. -/
theorem yields_ifNotExists (rest : List Char) (before : Option Char) :
    Yields before (' ' :: "IF NOT EXISTS".toList) (' ' :: backtick :: rest) fun index =>
      [word "IF" (index + 1), word "NOT" (index + 4), word "EXISTS" (index + 8)] :=
  (yields_blank_words [' ', backtick] (by decide) ⟨rest, rfl⟩ before).congr
    fun index => wordTokens_ifNotExists (index + 1)

/-- The words in front of a name are read as such. -/
theorem yields_intro (ifNotExists : Bool) (rest : List Char) :
    Yields none (introText ifNotExists) (' ' :: backtick :: rest) (introTokens ifNotExists) := by
  cases ifNotExists with
  | false =>
    have htable before :
        Yields before (' ' :: "TABLE".toList) (' ' :: backtick :: rest) fun index =>
          [word "TABLE" (index + 1)] :=
      yields_table [' ', backtick] (by decide) ⟨rest, rfl⟩ before
    rw [show introText false = "CREATE".toList ++ ' ' :: "TABLE".toList by decide]
    exact Yields.append (yields_create ("ABLE".toList ++ ' ' :: backtick :: rest)) (htable _)
  | true =>
    have htable before : Yields before (' ' :: "TABLE".toList)
        (' ' :: 'I' :: ("F NOT EXISTS".toList ++ ' ' :: backtick :: rest)) fun index =>
          [word "TABLE" (index + 1)] :=
      yields_table [' ', 'I'] (by decide) ⟨_, rfl⟩ before
    have hexists := yields_ifNotExists rest
    rw [show introText true =
      "CREATE".toList ++ (' ' :: "TABLE".toList ++ ' ' :: "IF NOT EXISTS".toList) by decide]
    exact Yields.append (yields_create _) (Yields.append (htable _) (hexists _))

/-- A written header yields its tokens in front of any text. -/
theorem yields_header (ifNotExists : Bool) (name : String) (rest : List Char) :
    Yields none (headerText ifNotExists name) rest (headerTokens ifNotExists name) := by
  have hopen before := (yields_blank before _).append
    (yields_mark (by decide : '(' ∈ sectionMarks) _ rest)
  have hname before : Yields before (inBackticks name.toList ++ ([' '] ++ ['('])) rest _ :=
    (yields_name before name.toList (by simp [backtick])).append (hopen _)
  have hblank before := (yields_blank before _).append (hname _)
  have hintro : Yields none (introText ifNotExists) ([' '] ++ (inBackticks name.toList ++
      ([' '] ++ ['('])) ++ rest) (introTokens ifNotExists) := by
    rw [inBackticks]
    exact yields_intro ifNotExists _
  have htext : headerText ifNotExists name = introText ifNotExists ++
      ([' '] ++ (inBackticks name.toList ++ ([' '] ++ ['(']))) := by
    simp [headerText]
  rw [htext]
  refine (hintro.append (hblank _)).congr fun index => ?_
  rw [headerTokens]
  simp only [quotedName, List.nil_append, List.cons_append, List.length_singleton,
    String.ofList_toList, Nat.add_assoc]

/-- A written declaration yields its tokens in front of any text. -/
theorem yields_declaration (ifNotExists : Bool) (name : String) (cs : List WrittenColumn)
    (rest : List Char) : Yields none (headerText ifNotExists name ++ sectionText cs) rest
      fun index => headerTokens ifNotExists name index ++
        sectionTokens cs (index + (headerText ifNotExists name).length) :=
  (yields_header ifNotExists name _).append (yields_section cs _ rest)

end EntityMapper.Sql
