import EntityMapper.Proofs.Sql.Splitting
import EntityMapper.Proofs.Sql.Tables

/-!
# Pairs of words in a definition

A definition says that its column is a key, or not null, by two words.  The words count exactly if
both stand outside parentheses and nothing but groups of parentheses stands between them: they need
not be next to each other in the item.
-/

namespace EntityMapper.Sql

/-! ## Pairs next to each other -/

/-- The two words stand next to each other somewhere in the tokens. -/
def HasPair (first second : String) (ts : List Token) : Prop :=
  ∃ front t u back, ts = front ++ t :: u :: back ∧ t.isWord first = true ∧ u.isWord second = true

section

variable {first second : String} {t u : Token} {ts : List Token}

/-- A pair stays in a row with more in front of it. -/
theorem HasPair.cons (h : HasPair first second ts) (t : Token) :
    HasPair first second (t :: ts) := by
  obtain ⟨front, v, w, back, rfl, hpair⟩ := h
  exact ⟨t :: front, v, w, back, rfl, hpair⟩

/-- A pair stands at the front of a row or behind its first token. -/
theorem hasPair_cons_iff : HasPair first second (t :: ts) ↔
    beginsWith [first, second] (t :: ts) = true ∨ HasPair first second ts := by
  constructor
  · rintro ⟨front, v, w, back, heq, hv, hw⟩
    cases front with
    | nil =>
      obtain ⟨rfl, rfl⟩ := List.cons_eq_cons.mp heq
      exact .inl (by simp [beginsWith, hv, hw])
    | cons v' front =>
      obtain ⟨rfl, rfl⟩ := List.cons_eq_cons.mp heq
      exact .inr ⟨front, v, w, back, rfl, hv, hw⟩
  · rintro (hfirst | hrest)
    · cases ts with
      | nil => simp [beginsWith] at hfirst
      | cons u us =>
        simp only [beginsWith, Bool.and_true, Bool.and_eq_true] at hfirst
        exact ⟨[], t, u, us, rfl, hfirst⟩
    · exact hrest.cons t

/-- One token is no pair. -/
theorem not_hasPair_singleton (first second : String) (t : Token) :
    ¬ HasPair first second [t] := by
  rintro ⟨front, v, w, back, heq, -⟩
  have hlength := congrArg List.length heq
  simp only [List.length_append, List.length_cons, List.length_nil] at hlength
  omega

/-- Looking for two words finds them where they are next to each other. -/
theorem hasSequence_pair_iff : hasSequence [first, second] ts = true ↔ HasPair first second ts := by
  induction ts with
  | nil =>
    refine ⟨fun h => absurd h (by simp [hasSequence]), ?_⟩
    rintro ⟨front, v, w, back, heq, -⟩
    exact absurd heq (by simp)
  | cons t ts ih => rw [hasSequence, Bool.or_eq_true, ih, hasPair_cons_iff]

/-- A word is no parenthesis. -/
theorem Token.not_parenthesis_of_word {word : String} (h : t.isWord word = true) :
    t.isPunctuation "(" = false ∧ t.isPunctuation ")" = false := by
  simp only [isWord, isWordIn, Bool.and_eq_true, beq_iff_eq] at h
  simp [isPunctuation, h.1]

end

/-! ## Pairs with groups between them -/

/-- The first word, the tokens between and the second word stand in the tokens one after the other,
outside parentheses. -/
def Flanks (first second : String) (between ts : List Token) : Prop :=
  ∃ front t u back, ts = front ++ t :: (between ++ u :: back) ∧ Balanced front ∧
    t.isWord first = true ∧ u.isWord second = true

/-- Tokens that are groups of parentheses, one after the other. -/
inductive Groups : List Token → Prop where
  | nil : Groups []
  | cons {opening closing : Token} {inner ts : List Token}
      (hopening : opening.isPunctuation "(" = true) (hinner : Balanced inner)
      (hclosing : closing.isPunctuation ")" = true) (hts : Groups ts) :
      Groups (opening :: (inner ++ closing :: ts))

/-- Groups are balanced. -/
theorem Groups.balanced {ts : List Token} (h : Groups ts) : Balanced ts := by
  induction h with
  | nil => exact .nil
  | cons hopening hinner hclosing _ ih => exact .group hopening hinner hclosing ih

/-- Nothing of groups stands at the top level. -/
theorem Groups.topLevel {ts : List Token} (h : Groups ts) : topLevel ts = [] := by
  induction h with
  | nil => rfl
  | cons hopening hinner hclosing _ ih => rw [topLevel_group hopening hinner hclosing, ih]

/-- In front of the first token outside parentheses stand groups of parentheses. -/
theorem exists_of_topLevel_cons {ts us : List Token} {u : Token} (hts : Nested ts)
    (h : topLevel ts = u :: us) : ∃ groups back, ts = groups ++ u :: back ∧ Groups groups ∧
      Balanced [u] ∧ Nested back ∧ topLevel back = us := by
  induction hn : ts.length using Nat.strongRecOn generalizing ts with
  | ind n ih =>
    subst hn
    cases ts with
    | nil => cases h
    | cons t ts =>
      rcases t.parenthesis_cases with ⟨ho, -⟩ | ⟨-, hc⟩ | ⟨ho, hc⟩
      · cases hclose : closeGroup 1 ts with
        | none =>
          rw [topLevel, topLevelFrom_opening ho, topLevelFrom_of_closeGroup hclose] at h
          cases h
        | some extent =>
          obtain ⟨inner, closing, rfl, hinner, hclosing, -⟩ := closeGroup_eq_some hclose
          have hgroup : Balanced (t :: (inner ++ [closing])) := .group ho hinner hclosing .nil
          have hrest : Nested extent.2 := by
            rw [← nested_append_iff hgroup]
            simpa using hts
          rw [topLevel_group ho hinner hclosing] at h
          simp only [List.length_cons, List.length_append] at ih
          obtain ⟨groups, back, heq, hgroups, hback⟩ := ih _ (by omega) hrest h rfl
          exact ⟨t :: (inner ++ closing :: groups), back, by simp [heq],
            .cons ho hinner hclosing hgroups, hback⟩
      · obtain ⟨depth, hdepth⟩ := nested_iff.mp hts
        rw [openAfter?_closing_zero hc] at hdepth
        cases hdepth
      · rw [topLevel_plain ho hc] at h
        obtain ⟨rfl, rfl⟩ := List.cons_eq_cons.mp h
        have hfront : Balanced [t] := .plain ho hc .nil
        exact ⟨[], ts, rfl, .nil, hfront, (nested_append_iff hfront).mp hts, rfl⟩

/-- In front of a token outside parentheses stand balanced tokens. -/
theorem exists_of_topLevel_append {ts xs us : List Token} {u : Token} (hts : Nested ts)
    (h : topLevel ts = xs ++ u :: us) : ∃ front back, ts = front ++ u :: back ∧ Balanced front ∧
      Nested back ∧ topLevel back = us := by
  induction xs generalizing ts with
  | nil =>
    obtain ⟨groups, back, rfl, hgroups, -, hback⟩ := exists_of_topLevel_cons hts h
    exact ⟨groups, back, rfl, hgroups.balanced, hback⟩
  | cons x xs ih =>
    obtain ⟨groups, back, rfl, hgroups, hx, hnested, hback⟩ := exists_of_topLevel_cons hts h
    obtain ⟨front, back, rfl, hfront, hrest⟩ := ih hnested hback
    have hbalanced : Balanced (groups ++ ([x] ++ front)) :=
      hgroups.balanced.append (hx.append hfront)
    exact ⟨groups ++ ([x] ++ front), back, by simp, hbalanced, hrest⟩

/-- Two words are next to each other among the tokens outside parentheses exactly if they stand
outside parentheses and nothing but groups of parentheses stands between them. -/
theorem hasSequence_topLevel_iff {first second : String} {ts : List Token} (hts : Nested ts) :
    hasSequence [first, second] (topLevel ts) = true ↔
      ∃ between, Groups between ∧ Flanks first second between ts := by
  rw [hasSequence_pair_iff]
  constructor
  · rintro ⟨xs, t, u, ys, heq, ht, hu⟩
    obtain ⟨front, rest, rfl, hfront, hrest, htop⟩ := exists_of_topLevel_append hts heq
    obtain ⟨between, back, rfl, hbetween, -⟩ := exists_of_topLevel_cons hrest htop
    exact ⟨between, hbetween, front, t, u, back, rfl, hfront, ht, hu⟩
  · rintro ⟨between, hbetween, front, t, u, back, rfl, hfront, ht, hu⟩
    obtain ⟨hto, htc⟩ := Token.not_parenthesis_of_word ht
    obtain ⟨huo, huc⟩ := Token.not_parenthesis_of_word hu
    refine ⟨topLevel front, t, u, topLevel back, ?_, ht, hu⟩
    rw [hfront.topLevel_append, topLevel_plain hto htc, hbetween.balanced.topLevel_append,
      hbetween.topLevel, List.nil_append, topLevel_plain huo huc]

/-! ## The parts of an item -/

/-- The arguments of a declared type, and the rest of the item behind them: none where the rest
begins with no parenthesis, a group of parentheses, or all of the item if the group is not closed.
-/
inductive Arguments : List Token → List Token → Prop where
  | absent {rest : List Token} (hrest : ∀ t ∈ rest.head?, t.isPunctuation "(" = false) :
      Arguments [] rest
  | group {opening closing : Token} {inner : List Token} (rest : List Token)
      (hopening : opening.isPunctuation "(" = true) (hinner : Balanced inner)
      (hclosing : closing.isPunctuation ")" = true) :
      Arguments (opening :: (inner ++ [closing])) rest
  | unclosed {opening : Token} {inner : List Token} (hopening : opening.isPunctuation "(" = true)
      (hinner : ∀ front closing back, inner = front ++ closing :: back →
        closing.isPunctuation ")" = true → ¬ Balanced front) : Arguments (opening :: inner) []

/-- A declared type extends over its arguments. -/
theorem arguments_typeExtent (type : Token) (ts : List Token) :
    ∃ arguments, ts = arguments ++ (typeExtent type ts).2 ∧
      Arguments arguments (typeExtent type ts).2 := by
  cases ts with
  | nil => exact ⟨[], rfl, .absent (by simp [typeExtent])⟩
  | cons t ts =>
    rw [typeExtent]
    split
    · rename_i ho
      cases hclose : closeGroup 1 ts with
      | none =>
        refine ⟨t :: ts, (List.append_nil _).symm, .unclosed ho ?_⟩
        rintro front closing back rfl hclosing hfront
        rw [closeGroup_one hfront hclosing] at hclose
        cases hclose
      | some extent =>
        obtain ⟨inner, closing, hts, hinner, hclosing, -⟩ := closeGroup_eq_some hclose
        exact ⟨t :: (inner ++ [closing]), by simp [hts], .group _ ho hinner hclosing⟩
    · rename_i ho
      exact ⟨[], rfl, .absent (by simpa using ho)⟩

/-- What follows the arguments of a declared type is nested if the item is. -/
theorem Arguments.nested_rest {arguments rest : List Token} (h : Arguments arguments rest)
    (hnested : Nested (arguments ++ rest)) : Nested rest := by
  cases h with
  | absent _ => exact hnested
  | group rest hopening hinner hclosing =>
    exact (nested_append_iff (.group hopening hinner hclosing .nil)).mp hnested
  | unclosed _ _ => exact Balanced.nil.nested

/-- A name is no parenthesis. -/
theorem Token.not_parenthesis_of_identifier {t : Token} (h : t.isIdentifier = true) :
    t.isPunctuation "(" = false ∧ t.isPunctuation ")" = false := by
  simp only [isIdentifier, Bool.or_eq_true, beq_iff_eq] at h
  rcases h with h | h <;> simp [isPunctuation, h]

/-! ## The flags of a definition -/

/-- An item of a section that begins with a name and a type word declares its column to be the
primary key exactly if, behind the arguments of the type and outside parentheses, it holds the words
`PRIMARY` and `KEY` with nothing but groups of parentheses between them, none or more, and not to be
null exactly if it holds `NOT` and `NULL` in this way. -/
theorem flags_of_mem_items {ts item : List Token} {d : Definition} (hitem : item ∈ items ts)
    (hd : Definition.ofItem? item = some d) (hname : d.name.isIdentifier = true) :
    (∃ arguments, item = d.name :: d.type :: (arguments ++ d.rest) ∧ Arguments arguments d.rest) ∧
      (d.isKey = true ↔ ∃ between, Groups between ∧ Flanks "PRIMARY" "KEY" between d.rest) ∧
      (d.isNotNull = true ↔ ∃ between, Groups between ∧ Flanks "NOT" "NULL" between d.rest) := by
  obtain ⟨-, htype, ts, rfl, hextent⟩ := Definition.ofItem?_eq_some hd
  obtain ⟨arguments, heq, harguments⟩ := arguments_typeExtent d.type ts
  rw [hextent] at heq harguments
  have hfront : Balanced [d.name, d.type] := by
    obtain ⟨hno, hnc⟩ := Token.not_parenthesis_of_identifier hname
    exact .plain hno hnc (.plain (by simp [Token.isPunctuation, htype])
      (by simp [Token.isPunctuation, htype]) .nil)
  have hrest : Nested d.rest := by
    refine harguments.nested_rest ?_
    rw [← heq]
    exact (nested_append_iff hfront).mp (nested_of_mem_items hitem)
  exact ⟨⟨arguments, by rw [← heq], harguments⟩, hasSequence_topLevel_iff hrest,
    hasSequence_topLevel_iff hrest⟩

/-- The definition `a INT DEFAULT NOT (x) NULL`: a default value and a word that allows null. -/
def negatedDefault : Definition where
  name := ⟨.word, "a", 0, 1⟩
  type := ⟨.word, "INT", 2, 5⟩
  typeStop := 5
  rest := [⟨.word, "DEFAULT", 6, 13⟩, ⟨.word, "NOT", 14, 17⟩, ⟨.punctuation, "(", 18, 19⟩,
    ⟨.word, "x", 19, 20⟩, ⟨.punctuation, ")", 20, 21⟩, ⟨.word, "NULL", 22, 26⟩]

theorem tokenize_negatedDefault : tokenize "a INT DEFAULT NOT (x) NULL" =
    negatedDefault.name :: negatedDefault.type :: negatedDefault.rest := by
  decide +kernel

theorem negatedDefault_mem_items :
    tokenize "a INT DEFAULT NOT (x) NULL" ∈ items (tokenize "a INT DEFAULT NOT (x) NULL)") := by
  rw [tokenize_negatedDefault]
  decide +kernel

theorem ofItem?_negatedDefault :
    Definition.ofItem? (tokenize "a INT DEFAULT NOT (x) NULL") = some negatedDefault := by
  rw [tokenize_negatedDefault]
  decide +kernel

theorem flags_of_mem_items_negatedDefault :
    tokenize "a INT DEFAULT NOT (x) NULL" ∈ items (tokenize "a INT DEFAULT NOT (x) NULL)") ∧
      Definition.ofItem? (tokenize "a INT DEFAULT NOT (x) NULL") = some negatedDefault ∧
      negatedDefault.name.isIdentifier = true ∧
      (negatedDefault.isNotNull = true ↔
        ∃ between, Groups between ∧ Flanks "NOT" "NULL" between negatedDefault.rest) := by
  have hname : negatedDefault.name.isIdentifier = true := by decide
  obtain ⟨-, -, hnull⟩ := flags_of_mem_items negatedDefault_mem_items ofItem?_negatedDefault hname
  exact ⟨negatedDefault_mem_items, ofItem?_negatedDefault, hname, hnull⟩

/-- A column that allows null is read as one that is not null, though its definition holds `NOT` and
`NULL` nowhere next to each other. -/
theorem not_adjacent_negatedDefault :
    (read "CREATE TABLE t (a INT DEFAULT NOT (x) NULL)").result =
        .ok ⟨"t", "T", [⟨"a", "a", .integer, "INT", false, false, false, false⟩]⟩ ∧
      tokenize "a INT DEFAULT NOT (x) NULL" ∈ items (tokenize "a INT DEFAULT NOT (x) NULL)") ∧
      Definition.ofItem? (tokenize "a INT DEFAULT NOT (x) NULL") = some negatedDefault ∧
      negatedDefault.isNotNull = true ∧ ¬ Flanks "NOT" "NULL" [] negatedDefault.rest := by
  have hread : read "CREATE TABLE t (a INT DEFAULT NOT (x) NULL)" =
      ⟨.ok ⟨"t", "T", [⟨"a", "a", .integer, "INT", false, false, false, false⟩]⟩, []⟩ :=
    read_of_isStatement (by decide +kernel)
  refine ⟨congrArg Reading.result hread, negatedDefault_mem_items, ofItem?_negatedDefault,
    by decide +kernel, ?_⟩
  rintro ⟨front, t, u, back, heq, -, ht, hu⟩
  have hpair : hasSequence ["NOT", "NULL"] negatedDefault.rest = true :=
    hasSequence_pair_iff.mpr ⟨front, t, u, back, heq, ht, hu⟩
  exact absurd hpair (by decide +kernel)

end EntityMapper.Sql
