import EntityMapper.Proofs.Pattern.LetterCase
import EntityMapper.Proofs.Sql.Alike

/-!
# Letter case

Two texts of ASCII without dollar signs that are the same but for the case of their letters are cut
into lexemes at the same places, have tokens of the same kinds at the same places, and declare
tables of the same columns, but for the case of names.
-/

namespace EntityMapper.Text

variable {cs ds : List Char}

/-- Texts with the same letters are the same in upper case. -/
theorem SameLetters.upper_eq (h : SameLetters cs ds) : upper cs = upper ds := by
  induction h with
  | nil => rfl
  | cons hcd _ ih =>
    rw [upper_cons, upper_cons, ih, upperChar_of_ascii hcd.ascii, upperChar_of_ascii hcd.ascii',
      hcd.toUpper_eq]

/-- Letters are compared in texts of ASCII. -/
theorem SameLetters.ascii (h : SameLetters cs ds) : ∀ c ∈ cs, c.toNat < 128 := by
  induction h with
  | nil => simp
  | cons hcd _ ih => exact List.forall_mem_cons.mpr ⟨hcd.ascii, ih⟩

theorem SameLetters.symm (h : SameLetters cs ds) : SameLetters ds cs :=
  h.flip.imp fun _ _ hcd => hcd.symm

/-- Texts with the same letters are the same in lower case. -/
theorem SameLetters.lower_eq (h : SameLetters cs ds) : lower cs = lower ds := by
  rw [lower_of_ascii h.ascii, lower_of_ascii h.symm.ascii]
  induction h with
  | nil => rfl
  | cons hcd _ ih => rw [List.map_cons, List.map_cons, hcd.toLower_eq, ih]

/-- The upper-case and the lower-case form of a text of ASCII have the same letters. -/
theorem sameLetters_upper_lower (h : ∀ c ∈ cs, c.toNat < 128) :
    SameLetters (upper cs) (lower cs) := by
  have hforms : ∀ c : Char, c.toNat < 128 → CaseTwins c.toUpper c.toLower := by
    intro c hc
    obtain ⟨hupper, hlower, heq⟩ := forall_below (b := 128) (P := fun c => c.toUpper.toNat < 128 ∧
      c.toLower.toNat < 128 ∧ c.toUpper.toLower = c.toLower.toLower) (by decide) hc
    exact ⟨hupper, hlower, heq⟩
  rw [upper_of_ascii h, lower_of_ascii h, SameLetters, List.forall₂_map_left_iff,
    List.forall₂_map_right_iff, List.forall₂_same]
  exact fun c hc => hforms c (h c hc)

/-- A text without letters has no twin but itself. -/
theorem SameLetters.eq_of_not_alpha (h : SameLetters cs ds) (hcs : ∀ c ∈ cs, c.isAlpha = false) :
    cs = ds := by
  induction h with
  | nil => rfl
  | cons hcd _ ih =>
    obtain ⟨hc, hcs⟩ := List.forall_mem_cons.mp hcs
    rw [hcd.eq_of_not_alpha hc, ih hcs]

/-- Whether a text begins with one that has no letters does not depend on case. -/
theorem SameLetters.isPrefixOf_eq (h : SameLetters cs ds) {marks : List Char}
    (hmarks : ∀ c ∈ marks, c.isAlpha = false) : marks.isPrefixOf cs = marks.isPrefixOf ds := by
  induction h generalizing marks with
  | nil => rfl
  | @cons c d _ _ hcd _ ih =>
    cases marks with
    | nil => rfl
    | cons mark marks =>
      obtain ⟨hmark, hmarks⟩ := List.forall_mem_cons.mp hmarks
      have hfirst : (mark == c) = (mark == d) := by
        rw [Bool.eq_iff_iff, beq_iff_eq, beq_iff_eq, eq_comm, hcd.eq_iff hmark, eq_comm]
      rw [List.isPrefixOf, List.isPrefixOf, ih hmarks, hfirst]

/-- Texts with the same letters have the same marks. -/
theorem SameLetters.mem_iff (h : SameLetters cs ds) {mark : Char} (hmark : mark.isAlpha = false) :
    mark ∈ cs ↔ mark ∈ ds := by
  induction h with
  | nil => rfl
  | cons hcd _ ih =>
    rw [List.mem_cons, List.mem_cons, ih, eq_comm, hcd.eq_iff hmark, eq_comm]

/-- Where a text without letters is first found does not depend on case. -/
theorem SameLetters.throughFirst?_eq (h : SameLetters cs ds) {marks : List Char}
    (hmarks : ∀ c ∈ marks, c.isAlpha = false) :
    throughFirst? marks cs = throughFirst? marks ds := by
  induction h with
  | nil => rfl
  | cons hcd h ih =>
    rw [throughFirst?, throughFirst?, SameLetters.isPrefixOf_eq (.cons hcd h) hmarks, ih]

end EntityMapper.Text

namespace EntityMapper.Sql

open Schema Text

/-! ## Lexemes -/

section Rules

open Pattern

theorem ignoresCase_isNameHead : IgnoresCase isNameHead :=
  ignoresCase_of_toLower (by decide +kernel)

/-- No lexical rule tells the two forms of a letter apart. -/
theorem ignoresCase_rules : ∀ rule ∈ rules, rule.pattern.IgnoresCase := by
  unfold rules
  simp only [List.forall_mem_cons, always, lineCommentStart, restOfLine, lineBreak, doubledQuotes,
    escapedQuotes, sign, digits, leading, trailing, oneOf, noneOf, ignoresCase_append,
    ignoresCase_orElse, ignoresCase_repeated, ignoresCase_ahead, ignoresCase_wordEdge,
    ignoresCase_lineEnd, ignoresCase_one, ignoresCase_many, ignoresCase_zeroOrMore,
    ignoresCase_oneOrMore, ignoresCase_blanks, ignoresCase_optional, ignoresCase_letter,
    ignoresCase_text, ignoresCase_anyOf, ignoresCase_phrase, ignoresCase_isSpace,
    ignoresCase_isWord, ignoresCase_isDecimal, ignoresCase_isNameStart,
    ignoresCase_notBehind ignoresCase_isWord, ignoresCase_notNext ignoresCase_isDecimal,
    ignoresCase_notNext ignoresCase_isNameHead, true_and, and_true, and_self]
  repeat' first
    | apply And.intro
    | exact ignoresCase_ne (by decide)
    | exact ignoresCase_contains (by decide)
    | exact (ignoresCase_contains (by decide)).not
    | exact ignoresCase_of_toLower (by decide +kernel)
  exact fun _ h => absurd h List.not_mem_nil

end Rules

/-- The kind of a lexeme does not depend on the case of its letters. -/
theorem kind_eq_of_sameLetters {cs ds : List Char} (h : SameLetters cs ds) :
    ∀ rule ∈ rules, rule.kind cs = rule.kind ds := by
  have hword : wordKind cs = wordKind ds := by
    rw [wordKind, wordKind, h.upper_eq]
  unfold rules
  simp only [List.forall_mem_cons, always, hword, true_and]
  exact fun _ h => absurd h List.not_mem_nil

variable {s s' : Cursor}

/-- The rules yield the same on texts with the same letters. -/
theorem ruled?_eq_of_sameLetters (h : s.SameLetters s') : ruled? s = ruled? s' :=
  ruled?_congr
    (fun rule hrule => Pattern.length?_eq_of_sameLetters (ignoresCase_rules rule hrule) h)
    fun rule hrule n => kind_eq_of_sameLetters (List.forall₂_take n h.rest) rule hrule

/-- Without a dollar sign no dollar-quoted text begins. -/
theorem dollarQuoted?_eq_none {before : Option Char} {c : Char} {cs : List Char}
    (hascii : c.toNat < 128) (hc : c ≠ '$') : dollarQuoted? ⟨before, c :: cs⟩ = none := by
  have hskip : dollarDelimiter.maySkip = false := by decide
  have htake : dollarDelimiter.mayTake c = false :=
    forall_below (P := fun c => c ≠ '$' → dollarDelimiter.mayTake c = false) (by decide) hascii hc
  rw [dollarQuoted?, Pattern.length?, Pattern.run_eq_none_of_first hskip htake]
  rfl

/-- Comments begin and end at the same places of texts with the same letters. -/
theorem blockComment?_eq_of_sameLetters {cs ds : List Char} (h : SameLetters cs ds) :
    blockComment? cs = blockComment? ds := by
  have hclosing : ∀ c ∈ ['*', '/'], c.isAlpha = false := by decide
  rw [blockComment?_eq, blockComment?_eq, h.isPrefixOf_eq (by decide), h.isPrefixOf_eq (by decide),
    SameLetters.throughFirst?_eq (List.forall₂_drop 3 h) hclosing,
    SameLetters.throughFirst?_eq (List.forall₂_drop 2 h) hclosing]

/-- The lexemes of texts that are the same but for the case of their letters are of the same kinds
and lengths. -/
theorem lexeme_eq_of_sameLetters (h : s.SameLetters s') (hs : s.rest ≠ [])
    (hdollar : '$' ∉ s.rest) : lexeme s = lexeme s' := by
  have hquoted : ∀ {s : Cursor}, s.rest ≠ [] → '$' ∉ s.rest → (∀ c ∈ s.rest, c.toNat < 128) →
      dollarQuoted? s = none := by
    rintro ⟨before, rest⟩ hne hnot hascii
    obtain ⟨c, cs, rfl⟩ := List.exists_cons_of_ne_nil hne
    exact dollarQuoted?_eq_none (hascii c List.mem_cons_self) fun hc =>
      hnot (hc ▸ List.mem_cons_self)
  have hne' : s'.rest ≠ [] := by
    rw [ne_eq, ← List.length_eq_zero_iff, ← h.length_eq, List.length_eq_zero_iff]
    exact hs
  have hdollar' : '$' ∉ s'.rest := by
    rwa [← h.rest.mem_iff rfl]
  rw [lexeme, lexeme, hquoted hs hdollar h.rest.ascii, hquoted hne' hdollar' h.rest.symm.ascii,
    blockComment?_eq_of_sameLetters h.rest, ruled?_eq_of_sameLetters h]

/-- Two lexemes that are the same but for the case of their letters. -/
structure Lexeme.CaseTwins (l l' : Lexeme) : Prop where
  kind_eq : l.kind = l'.kind
  text : SameLetters l.text l'.text

/-- Texts with the same letters and no dollar sign have lexemes with the same letters. -/
theorem lexemesFrom_twins (fuel : Nat) (h : s.SameLetters s') (hdollar : '$' ∉ s.rest) :
    List.Forall₂ Lexeme.CaseTwins (lexemesFrom fuel s) (lexemesFrom fuel s') := by
  induction fuel generalizing s s' with
  | zero => exact .nil
  | succ fuel ih =>
    obtain ⟨before, rest⟩ := s
    obtain ⟨before', rest'⟩ := s'
    cases hrest : h.rest with
    | nil => exact .nil
    | cons hcd hcs =>
      have hlexeme := lexeme_eq_of_sameLetters h (List.cons_ne_nil _ _) hdollar
      rw [lexemesFrom, lexemesFrom]
      dsimp only
      rw [← hlexeme]
      refine .cons ⟨rfl, List.forall₂_take _ h.rest⟩ (ih (h.advance _) fun hmem => hdollar ?_)
      rw [Cursor.advance_rest] at hmem
      exact List.mem_of_mem_drop hmem

/-! ## Tokens -/

/-- Two tokens at one place that are the same but for the case of their letters. -/
structure Token.CaseTwins (t t' : Token) : Prop where
  kind_eq : t.kind = t'.kind
  start_eq : t.start = t'.start
  stop_eq : t.stop = t'.stop
  value : SameLetters t.value.toList t'.value.toList

/-- Merging doubled quotes keeps letters the same. -/
theorem sameLetters_mergeDoubled {quote : Char} (hquote : quote.isAlpha = false)
    {cs ds : List Char} (h : SameLetters cs ds) :
    SameLetters (mergeDoubled quote cs) (mergeDoubled quote ds) := by
  induction hn : cs.length using Nat.strongRecOn generalizing cs ds with
  | ind n ih =>
    cases h with
    | nil => exact .nil
    | cons hc h =>
      cases h with
      | nil => exact .cons hc .nil
      | cons hd h =>
        rw [List.length_cons, List.length_cons] at hn
        rw [mergeDoubled, mergeDoubled]
        simp only [hc.eq_iff hquote, hd.eq_iff hquote]
        split
        · rename_i hboth
          have hquoted := of_decide_eq_true (Bool.and_eq_true_iff.mp hboth).1
          have hascii : quote.toNat < 128 := hquoted ▸ hc.ascii'
          exact .cons ⟨hascii, hascii, rfl⟩ (ih _ (by omega) h rfl)
        · exact .cons hc (ih _ (by rw [List.length_cons]; omega) (.cons hd h) rfl)

/-- Taking quotes away keeps letters the same. -/
theorem sameLetters_unquote {opening closing : Char} (hclosing : closing.isAlpha = false)
    {cs ds : List Char} (h : SameLetters cs ds) :
    SameLetters (unquote cs opening closing) (unquote ds opening closing) := by
  have hbody : SameLetters (cs.drop 1) (ds.drop 1) := List.forall₂_drop 1 h
  have hlast : (cs.drop 1).getLast? = some closing ↔ (ds.drop 1).getLast? = some closing := by
    have hreverse := List.rel_reverse hbody
    rw [← List.head?_reverse, ← List.head?_reverse]
    revert hreverse
    generalize (cs.drop 1).reverse = xs
    generalize (ds.drop 1).reverse = ys
    intro hreverse
    cases hreverse with
    | nil => rfl
    | cons hcd _ =>
      rw [List.head?_cons, List.head?_cons, Option.some_inj, Option.some_inj, hcd.eq_iff hclosing]
  have hinside : SameLetters
      (if (cs.drop 1).getLast? = some closing then (cs.drop 1).dropLast else cs.drop 1)
      (if (ds.drop 1).getLast? = some closing then (ds.drop 1).dropLast else ds.drop 1) := by
    rw [if_congr hlast rfl rfl]
    split
    · rw [List.dropLast_eq_take, List.dropLast_eq_take, hbody.length_eq]
      exact List.forall₂_take _ hbody
    · exact hbody
  rw [unquote, unquote]
  split
  · exact sameLetters_mergeDoubled hclosing hinside
  · exact hinside

/-- Texts with the same letters have pieces with the same letters at the same places. -/
theorem piecesFrom_twins {separates : Char → Bool} (hseparates : Text.IgnoresCase separates)
    {cs ds : List Char} (h : SameLetters cs ds) (index : Nat) {piece piece' : List Char}
    (hpiece : SameLetters piece piece') :
    List.Forall₂ (fun a b => a.1 = b.1 ∧ SameLetters a.2 b.2)
      (piecesFrom separates index piece cs) (piecesFrom separates index piece' ds) := by
  have hflush : ∀ {piece piece' : List Char} (index : Nat), SameLetters piece piece' →
      List.Forall₂ (fun a b : Nat × List Char => a.1 = b.1 ∧ SameLetters a.2 b.2)
        (if piece = [] then [] else [(index - piece.length, piece.reverse)])
        (if piece' = [] then [] else [(index - piece'.length, piece'.reverse)]) := by
    intro piece piece' index hpiece
    cases hpiece with
    | nil => exact .nil
    | cons hcd hpiece =>
      rw [if_neg (List.cons_ne_nil _ _), if_neg (List.cons_ne_nil _ _)]
      have hlength := (List.Forall₂.cons hcd hpiece).length_eq
      exact .cons ⟨by rw [hlength], List.rel_reverse (.cons hcd hpiece)⟩ .nil
  induction h generalizing index piece piece' with
  | nil => exact hflush index hpiece
  | cons hcd _ ih =>
    rw [piecesFrom, piecesFrom, hseparates _ _ hcd]
    split
    · exact List.rel_append (hflush index hpiece) (ih _ .nil)
    · exact ih _ (.cons hcd hpiece)

/-- The words of texts with the same letters differ in case only. -/
theorem wordTokens_twins (index : Nat) {cs ds : List Char} (h : SameLetters cs ds) :
    List.Forall₂ Token.CaseTwins (wordTokens index cs) (wordTokens index ds) := by
  refine List.rel_map (fun a b hab => ?_) (piecesFrom_twins ignoresCase_isSpace h index .nil)
  obtain ⟨hstart, hword⟩ := hab
  exact
    { kind_eq := rfl
      start_eq := hstart
      stop_eq := by
        dsimp only
        rw [hstart, hword.length_eq]
      value := by simpa using hword }

/-- What opens a quoted name is no letter. -/
theorem closingQuote?_of_alpha {c : Char} (h : c.isAlpha = true) : closingQuote? c = none := by
  have hne : ∀ mark ∈ [backtick, '"', '['], c ≠ mark := by
    rintro mark hmark rfl
    have hmarks : ∀ mark ∈ [backtick, '"', '['], mark.isAlpha = false := by decide
    rw [hmarks c hmark] at h
    cases h
  rw [closingQuote?, if_neg (hne _ (by simp)), if_neg (hne _ (by simp)), if_neg (hne _ (by simp))]

/-- Texts with the same letters are in the same quotes. -/
theorem quotes_eq_of_twins {cs ds : List Char} (h : SameLetters cs ds) :
    (cs.head?.bind fun opening => (closingQuote? opening).map ((opening, ·))) =
      ds.head?.bind fun opening => (closingQuote? opening).map ((opening, ·)) := by
  cases h with
  | nil => rfl
  | @cons c d _ _ hcd _ =>
    rw [List.head?_cons, List.head?_cons, Option.bind_some, Option.bind_some]
    cases hc : c.isAlpha with
    | false => rw [hcd.eq_of_not_alpha hc]
    | true =>
      have hd : d.isAlpha = true := by
        by_contra hnot
        rw [Bool.not_eq_true] at hnot
        rw [← hcd.symm.eq_of_not_alpha hnot, hnot] at hc
        cases hc
      rw [closingQuote?_of_alpha hc, closingQuote?_of_alpha hd]
      rfl

/-- No letter closes a quote. -/
theorem closing_not_alpha {opening closing : Char} (h : closingQuote? opening = some closing) :
    closing.isAlpha = false := by
  rw [closingQuote?] at h
  split at h
  · obtain rfl := Option.some.inj h
    rfl
  · split at h
    · obtain rfl := Option.some.inj h
      rfl
    · split at h
      · obtain rfl := Option.some.inj h
        rfl
      · cases h

/-- Lexemes with the same letters yield tokens that differ in case only. -/
theorem tokens_twins (index : Nat) {l l' : Lexeme} (h : l.CaseTwins l') :
    List.Forall₂ Token.CaseTwins (l.tokens index) (l'.tokens index) := by
  obtain ⟨kind, cs⟩ := l
  obtain ⟨kind', ds⟩ := l'
  obtain rfl : kind = kind' := h.kind_eq
  have htext : SameLetters cs ds := h.text
  have hwhole : ∀ k, List.Forall₂ Token.CaseTwins
      [⟨k, String.ofList cs, index, index + cs.length⟩]
      [⟨k, String.ofList ds, index, index + ds.length⟩] := fun k =>
    .cons ⟨rfl, rfl, congrArg (index + ·) htext.length_eq, by simpa using htext⟩ .nil
  unfold Lexeme.tokens
  dsimp only
  rw [quotes_eq_of_twins htext]
  split
  case h_1 | h_2 | h_3 | h_4 | h_5 | h_6 => exact .nil
  case h_7 => exact hwhole .string
  case h_8 => exact hwhole .number
  case h_9 => exact hwhole .punctuation
  case h_10 =>
    split
    · rename_i opening closing hquotes
      have hclosing : closing.isAlpha = false := by
        split at hquotes
        · obtain ⟨o, -, ho⟩ := Option.bind_eq_some_iff.mp hquotes
          obtain ⟨d, hd, heq⟩ := Option.map_eq_some_iff.mp ho
          obtain ⟨-, rfl⟩ := Prod.mk.injEq .. ▸ heq
          exact closing_not_alpha hd
        · cases hquotes
      exact .cons ⟨rfl, rfl, congrArg (index + ·) htext.length_eq,
        by simpa using sameLetters_unquote hclosing htext⟩ .nil
    · split
      · exact wordTokens_twins index htext
      · exact hwhole .other

/-- Rows of lexemes with the same letters yield tokens that differ in case only. -/
theorem tokensFrom_twins {ls ls' : List Lexeme} (h : List.Forall₂ Lexeme.CaseTwins ls ls')
    (index : Nat) : List.Forall₂ Token.CaseTwins (tokensFrom index ls) (tokensFrom index ls') := by
  induction h generalizing index with
  | nil => exact .nil
  | cons hl _ ih =>
    rw [tokensFrom, tokensFrom, hl.text.length_eq]
    exact List.rel_append (tokens_twins index hl) (ih _)

/-- The tokens of texts that are the same but for the case of their letters are the same but for
the case of their letters. -/
theorem tokenize_twins {text text' : String} (h : SameLetters text.toList text'.toList)
    (hdollar : '$' ∉ text.toList) :
    List.Forall₂ Token.CaseTwins (tokenize text) (tokenize text') := by
  have hlexemes : List.Forall₂ Lexeme.CaseTwins (lexemes text.toList) (lexemes text'.toList) := by
    rw [lexemes, lexemes, h.length_eq]
    exact lexemesFrom_twins _ ⟨.none, h⟩ hdollar
  exact tokensFrom_twins hlexemes 0

/-! ## Tables -/

/-- Two texts are equal when case is ignored. -/
def EqualUpToCase (a b : String) : Prop :=
  upper a.toList = upper b.toList ∧ lower a.toList = lower b.toList

theorem equalUpToCase_of_sameLetters {a b : String} (h : SameLetters a.toList b.toList) :
    EqualUpToCase a b :=
  ⟨h.upper_eq, h.lower_eq⟩

/-- Names with the same letters, at the same places. -/
def caseless : Correspondence where
  names a b := SameLetters a.toList b.toList
  places := Eq
  upper_eq h := h.upper_eq
  comparable_eq h := by rw [comparable, comparable, h.lower_eq]
  eq_empty_iff {a b} h := by
    rw [← String.toList_eq_nil_iff, ← String.toList_eq_nil_iff, ← List.length_eq_zero_iff,
      h.length_eq, List.length_eq_zero_iff]

/-- Tokens that differ in case only are read alike. -/
theorem Token.CaseTwins.alike {t t' : Token} (h : t.CaseTwins t') : t.Alike caseless t' where
  kind_eq := h.kind_eq
  name _ := h.value
  mark := by
    intro _ mark hmark
    have hmarks : ∀ mark ∈ readMarks, ∀ c ∈ mark.toList, c.isAlpha = false := by decide
    constructor
    · rintro rfl
      exact (String.toList_injective (h.value.eq_of_not_alpha (hmarks _ hmark))).symm
    · rintro rfl
      exact (String.toList_injective (h.value.symm.eq_of_not_alpha (hmarks _ hmark))).symm
  start := h.start_eq
  stop := h.stop_eq

/-- Two tokens at one place whose values are equal when case is ignored. -/
structure Token.EqualUpToCase (t t' : Token) : Prop where
  kind_eq : t.kind = t'.kind
  start_eq : t.start = t'.start
  stop_eq : t.stop = t'.stop
  value : Sql.EqualUpToCase t.value t'.value

/-- Two columns that are equal when the case of their names and declared types is ignored. -/
structure ColumnsEqualUpToCase (c c' : Column) : Prop where
  name : EqualUpToCase c.name c'.name
  type_eq : c.type = c'.type
  typeUnknown_eq : c.typeUnknown = c'.typeUnknown
  primaryKey_eq : c.primaryKey = c'.primaryKey
  autoIncrement_eq : c.autoIncrement = c'.autoIncrement
  nullable_eq : c.nullable = c'.nullable

/-- Declared types at one place of texts with the same letters stand for the same type. -/
theorem ColumnsAlike.equalUpToCase {cs ds : List Char} (h : SameLetters cs ds) {c c' : Column}
    (hc : ColumnsAlike caseless cs ds c c') : ColumnsEqualUpToCase c c' := by
  obtain ⟨start, stop, start', stop', hstart, hstop, hsql, hsql'⟩ := hc.typed.sqlType_eq
  obtain rfl : start = start' := hstart
  obtain rfl : stop = stop' := hstop
  have hslice : SameLetters (slice cs start stop) (slice ds start stop) :=
    List.forall₂_drop start (List.forall₂_take stop h)
  have htype : JavaType.ofSql? c.sqlType = JavaType.ofSql? c'.sqlType := by
    rw [JavaType.ofSql?, JavaType.ofSql?, hsql, hsql', String.toList_ofList, String.toList_ofList,
      hslice.upper_eq]
  exact
    { name := equalUpToCase_of_sameLetters hc.name
      type_eq := by
        rw [hc.typed.type_eq.1, hc.typed.type_eq.2, JavaType.ofSql, JavaType.ofSql, htype]
      typeUnknown_eq := by rw [hc.typed.typeUnknown_eq.1, hc.typed.typeUnknown_eq.2, htype]
      primaryKey_eq := hc.primaryKey_eq
      autoIncrement_eq := hc.autoIncrement_eq
      nullable_eq := hc.nullable_eq }

/-- The tables that are read behind two headers are equal when case is ignored. -/
structure HeadersEqualUpToCase (text text' : String) (h h' : Header) : Prop where
  index_eq : h.index (tokenize text) = h'.index (tokenize text')
  name : EqualUpToCase h.name h'.name
  columns : List.Forall₂ ColumnsEqualUpToCase (h.table text.toList).1.columns
    (h'.table text'.toList).1.columns

/-- A text in upper case. -/
def upperForm (s : String) : String :=
  String.ofList (upper s.toList)

/-- A text in lower case. -/
def lowerForm (s : String) : String :=
  String.ofList (lower s.toList)

/-- The upper-case and the lower-case form of a text of ASCII without dollar signs have tokens that
are equal when case is ignored, at the same places.  Either both hold a header or neither does, at
the same token, and the tables have the same columns in the same order but for the case of names. -/
theorem equalUpToCase_upperForm_lowerForm {s : String} (hascii : ∀ c ∈ s.toList, c.toNat < 128)
    (hdollar : '$' ∉ s.toList) :
    List.Forall₂ Token.EqualUpToCase (tokenize (upperForm s)) (tokenize (lowerForm s)) ∧
      Option.Rel (HeadersEqualUpToCase (upperForm s) (lowerForm s))
        (Header.find? (tokenize (upperForm s))) (Header.find? (tokenize (lowerForm s))) := by
  have hletters : SameLetters (upperForm s).toList (lowerForm s).toList := by
    rw [upperForm, lowerForm, String.toList_ofList, String.toList_ofList]
    exact sameLetters_upper_lower hascii
  have hdollar' : '$' ∉ (upperForm s).toList := by
    rw [upperForm, String.toList_ofList, upper_of_ascii hascii, List.mem_map]
    rintro ⟨c, hc, hupper⟩
    have hsame : c = '$' := forall_below (P := fun c => c.toUpper = '$' → c = '$') (by decide)
      (hascii c hc) hupper
    exact hdollar (hsame ▸ hc)
  have htokens := tokenize_twins hletters hdollar'
  have halike : AllAlike caseless (tokenize (upperForm s)) (tokenize (lowerForm s)) :=
    htokens.imp fun _ _ ht => ht.alike
  refine ⟨htokens.imp fun t t' ht => ?_, ?_⟩
  · exact ⟨ht.kind_eq, ht.start_eq, ht.stop_eq, equalUpToCase_of_sameLetters ht.value⟩
  · rcases rel_cases (AllAlike.find? halike) with
      ⟨hnone, hnone'⟩ | ⟨header, header', hsome, hsome', hheader⟩
    · rw [hnone, hnone']
      exact .none
    · rw [hsome, hsome']
      refine .some ⟨?_, equalUpToCase_of_sameLetters hheader.name, ?_⟩
      · rw [Header.index, Header.index, halike.length_eq, hheader.rest.length_eq]
      · exact (hheader.table _ _).columns.imp fun _ _ hc => hc.equalUpToCase hletters

theorem equalUpToCase_upperForm_lowerForm_keyed :
    (∀ c ∈ "Create Table t (Id Int Primary Key)".toList, c.toNat < 128) ∧
      '$' ∉ "Create Table t (Id Int Primary Key)".toList ∧
      Option.Rel (HeadersEqualUpToCase (upperForm "Create Table t (Id Int Primary Key)")
          (lowerForm "Create Table t (Id Int Primary Key)"))
        (Header.find? (tokenize (upperForm "Create Table t (Id Int Primary Key)")))
        (Header.find? (tokenize (lowerForm "Create Table t (Id Int Primary Key)"))) :=
  ⟨by decide, by decide, (equalUpToCase_upperForm_lowerForm (by decide) (by decide)).2⟩

end EntityMapper.Sql
