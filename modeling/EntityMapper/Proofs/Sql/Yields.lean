import EntityMapper.Proofs.Sql.Numbers
import EntityMapper.Proofs.Sql.Quoted
import EntityMapper.Proofs.Sql.Spans
import EntityMapper.Proofs.Sql.Statements

/-!
# Texts that are read piece by piece

A text yields tokens in front of another text if it is read as whole lexemes that end no statement,
whatever the other text goes on with. Such texts can be put together. The pieces are blanks, marks,
names in backticks, rows of digits, and words that a run on their beginning recognises.
-/

namespace EntityMapper.Sql

/-- A text is read as lexemes of its own that end no statement, and these yield the tokens. -/
def Yields (before : Option Char) (cs rest : List Char) (tokens : Nat → List Token) : Prop :=
  ∃ ls, lexemesAt ⟨before, cs ++ rest⟩ = ls ++ lexemesAt ⟨cs.getLast?.or before, rest⟩ ∧
    (∀ l ∈ ls, l.IsCalm) ∧ ∀ index, tokensFrom index ls = tokens index

variable {before : Option Char} {cs xs ys rest : List Char} {t u : Nat → List Token}

/-- The lexemes in front of the rest of a text make up the text in front of it. -/
theorem textOf_of_lexemesAt {ls : List Lexeme}
    (h : lexemesAt ⟨before, cs ++ rest⟩ = ls ++ lexemesAt ⟨cs.getLast?.or before, rest⟩) :
    textOf ls = cs := by
  have htext := congrArg textOf h
  rw [textOf_append, textOf_lexemesAt, textOf_lexemesAt] at htext
  exact (List.append_cancel_right htext).symm

/-- A yield may be written with any tokens that are equal at every index. -/
theorem Yields.congr (h : Yields before cs rest t) (htu : ∀ index, t index = u index) :
    Yields before cs rest u := by
  obtain ⟨ls, hls, hcalm, htokens⟩ := h
  exact ⟨ls, hls, hcalm, fun index => (htokens index).trans (htu index)⟩

/-- Texts that are read piece by piece can be put together. -/
theorem Yields.append (hx : Yields before xs (ys ++ rest) t)
    (hy : Yields (xs.getLast?.or before) ys rest u) :
    Yields before (xs ++ ys) rest fun index => t index ++ u (index + xs.length) := by
  obtain ⟨ls, hls, hlscalm, hlstokens⟩ := hx
  obtain ⟨ms, hms, hmscalm, hmstokens⟩ := hy
  refine ⟨ls ++ ms, ?_, ?_, fun index => ?_⟩
  · rw [List.append_assoc, hls, hms, List.append_assoc, List.getLast?_append, Option.or_assoc]
  · intro l hl
    exact (List.mem_append.mp hl).elim (hlscalm l) (hmscalm l)
  · rw [tokensFrom_append, hlstokens, hmstokens, textOf_of_lexemesAt hls]

/-- The empty text yields no tokens. -/
theorem yields_nil (before : Option Char) (rest : List Char) :
    Yields before [] rest fun _ => [] :=
  ⟨[], by simp, by simp, fun _ => rfl⟩

/-- A lexeme that is calm is read by itself. -/
theorem yields_lexeme (kind : LexemeKind) (hne : cs ≠ [])
    (h : lexeme ⟨before, cs ++ rest⟩ = (kind, cs.length)) (hcalm : Lexeme.IsCalm ⟨kind, cs⟩) :
    Yields before cs rest fun index => Lexeme.tokens index ⟨kind, cs⟩ :=
  ⟨[⟨kind, cs⟩], lexemesAt_append hne h, by simpa using hcalm, fun _ => by simp [tokensFrom]⟩

/-! ## Blanks and marks -/

/-- A character that one rule accepts and no earlier rule begins with is one lexeme. -/
theorem lexeme_of_one [DelimiterForm] {i : Nat} {accepts : Char → Bool} {kind : LexemeKind}
    {c : Char} (hi : rules[i]? = some (always kind (.one accepts))) (hc : accepts c = true)
    (hfirst : ∀ r ∈ rules.take i, r.pattern.mayTake c = false)
    (hdollar : dollarDelimiter.mayTake c = false) (hslash : c ≠ '/') :
    lexeme ⟨before, c :: rest⟩ = (kind, 1) := by
  refine lexeme_of_ruled? hdollar hslash Nat.zero_lt_one ?_
  refine ruled?_of_first hi hfirst ?_
  change (if accepts c = true then some ((c :: rest).length - rest.length) else none) = some 1
  rw [if_pos hc, List.length_cons, Nat.add_sub_cancel_left]

/-- A blank yields no token. -/
theorem yields_blank (before : Option Char) (rest : List Char) :
    Yields before [' '] rest fun _ => [] :=
  yields_lexeme .blank (List.cons_ne_nil _ _)
    (lexeme_of_one (i := 3) rfl (by decide) (by decide) (by decide) (by decide))
    ⟨rfl, by simp⟩

/-- The marks of a column section. -/
def sectionMarks : List Char := ['(', ')', ',']

def mark (c : Char) (index : Nat) : Token :=
  ⟨.punctuation, String.ofList [c], index, index + 1⟩

/-- A mark yields itself. -/
theorem yields_mark {c : Char} (hc : c ∈ sectionMarks) (before : Option Char)
    (rest : List Char) : Yields before [c] rest fun index => [mark c index] := by
  have hmarks : ∀ c ∈ sectionMarks, (";:()[],.".toList.contains c = true ∧
      (∀ r ∈ rules.take 46, r.pattern.mayTake c = false) ∧ dollarDelimiter.mayTake c = false ∧
        c ≠ '/' ∧ c ≠ ';') := by decide
  obtain ⟨hone, hfirst, hdollar, hslash, hsemicolon⟩ := hmarks c hc
  refine yields_lexeme .punctuation (List.cons_ne_nil _ _)
    (lexeme_of_one (i := 46) rfl hone hfirst hdollar hslash) ⟨?_, by simp⟩
  simp [Lexeme.isSemicolon, hsemicolon]

/-! ## Names and numbers -/

/-- A name in backticks yields the name. -/
theorem yields_name (before : Option Char) (cs : List Char) {rest : List Char}
    (hrest : rest.head? ≠ some backtick) : Yields before (inBackticks cs) rest fun index =>
      [⟨.quoted, String.ofList cs, index, index + (inBackticks cs).length⟩] := by
  refine (yields_lexeme .name (by simp [inBackticks])
    (lexeme_inBackticks before cs hrest) ⟨rfl, by simp⟩).congr fun index => ?_
  change [(⟨.quoted, String.ofList (unquote (inBackticks cs) backtick backtick), index,
    index + (inBackticks cs).length⟩ : Token)] = _
  rw [unquote_inBackticks]

/-- A row of digits yields a number. -/
theorem yields_digits {ds : List Char} (hne : ds ≠ []) (hds : ∀ d ∈ ds, d.isDigit = true)
    {last : Char} (hlast : last ∈ argumentEnds) (before : Option Char) (rest : List Char) :
    Yields before ds (last :: rest) fun index =>
      [⟨.number, String.ofList ds, index, index + ds.length⟩] :=
  yields_lexeme .number hne (lexeme_digits hne hds hlast before) ⟨rfl, by simp⟩

/-! ## Words -/

/-- Whether a text can only be a lexeme by the rules, of which no quote is undone and which ends
no statement. -/
def isPlain (word : List Char) : Bool :=
  word.head?.all (fun c => !dollarDelimiter.mayTake c && c != '/' && closingQuote? c == none) &&
    word != [] && (Text.pieces Text.isSpace word).head? != some "GO".toList

/-- Whether the rules read a text as words where another one follows. -/
def readsWords (before : Option Char) (word next : List Char) : Bool :=
  match glimpseRules ⟨before, word ++ next⟩ rules with
  | some (some (kind, n)) => isPlain word && kind.isWordLike && n == word.length
  | _ => false

/-- A word-like lexeme that does not begin with a quote yields its words. -/
theorem tokens_of_isWordLike {l : Lexeme} (hkind : l.kind.isWordLike = true)
    (hhead : l.text.head?.all (fun c => closingQuote? c == none) = true) (index : Nat) :
    l.tokens index = wordTokens index l.text := by
  obtain ⟨kind, text⟩ := l
  cases kind <;> try cases hkind
  all_goals
    unfold Lexeme.tokens
    dsimp only
    cases text with
    | nil => rfl
    | cons c cs =>
      have hc : closingQuote? c = none := by simpa using hhead
      simp [hc, LexemeKind.isNameLike, LexemeKind.isWordLike]

/-- Words that the rules recognise in front of a text yield themselves. -/
theorem yields_words {word : List Char} (next : List Char) (h : readsWords before word next = true)
    (hnext : next <+: rest) :
    Yields before word rest fun index => wordTokens index word := by
  obtain ⟨more, rfl⟩ := hnext
  rw [readsWords] at h
  split at h
  · rename_i kind n hglimpse
    simp only [isPlain, Bool.and_eq_true, bne_iff_ne, ne_eq, beq_iff_eq] at h
    obtain ⟨⟨⟨⟨hhead, hne⟩, hgo⟩, hkind⟩, rfl⟩ := h
    obtain ⟨c, cs, rfl⟩ := List.exists_cons_of_ne_nil hne
    simp only [List.head?_cons, Option.all_some, Bool.and_eq_true, Bool.not_eq_true',
      bne_iff_ne, ne_eq, beq_iff_eq] at hhead
    obtain ⟨⟨hdollar, hslash⟩, hquote⟩ := hhead
    have hruled := ruled?_of_glimpse hglimpse more
    rw [List.append_assoc] at hruled
    refine (yields_lexeme kind hne
      (lexeme_of_ruled? hdollar hslash (by simp) hruled) ⟨?_, fun hk => hgo hk.2⟩).congr
        fun index => tokens_of_isWordLike hkind (by simp [hquote]) index
    cases kind <;> first | rfl | cases hkind
  · cases h

end EntityMapper.Sql
