import EntityMapper.Proofs.Sql.Spans
import EntityMapper.Proofs.Sql.Yields

/-!
# The tokens from a place on

The tokens that are read from a place of a text on, which stands at a given index. White space is
passed over character by character, and at another index the same tokens are read further on.
-/

namespace EntityMapper.Sql

open Pattern Text

/-- The tokens from a place on that stands at the given index. -/
def tokensAt [DelimiterForm] (index : Nat) (s : Cursor) : List Token :=
  tokensFrom index (lexemesAt s)

/-- The tokens of a text are those from its start on, counted from zero. -/
theorem tokenize_eq [DelimiterForm] (cs : List Char) :
    tokenize (String.ofList cs) = tokensAt 0 (Cursor.start cs) := by
  rw [tokenize, String.toList_ofList]
  rfl

/-- At the end of a text there are no tokens. -/
@[simp] theorem tokensAt_nil (index : Nat) (before : Option Char) :
    tokensAt index ⟨before, []⟩ = [] := rfl

/-- The tokens of the lexeme at a place stand in front of those from the place behind it. -/
theorem tokensAt_append [DelimiterForm] {before : Option Char} {cs rest : List Char}
    {kind : LexemeKind} (hne : cs ≠ []) (h : lexeme ⟨before, cs ++ rest⟩ = (kind, cs.length))
    (index : Nat) :
    tokensAt index ⟨before, cs ++ rest⟩ = Lexeme.tokens index ⟨kind, cs⟩ ++
      tokensAt (index + cs.length) ⟨cs.getLast?.or before, rest⟩ := by
  rw [tokensAt, lexemesAt_append hne h]
  rfl

/-- What a text yields stands in front of the tokens from the place behind it. -/
theorem tokensAt_of_yields {before : Option Char} {cs rest : List Char} {tokens : Nat → List Token}
    (h : Yields before cs rest tokens) (index : Nat) :
    tokensAt index ⟨before, cs ++ rest⟩ =
      tokens index ++ tokensAt (index + cs.length) ⟨cs.getLast?.or before, rest⟩ := by
  obtain ⟨ls, hls, -, htokens⟩ := h
  rw [tokensAt, hls, tokensFrom_append, htokens, textOf_of_lexemesAt hls]
  rfl

/-- A lexeme of a skipped kind yields no tokens. -/
theorem tokens_of_isSkipped {l : Lexeme} (h : l.kind.isSkipped = true) (index : Nat) :
    l.tokens index = [] := by
  obtain ⟨kind, text⟩ := l
  cases kind <;> first | rfl | cases h

/-! ## White space -/

/-- The end of a line is a lexeme, its two characters together if it has both. -/
theorem lexeme_of_lineBreak [DelimiterForm] {c : Char} (hc : c = '\r' ∨ c = '\n')
    (rest : List Char) :
    (∀ before, lexeme ⟨before, c :: rest⟩ = (.newline, 1)) ∨
      c = '\r' ∧ ∃ more, rest = '\n' :: more ∧
        ∀ before, lexeme ⟨before, c :: rest⟩ = (.newline, 2) := by
  have hfirst : ∀ c ∈ ['\r', '\n'], (∀ r ∈ rules.take 2, r.pattern.mayTake c = false) ∧
      dollarDelimiter.mayTake c = false ∧ c ≠ '/' := by decide
  have hrule : rules[2]? = some (always .newline lineBreak) := rfl
  have hread {n : Nat} (hn : 0 < n)
      (hlength : ∀ before, lineBreak.length? ⟨before, c :: rest⟩ = some n) (before : Option Char) :
      lexeme ⟨before, c :: rest⟩ = (.newline, n) := by
    obtain ⟨hrules, hdollar, hslash⟩ := hfirst c (by simpa using hc)
    exact lexeme_of_ruled? hdollar hslash hn (ruled?_of_first hrule hrules (hlength before))
  have single (n : Nat) : n + 1 - n = 1 := Nat.add_sub_cancel_left n 1
  rcases hc with rfl | rfl
  · rcases rest with _ | ⟨d, rest⟩
    · exact .inl (hread Nat.zero_lt_one fun _ => rfl)
    · by_cases hd : d = '\n'
      · subst hd
        refine .inr ⟨rfl, rest, rfl, hread Nat.zero_lt_two fun _ => ?_⟩
        change some (rest.length + 2 - rest.length) = some 2
        rw [Nat.add_sub_cancel_left]
      · refine .inl (hread Nat.zero_lt_one fun _ => ?_)
        have hfeed : sameLetter '\n' d = false := by
          rw [sameLetter_of_not_alpha (by decide) rfl]
          exact beq_eq_false_iff_ne.mpr fun h => hd h.symm
        change ((if sameLetter '\n' d = true then _ else none) <|> _) = some 1
        rw [if_neg (by simp [hfeed])]
        change some ((d :: rest).length + 1 - (d :: rest).length) = some 1
        rw [single]
  · refine .inl (hread Nat.zero_lt_one fun _ => ?_)
    change some (rest.length + 1 - rest.length) = some 1
    rw [single]

/-- White space is a lexeme of its own that yields no token; only the two characters that end a
line together are one. What stands in front of it does not matter. -/
theorem lexeme_of_isSpace [DelimiterForm] {c : Char} (hc : isSpace c = true) (rest : List Char) :
    ∃ kind : LexemeKind, kind.isSkipped = true ∧
      ((∀ before, lexeme ⟨before, c :: rest⟩ = (kind, 1)) ∨
        c = '\r' ∧ ∃ more, rest = '\n' :: more ∧
          ∀ before, lexeme ⟨before, c :: rest⟩ = (kind, 2)) := by
  by_cases hbreak : c = '\r' ∨ c = '\n'
  · exact ⟨.newline, rfl, lexeme_of_lineBreak hbreak rest⟩
  · rw [not_or] at hbreak
    have hne : ∀ q ∈ ['-', '#', '$', '/'], c ≠ q := by
      have hmarks : ∀ q ∈ ['-', '#', '$', '/'], isSpace q = false := by decide
      rintro q hq rfl
      rw [hmarks c hq] at hc
      cases hc
    have hletter {q : Char} (hq : q.toNat < 128 ∧ q.isAlpha = false) (h : c ≠ q) :
        sameLetter q c = false := by
      rw [sameLetter_of_not_alpha hq.1 hq.2]
      exact beq_eq_false_iff_ne.mpr h.symm
    have hdash := hletter (q := '-') (by decide) (hne _ (by simp))
    have hhash := hletter (q := '#') (by decide) (hne _ (by simp))
    have hdollar : dollarDelimiter.mayTake c = false := by
      change ((sameLetter '$' c || false) || false) = false
      rw [hletter (by decide) (hne _ (by simp))]
      rfl
    have hfirst : ∀ r ∈ rules.take 3, r.pattern.mayTake c = false := by
      have hstart : mayTake c lineCommentStart = false := by
        change ((sameLetter '-' c || false) || (sameLetter '#' c || false)) = false
        rw [hdash, hhash]
        rfl
      have hend : mayTake c lineBreak = false := by
        change ((sameLetter '\r' c || false) || ((sameLetter '\r' c || false) ||
          (sameLetter '\n' c || false))) = false
        rw [hletter (q := '\r') (by decide) hbreak.1, hletter (q := '\n') (by decide) hbreak.2]
        rfl
      have htake : rules.take 3 = [always .lineHint (lineCommentStart ++ letter '+' ++ restOfLine),
        always .lineComment (lineCommentStart ++ restOfLine), always .newline lineBreak] := rfl
      rw [htake, List.forall_mem_cons, List.forall_mem_cons, List.forall_mem_singleton]
      refine ⟨?_, ?_, hend⟩
      · change ((mayTake c lineCommentStart || false) || false) = false
        rw [hstart]
        rfl
      · change (mayTake c lineCommentStart || false) = false
        rw [hstart]
        rfl
    exact ⟨.blank, rfl, .inl fun _ =>
      lexeme_of_one (i := 3) rfl hc hfirst hdollar (hne _ (by simp))⟩

/-- White space in front of tokens yields none. -/
theorem tokensAt_space [DelimiterForm] {c : Char} (hc : isSpace c = true) (index : Nat)
    (before : Option Char) (rest : List Char) :
    tokensAt index ⟨before, c :: rest⟩ = tokensAt (index + 1) ⟨some c, rest⟩ := by
  have single {c : Char} {kind : LexemeKind} (hkind : kind.isSkipped = true) (index : Nat)
      {before : Option Char} {rest : List Char}
      (h : lexeme ⟨before, c :: rest⟩ = (kind, 1)) :
      tokensAt index ⟨before, c :: rest⟩ = tokensAt (index + 1) ⟨some c, rest⟩ := by
    have happend := @tokensAt_append _ before [c] rest kind (List.cons_ne_nil c []) h index
    rw [tokens_of_isSkipped hkind] at happend
    exact happend
  obtain ⟨kind, hkind, h | ⟨rfl, more, rfl, h⟩⟩ := lexeme_of_isSpace hc rest
  · exact single hkind index (h before)
  · obtain ⟨kind', hkind', h' | ⟨hfeed, -⟩⟩ := lexeme_of_isSpace (c := '\n') (by decide) more
    · have happend :=
        @tokensAt_append _ before ['\r', '\n'] more kind (List.cons_ne_nil _ _) (h before) index
      rw [tokens_of_isSkipped hkind] at happend
      rw [single hkind' _ (h' _)]
      exact happend
    · exact absurd hfeed (by decide)

/-! ## Another index -/

/-- The token further on in a text. -/
def Token.shift (d : Nat) (t : Token) : Token :=
  { t with start := t.start + d, stop := t.stop + d }

/-- Pieces counted from a later index stand later by as much. -/
theorem piecesFrom_shift (separates : Char → Bool) (d : Nat) {index : Nat} {piece : List Char}
    (h : piece.length ≤ index) (cs : List Char) :
    piecesFrom separates (index + d) piece cs =
      (piecesFrom separates index piece cs).map fun p => (p.1 + d, p.2) := by
  have hflush : (if piece = [] then [] else [(index + d - piece.length, piece.reverse)]) =
      (if piece = [] then [] else [(index - piece.length, piece.reverse)]).map
        fun p : Nat × List Char => (p.1 + d, p.2) := by
    split
    · rfl
    · rw [List.map_singleton, Nat.sub_add_comm h]
  induction cs generalizing index piece with
  | nil => exact hflush
  | cons c cs ih =>
    rw [piecesFrom, piecesFrom]
    split
    · rw [hflush, Nat.add_right_comm, ih (Nat.zero_le _) rfl, List.map_append]
    · have hcons : (c :: piece).length ≤ index + 1 := Nat.succ_le_succ h
      rw [Nat.add_right_comm, ih hcons ?_]
      rw [if_neg (List.cons_ne_nil _ _), if_neg (List.cons_ne_nil _ _), List.map_singleton,
        Nat.sub_add_comm hcons]

/-- The words of a text counted from a later index stand later by as much. -/
theorem wordTokens_shift (index d : Nat) (cs : List Char) :
    wordTokens (index + d) cs = (wordTokens index cs).map (Token.shift d) := by
  rw [wordTokens, wordTokens, piecesFrom_shift isSpace d (Nat.zero_le index) cs, List.map_map,
    List.map_map]
  refine List.map_congr_left fun p _ => ?_
  simp [Token.shift, Nat.add_right_comm]

/-- The tokens of a lexeme counted from a later index stand later by as much. -/
theorem Lexeme.tokens_shift (l : Lexeme) (index d : Nat) :
    l.tokens (index + d) = (l.tokens index).map (Token.shift d) := by
  have whole (kind : TokenKind) (value : String) :
      ([⟨kind, value, index + d, index + d + l.text.length⟩] : List Token) =
        [⟨kind, value, index, index + l.text.length⟩].map (Token.shift d) := by
    simp [Token.shift, Nat.add_right_comm]
  unfold Lexeme.tokens
  dsimp only
  split
  case h_1 | h_2 | h_3 | h_4 | h_5 | h_6 => rfl
  case h_7 | h_8 | h_9 => exact whole _ _
  case h_10 =>
    split
    · exact whole _ _
    · split
      · exact wordTokens_shift index d l.text
      · exact whole _ _

/-- At another index the same tokens are read further on. -/
theorem tokensFrom_shift (index d : Nat) (ls : List Lexeme) :
    tokensFrom (index + d) ls = (tokensFrom index ls).map (Token.shift d) := by
  induction ls generalizing index with
  | nil => rfl
  | cons l ls ih =>
    rw [tokensFrom, tokensFrom, l.tokens_shift, Nat.add_right_comm, ih, List.map_append]

/-- The tokens at a place counted from a later index stand later by as much. -/
theorem tokensAt_shift [DelimiterForm] (index d : Nat) (s : Cursor) :
    tokensAt (index + d) s = (tokensAt index s).map (Token.shift d) :=
  tokensFrom_shift index d _

end EntityMapper.Sql
