import EntityMapper.Proofs.Sql.Announcement
import EntityMapper.Proofs.Sql.Keywords
import EntityMapper.Proofs.Sql.Layout
import EntityMapper.Proofs.Sql.Places

/-!
# Reading word by word

Keywords that stand together are one lexeme, and its tokens are its words. The tokens from a place
on where such a lexeme begins are its first word and the tokens from the place behind that word on,
as if the lexer had been stopped there: whatever the words behind the first one are read as, by
themselves or together with others, their tokens are the same.
-/

namespace EntityMapper.Sql

open Pattern Text

/-! ## Words at a place -/

/-- Whether the words that a text begins with do not end at a dollar or number sign, which would
belong to the last of them if it stood alone. -/
def isUnmarked (cs : List Char) : Bool :=
  (cs.dropWhile fun c => isSpace c || isWord c).head?.all fun c => c != '$' && c != '#'

/-- White space and words in front of a text do not change whether it is unmarked. -/
theorem isUnmarked_append {xs : List Char} (h : ∀ c ∈ xs, isSpace c = true ∨ isWord c = true)
    (ys : List Char) : isUnmarked (xs ++ ys) = isUnmarked ys := by
  rw [isUnmarked, List.dropWhile_append_of_pos fun c hc => by simpa using h c hc, isUnmarked]

/-- Behind a word of an unmarked text stands no dollar or number sign. -/
theorem head_of_isUnmarked {cs : List Char} (h : isUnmarked cs = true) {c : Char}
    (hc : cs.head? = some c) (hword : isWord c = false) : c ≠ '$' ∧ c ≠ '#' := by
  obtain ⟨rest, rfl⟩ := List.head?_eq_some_iff.mp hc
  cases hspace : isSpace c with
  | true =>
    constructor
    · rintro rfl
      exact absurd hspace (by decide)
    · rintro rfl
      exact absurd hspace (by decide)
  | false =>
    rw [isUnmarked, List.dropWhile_cons_of_neg (by simp [hspace, hword])] at h
    simpa using h

/-- A word is read at a place: as a lexeme of its own, or as the first word of a lexeme that only
words can be read in. -/
structure ReadsWord [DelimiterForm] (before : Option Char) (word rest : List Char) : Prop where
  ne_nil : word ≠ []
  isWord : ∀ c ∈ word, Text.isWord c = true
  next : rest.head?.any Text.isWord = false
  kind : (lexeme ⟨before, word ++ rest⟩).1.isWordLike = true
  alone_or : (lexeme ⟨before, word ++ rest⟩).2 = word.length ∨
    (word.head?.any isLetter = true ∧ isOneOf specialWords word = false ∧
      isUnmarked (word ++ rest) = true)

variable {before : Option Char} {word rest : List Char}

/-- A sealed place lies behind the word. -/
theorem length_le_of_sealed (hword : ∀ c ∈ word, isWord c = true) {n : Nat} (hn : 0 < n)
    (h : (Cursor.advance n ⟨before, word ++ rest⟩).Sealed) : word.length ≤ n := by
  by_contra hlt
  have hlen : (word.take n).length = n := by
    rw [List.length_take]
    omega
  have hplace : Cursor.advance n ⟨before, word ++ rest⟩ =
      ⟨(word.take n).getLast?.or before, word.drop n ++ rest⟩ := by
    conv_lhs => rw [← List.take_append_drop n word, List.append_assoc]
    have hadvance := Cursor.advance_append before (word.take n) (word.drop n ++ rest)
    rwa [hlen] at hadvance
  have hbefore : word.take n ≠ [] := by
    rw [← List.length_pos_iff, hlen]
    exact hn
  have hafter : word.drop n ≠ [] := by
    rw [← List.length_pos_iff, List.length_drop]
    omega
  rw [hplace] at h
  have hhead := h (getLast_isWord hbefore (fun c hc => hword c (List.mem_of_mem_take hc)) before)
  rw [head_isWord hafter (fun c hc => hword c (List.mem_of_mem_drop hc))] at hhead
  cases hhead

/-- A word that is taken up to the end of a word is the whole word. -/
theorem consumes_word {s m : Cursor} {cs : List Char} (hrest : s.rest = word ++ rest)
    (hword : ∀ c ∈ word, isWord c = true) (hnext : rest.head?.any isWord = false)
    (hcs : ∀ c ∈ cs, isWord c = true) (hm : m.rest.head?.any isWord = false)
    (h : Consumes s cs m) : cs = word ∧ m.rest = rest := by
  obtain ⟨heq, hmore⟩ := run_unique hcs hword hm hnext (h.1.symm.trans hrest)
  exact ⟨heq, hmore⟩

/-- A lexeme that is read as words is cut into them. -/
theorem tokensAt_of_isWordLike [DelimiterForm] {kind : LexemeKind} (hkind : kind.isWordLike = true)
    (hhead : word.head?.any isWord = true) (h : lexeme ⟨before, word ++ rest⟩ = (kind, word.length))
    (index : Nat) :
    tokensAt index ⟨before, word ++ rest⟩ = wordTokens index word ++
      tokensAt (index + word.length) ⟨word.getLast?.or before, rest⟩ := by
  obtain ⟨c, hc, hwordc⟩ : ∃ c, word.head? = some c ∧ isWord c = true := by
    cases hword : word.head? with
    | none => simp [hword] at hhead
    | some c => exact ⟨c, rfl, by simpa [hword] using hhead⟩
  have hne : word ≠ [] := by
    rintro rfl
    cases hc
  have hquote : closingQuote? c = none := by
    have hmarks : ∀ q ∈ [backtick, '"', '['], isWord q = false := by decide
    have hnot : ∀ q ∈ [backtick, '"', '['], c ≠ q := by
      rintro q hq rfl
      rw [hmarks c hq] at hwordc
      cases hwordc
    rw [closingQuote?, if_neg (hnot _ (by simp)), if_neg (hnot _ (by simp)),
      if_neg (hnot _ (by simp))]
  rw [tokensAt_append hne h,
    tokens_of_isWordLike (l := ⟨kind, word⟩) hkind (by simp [hc, hquote])]

/-- White space in front of tokens yields none. -/
theorem tokensAt_blank [DelimiterForm] {blank : List Char} (h : ∀ c ∈ blank, isSpace c = true)
    (index : Nat) (before : Option Char) (rest : List Char) :
    tokensAt index ⟨before, blank ++ rest⟩ =
      tokensAt (index + blank.length) ⟨blank.getLast?.or before, rest⟩ := by
  induction blank generalizing index before with
  | nil => rfl
  | cons c cs ih =>
    rw [List.cons_append, tokensAt_space (h c List.mem_cons_self),
      ih (fun d hd => h d (List.mem_cons_of_mem c hd)), List.length_cons, List.getLast?_cons,
      Nat.add_right_comm, Nat.add_assoc]
    cases cs.getLast? <;> rfl

/-- White space in front of a text only moves its words. -/
theorem wordTokens_blank {blank : List Char} (h : ∀ c ∈ blank, isSpace c = true) (index : Nat)
    (rest : List Char) :
    wordTokens index (blank ++ rest) = wordTokens (index + blank.length) rest := by
  induction blank generalizing index with
  | nil => rfl
  | cons c cs ih =>
    rw [List.cons_append, wordTokens_space _ (h c List.mem_cons_self),
      ih (fun d hd => h d (List.mem_cons_of_mem c hd)), List.length_cons, Nat.add_right_comm,
      Nat.add_assoc]

/-! ## Words of a phrase -/

/-- The first word of a phrase is the word that the text begins with, and the phrase goes on behind
it. -/
theorem first_of_spelled {value : String} {ps : List Piece} {cs more : List Char}
    (hvalue : isSpelling value = true) (hps : ps.head?.all (· == .gap) = true)
    (h : Spelled (.word value :: ps) cs) (hword : ∀ c ∈ word, isWord c = true)
    (hnext : rest.head?.any isWord = false) (heq : word ++ rest = cs ++ more)
    (hseal : cs.getLast?.any isWord = true → more.head?.any isWord = false) :
    List.Forall₂ (fun d c => sameLetter d c = true) value.toList word ∧
      ∃ cs', cs = word ++ cs' ∧ Spelled ps cs' ∧ rest = cs' ++ more := by
  cases h with
  | @word _ xs cs' _ hletters hrest =>
    obtain ⟨hfirst, hxs⟩ := isWord_of_spelling hvalue hletters
    have hbehind : (cs' ++ more).head?.any isWord = false := by
      cases hrest with
      | nil =>
        refine hseal ?_
        rw [List.append_nil]
        have hne : xs ≠ [] := by
          rintro rfl
          cases hfirst
        simpa using getLast_isWord hne hxs none
      | word _ _ => simp at hps
      | gap hne hblank _ =>
        obtain ⟨c, blank, rfl⟩ := List.exists_cons_of_ne_nil hne
        exact isWord_of_isSpace (hblank c List.mem_cons_self)
    rw [List.append_assoc] at heq
    obtain ⟨rfl, rfl⟩ := run_unique hword hxs hnext hbehind heq
    exact ⟨hletters, cs', rfl, hrest, rfl⟩

/-- The white space that a phrase goes on with is followed by the first letter of its next word. -/
theorem head_of_spelled {value : String} {ps : List Piece} {cs : List Char}
    (hvalue : isSpelling value = true) (h : Spelled (.gap :: .word value :: ps) cs)
    (more : List Char) :
    ((cs ++ more).dropWhile isSpace).head?.map fold = value.toList.head?.map fold := by
  cases h with
  | gap _ hblank hrest =>
    cases hrest with
    | @word _ word cs' _ hletters _ =>
      obtain ⟨hfirst, hisWord⟩ := isWord_of_spelling hvalue hletters
      obtain ⟨c, word, rfl⟩ : ∃ c w, word = c :: w := by
        cases word with
        | nil => cases hfirst
        | cons c word => exact ⟨c, word, rfl⟩
      have hspace : isSpace c = false := isSpace_of_isWord (hisWord c List.mem_cons_self)
      rw [List.append_assoc, List.dropWhile_append_of_pos hblank, List.append_assoc,
        List.cons_append, List.dropWhile_cons_of_neg (by simp [hspace])]
      have hfold := map_fold_of_sameLetters hletters
      rw [← List.head?_map, ← List.head?_map, hfold]
      rfl

/-- A letter is read by a rule. -/
theorem exists_rule_of_letter [DelimiterForm] {c : Char} (hc : isLetter c = true)
    (before : Option Char) (cs : List Char) :
    ∃ rule ∈ rules, ∃ n, rule.pattern.length? ⟨before, c :: cs⟩ = some n ∧
      lexeme ⟨before, c :: cs⟩ = (rule.kind ((c :: cs).take n), n) := by
  have hletters : ∀ c ∈ letters, dollarDelimiter.mayTake c = false ∧ c ≠ '/' := by
    decide +kernel
  obtain ⟨hdollar, hslash⟩ := hletters c (mem_letters hc)
  have hbare : (⟨one isWord ++ zeroOrMore fun c => c == '$' || c == '#' || isWord c, wordKind⟩ :
      LexicalRule) ∈ rules := List.mem_of_getElem? (i := 45) rfl
  have hmatches : ((one isWord ++ zeroOrMore fun c => c == '$' || c == '#' || isWord c).length?
      ⟨before, c :: cs⟩).isSome := by
    rw [length?_isSome_iff]
    exact ⟨_, _, takes_cons.mpr ⟨isWord_of_isLetter hc, rfl⟩, .refl⟩
  have hruled : (ruled? ⟨before, c :: cs⟩).isSome := by
    rw [ruled?, List.findSome?_isSome_iff]
    exact ⟨_, hbare, by simpa using hmatches⟩
  obtain ⟨found, hfound⟩ := Option.isSome_iff_exists.mp hruled
  obtain ⟨rule, hrule, hmatch⟩ := List.exists_of_findSome?_eq_some hfound
  obtain ⟨n, hn, rfl⟩ := Option.map_eq_some_iff.mp hmatch
  exact ⟨rule, hrule, n, hn, lexeme_of_ruled? hdollar hslash (length?_pos hrule hn) hfound⟩

/-- A rule that may yield words seals the place where it ends. -/
theorem sealed_of_length? {rule : LexicalRule} (h : Seals rule.pattern) {s : Cursor} {n : Nat}
    (hn : rule.pattern.length? s = some n) : (s.advance n).Sealed :=
  h _ _ (exists_end_of_length? hn)

/-- What is taken of a text up to a place. -/
theorem consumes_of_length? {p : Pattern} {s : Cursor} {n : Nat} (h : p.length? s = some n) :
    Consumes s (s.rest.take n) (s.advance n) :=
  consumes_advance (ends_of_length? h).2

/-- A lexeme whose characters behind the first are of a class ends in front of the first other one.
-/
theorem length_le_of_tail {accepts : Char → Bool} {n : Nat} (hne : word ≠ [])
    (hn : n ≤ (word ++ rest).length)
    (htail : ∀ c ∈ ((word ++ rest).take n).tail, accepts c = true)
    (hrest : ∀ c, rest.head? = some c → accepts c = false) : n ≤ word.length := by
  by_contra hlt
  rcases rest with _ | ⟨d, ds⟩
  · rw [List.append_nil] at hn
    exact hlt hn
  · obtain ⟨k, rfl⟩ : ∃ k, n = word.length + (k + 1) := ⟨n - word.length - 1, by omega⟩
    obtain ⟨c, cs, rfl⟩ := List.exists_cons_of_ne_nil hne
    have hmem : d ∈ ((c :: cs ++ d :: ds).take ((c :: cs).length + (k + 1))).tail := by
      rw [List.take_length_add_append, List.take_succ_cons, List.cons_append, List.tail_cons]
      exact List.mem_append_right cs List.mem_cons_self
    have htrue := htail d hmem
    rw [hrest d rfl] at htrue
    cases htrue

/-- No word that begins with another letter is the operator that divides. -/
theorem isWordLike_wordKind {c : Char} (hc : isLetter c = true) (hd : fold c ≠ 'd')
    (cs : List Char) : (wordKind (c :: cs)).isWordLike = true := by
  have hletters : ∀ c ∈ letters, fold c ≠ 'd' → (upperChar c).head?.any (· != 'D') = true := by
    decide +kernel
  have hupper : String.ofList (upper (c :: cs)) ≠ "DIV" := by
    intro h
    have hlist := congrArg String.toList h
    rw [String.toList_ofList, upper_cons] at hlist
    have hhead := hletters c (mem_letters hc) hd
    cases hchar : upperChar c with
    | nil => simp [hchar] at hhead
    | cons d ds =>
      rw [hchar] at hlist hhead
      have hlist : d :: (ds ++ upper cs) = ['D', 'I', 'V'] := hlist
      obtain ⟨hd, -⟩ := List.cons_eq_cons.mp hlist
      rw [hd] at hhead
      simp at hhead
  rw [wordKind, if_neg hupper]
  split <;> rfl

/-- A plain word is read as a word, unless it begins an operator. -/
theorem readsWord_of_isPlainWord [DelimiterForm] {value : String}
    (hvalue : isPlainWord value = true)
    (hword : List.Forall₂ (fun d c => sameLetter d c = true) value.toList word)
    (hnext : rest.head?.any isWord = false) (hmark : isUnmarked (word ++ rest) = true)
    (hoperator : ∀ ps cs more, isOperator ps = true → Spelled ps cs → word ++ rest = cs ++ more →
      (cs.getLast?.any isWord = true → more.head?.any isWord = false) → False)
    (before : Option Char) : ReadsWord before word rest := by
  rw [isPlainWord, Bool.and_eq_true, Bool.and_eq_true, Bool.not_eq_true'] at hvalue
  obtain ⟨⟨hspelling, hhead⟩, hspecial⟩ := hvalue
  obtain ⟨hfirst, hisWord⟩ := isWord_of_spelling hspelling hword
  obtain ⟨c, cs, rfl⟩ : ∃ c cs, word = c :: cs := by
    cases word with
    | nil => cases hfirst
    | cons c cs => exact ⟨c, cs, rfl⟩
  have hc : isLetter c = true := hfirst
  obtain ⟨rule, hrule, n, hn, hlexeme⟩ := exists_rule_of_letter hc before (cs ++ rest)
  have hpos := length?_pos hrule hn
  rw [← List.cons_append] at hn hlexeme
  have hnotSpecial : isOneOf specialWords (c :: cs) = false :=
    (isOneOf_eq_of_sameLetters hword _).trans hspecial
  have hends := (ends_of_length? hn).1
  have hread (hkind : (rule.kind ((c :: cs ++ rest).take n)).isWordLike = true) :
      ReadsWord before (c :: cs) rest :=
    { ne_nil := List.cons_ne_nil c cs
      isWord := hisWord
      next := hnext
      kind := by rw [hlexeme]; exact hkind
      alone_or := .inr ⟨hfirst, hnotSpecial, hmark⟩ }
  cases readsLetter_rules rule hrule with
  | never first =>
    have hnone := length?_eq_none_of_first hrule before (first c (mem_letters hc)) (cs ++ rest)
    rw [← List.cons_append, hn] at hnone
    cases hnone
  | name kind takes => exact hread (kind _)
  | keywords kind phrases speaks spelled => exact hread (kind _)
  | operator kind phrases speaks spelled seals =>
    obtain ⟨ps, hps, ds, hds, hconsumes⟩ := speaks _ _ hends
    refine (hoperator ps ds _ (List.all_eq_true.mp spelled ps hps) hds hconsumes.1
      fun hlast => ?_).elim
    refine sealed_of_length? seals hn ?_
    rw [hconsumes.2]
    cases hds' : ds.getLast? with
    | none => simp [hds'] at hlast
    | some d => simpa [hds'] using hlast
  | special begins =>
    have hspellings : ∀ word ∈ specialWords, isSpelling word = true := by decide +kernel
    obtain ⟨special, hmem, m, hm, hafter⟩ := begins _ _ hends
    obtain ⟨ds, hds, hconsumes⟩ := ends_text.mp hm
    obtain ⟨rfl, -⟩ := consumes_word rfl hisWord hnext
      (isWord_of_spelling (hspellings special hmem) hds).2 hafter hconsumes
    rw [isOneOf_of_mem hmem hds] at hnotSpecial
    cases hnotSpecial
  | bare rule_eq =>
    have hd : fold c ≠ 'd' := by
      revert hhead
      cases hvalue : value.toList with
      | nil => rw [hvalue] at hword; cases hword
      | cons d ds =>
        rw [hvalue] at hword
        cases hword with
        | cons hdc _ =>
          intro hhead hc
          simp [beq_iff_eq.mp hdc, hc] at hhead
    obtain ⟨k, rfl⟩ : ∃ k, n = k + 1 := ⟨n - 1, by omega⟩
    refine hread ?_
    rw [rule_eq, List.cons_append, List.take_succ_cons]
    exact isWordLike_wordKind hc hd _

/-- The first word of an operator is no plain word but the word NOT. -/
theorem isOneOf_of_isOperator {ps : List Piece} {cs more : List Char} (hps : isOperator ps = true)
    (h : Spelled ps cs) (hword : ∀ c ∈ word, isWord c = true)
    (hnext : rest.head?.any isWord = false) (heq : word ++ rest = cs ++ more)
    (hseal : cs.getLast?.any isWord = true → more.head?.any isWord = false) :
    isOneOf specialWords word = true ∨ isOneOf ["NOT"] word = true ∧
      ∃ value ∈ operatorWords, ∃ qs cs', Spelled (.gap :: .word value :: qs) cs' ∧
        rest = cs' ++ more := by
  have hspellings : ∀ value ∈ operatorWords, isSpelling value = true ∧ value ∈ specialWords := by
    decide +kernel
  unfold isOperator at hps
  split at hps
  · rename_i value qs
    obtain ⟨hnot, cs', -, hrest, heq⟩ :=
      first_of_spelled (by decide +kernel) rfl h hword hnext heq hseal
    exact .inr ⟨isOneOf_of_mem (by simp) hnot, value, List.contains_iff_mem.mp hps, qs, cs', hrest,
      heq⟩
  · obtain ⟨hspelling, hmem⟩ := hspellings _ (List.contains_iff_mem.mp hps)
    obtain ⟨hletters, -⟩ := first_of_spelled hspelling rfl h hword hnext heq hseal
    exact .inl (isOneOf_of_mem hmem hletters)
  · obtain ⟨hspelling, hmem⟩ := hspellings _ (List.contains_iff_mem.mp hps)
    obtain ⟨hletters, -⟩ := first_of_spelled hspelling rfl h hword hnext heq hseal
    exact .inl (isOneOf_of_mem hmem hletters)
  · cases hps

/-- The words of a phrase behind its first one are read as words. -/
theorem readsWord_of_isTail [DelimiterForm] {value : String} {ps : List Piece} {cs more : List Char}
    (hps : isTail (.gap :: .word value :: ps) = true)
    (hword : List.Forall₂ (fun d c => sameLetter d c = true) value.toList word)
    (hcs : Spelled ps cs) (hmore : more.head?.any isWord = false)
    (hmark : isUnmarked (word ++ (cs ++ more)) = true) (before : Option Char) :
    ReadsWord before word (cs ++ more) := by
  rw [isTail, Bool.and_eq_true, Bool.and_eq_true, Bool.or_eq_true, Bool.not_eq_true'] at hps
  obtain ⟨⟨hplain, hnot⟩, htail⟩ := hps
  have hnext : (cs ++ more).head?.any isWord = false := by
    cases hcs with
    | nil => exact hmore
    | word _ _ => cases htail
    | gap hne hblank _ =>
      obtain ⟨c, blank, rfl⟩ := List.exists_cons_of_ne_nil hne
      exact isWord_of_isSpace (hblank c List.mem_cons_self)
  have hparts := hplain
  rw [isPlainWord, Bool.and_eq_true, Bool.and_eq_true, Bool.not_eq_true'] at hparts
  obtain ⟨⟨hspelling, -⟩, hspecial⟩ := hparts
  refine readsWord_of_isPlainWord hplain hword hnext hmark
    (fun qs ds after hqs hds heq hseal => ?_) before
  rcases isOneOf_of_isOperator hqs hds (isWord_of_spelling hspelling hword).2 hnext heq hseal with
    hone | ⟨hone, operator, hoperator, rs, ds', hrest, heq⟩
  · rw [isOneOf_eq_of_sameLetters hword, hspecial] at hone
    cases hone
  · rw [isOneOf_eq_of_sameLetters hword] at hone
    rcases hnot with hnot | hexists
    · rw [hnot] at hone
      cases hone
    · obtain rfl := beq_iff_eq.mp hexists
      have hheads : ∀ value ∈ operatorWords, isSpelling value = true ∧
          "EXISTS".toList.head?.map fold ≠ value.toList.head?.map fold := by
        decide +kernel
      obtain ⟨hspelling, hother⟩ := hheads operator hoperator
      rw [← head_of_spelled (by decide +kernel) hcs more, heq,
        head_of_spelled hspelling hrest after] at hother
      exact hother rfl

/-! ## The first word of a lexeme -/

/-- The tokens from a place on where a word begins: the word, and the tokens from the place behind
it. -/
def SplitsAt [DelimiterForm] (before : Option Char) (word rest : List Char) : Prop :=
  ∀ index, tokensAt index ⟨before, word ++ rest⟩ =
    ⟨.word, String.ofList word, index, index + word.length⟩ ::
      tokensAt (index + word.length) ⟨word.getLast?.or before, rest⟩

/-- Behind the first word of a phrase stands white space or nothing, and the phrase ends with a
word. -/
theorem spelled_of_isTail {ps : List Piece} (hps : isTail ps = true) {cs : List Char}
    (h : Spelled ps cs) :
    (∀ c ∈ cs.head?, isSpace c = true) ∧
      ∀ before : Option Char, before.any isWord = true →
        (cs.getLast?.or before).any isWord = true := by
  induction ps using isTail.induct generalizing cs with
  | case1 =>
    cases h
    exact ⟨fun c hc => absurd hc (Option.not_mem_none c), fun _ hbefore => hbefore⟩
  | case2 value ps ih =>
    cases h with
    | @gap blank _ _ hne hblank hrest =>
      cases hrest with
      | @word _ word cs _ hletters hrest =>
        rw [isTail, Bool.and_eq_true, Bool.and_eq_true, isPlainWord, Bool.and_eq_true,
          Bool.and_eq_true] at hps
        obtain ⟨hfirst, hisWord⟩ := isWord_of_spelling hps.1.1.1.1 hletters
        have hword : word ≠ [] := by
          rintro rfl
          cases hfirst
        constructor
        · obtain ⟨d, blank, rfl⟩ := List.exists_cons_of_ne_nil hne
          rintro c hc
          obtain rfl := Option.some.inj hc
          exact hblank d List.mem_cons_self
        · intro before _
          rw [List.getLast?_append, List.getLast?_append, Option.or_assoc, Option.or_assoc]
          exact (ih hps.2 hrest).2 _ (getLast_isWord hword hisWord _)
  | case3 ps hnil hcons =>
    rw [isTail.eq_def] at hps
    split at hps
    · exact absurd rfl hnil
    · exact absurd rfl (hcons _ _)
    · cases hps

/-- The words that go on a phrase are read one by one if every word is that the text behind it
leaves. -/
theorem tokensAt_tail [DelimiterForm] {ps : List Piece} (hps : isTail ps = true)
    {cs more : List Char} (hcs : Spelled ps cs) (hmore : more.head?.any isWord = false)
    (hmark : isUnmarked (cs ++ more) = true)
    (hsplit : ∀ before word rest, (word ++ rest).length ≤ (cs ++ more).length →
      ReadsWord before word rest → SplitsAt before word rest)
    (index : Nat) (before : Option Char) :
    tokensAt index ⟨before, cs ++ more⟩ =
      wordTokens index cs ++ tokensAt (index + cs.length) ⟨cs.getLast?.or before, more⟩ := by
  induction ps using isTail.induct generalizing cs index before with
  | case1 =>
    cases hcs
    rfl
  | case2 value ps ih =>
    cases hcs with
    | @gap blank _ _ hne hblank hrest =>
      cases hrest with
      | @word _ word cs _ hletters hrest =>
        have hparts := hps
        rw [isTail, Bool.and_eq_true, Bool.and_eq_true] at hparts
        have hspelling : isSpelling value = true := by
          have hplain := hparts.1.1
          rw [isPlainWord, Bool.and_eq_true, Bool.and_eq_true] at hplain
          exact hplain.1.1
        obtain ⟨hfirst, hisWord⟩ := isWord_of_spelling hspelling hletters
        have hword : word ≠ [] := by
          rintro rfl
          cases hfirst
        simp only [List.append_assoc] at hmark hsplit ⊢
        rw [isUnmarked_append fun c hc => .inl (hblank c hc)] at hmark
        have hread := readsWord_of_isTail hps hletters hrest hmore hmark
          (blank.getLast?.or before)
        have hmark' : isUnmarked (cs ++ more) = true :=
          (isUnmarked_append (fun c hc => .inr (hisWord c hc)) _).symm.trans hmark
        have hends := (spelled_of_isTail hparts.2 hrest).1
        have hspace : ∀ c ∈ word, isSpace c = false := fun c hc => isSpace_of_isWord (hisWord c hc)
        rw [tokensAt_blank hblank, hsplit _ _ _ (by simp) hread,
          ih hparts.2 hrest hmark' fun before w rest hlen => hsplit before w rest ?_,
          wordTokens_blank hblank, wordTokens_append hword hspace hends]
        · simp only [List.length_append, List.getLast?_append, List.cons_append, Option.or_assoc,
            Nat.add_assoc]
        · exact Nat.le_trans hlen (by simp only [List.length_append]; omega)
  | case3 ps hnil hcons =>
    rw [isTail.eq_def] at hps
    split at hps
    · exact absurd rfl hnil
    · exact absurd rfl (hcons _ _)
    · cases hps

/-- The tokens of a phrase of keywords are its first word and those from the place behind that
word. -/
theorem splitsAt_of_isKeywords [DelimiterForm] {ps : List Piece} (hps : isKeywords ps = true)
    {ds more : List Char} (hds : Spelled ps ds) (hword : ∀ c ∈ word, isWord c = true)
    (hnext : rest.head?.any isWord = false) (hmark : isUnmarked (word ++ rest) = true)
    (heq : word ++ rest = ds ++ more) {kind : LexemeKind} (hkind : kind.isWordLike = true)
    (hlexeme : lexeme ⟨before, ds ++ more⟩ = (kind, ds.length))
    (hsplit : ∀ before word' rest', (word' ++ rest').length < (word ++ rest).length →
      ReadsWord before word' rest' → SplitsAt before word' rest') :
    SplitsAt before word rest := by
  have hplace := sealed_of_isWordLike (s := ⟨before, ds ++ more⟩) (by rw [hlexeme]; exact hkind)
  rw [hlexeme, Cursor.advance_append] at hplace
  have hseal : ds.getLast?.any isWord = true → more.head?.any isWord = false := by
    intro hlast
    refine hplace ?_
    cases hds' : ds.getLast? with
    | none => simp [hds'] at hlast
    | some d => simpa [hds'] using hlast
  cases ps with
  | nil => cases hps
  | cons p ps =>
    cases p with
    | gap => cases hps
    | word value =>
      rw [isKeywords, Bool.and_eq_true] at hps
      obtain ⟨hvalue, htail⟩ := hps
      have hgap : ps.head?.all (· == .gap) = true := by
        rw [isTail.eq_def] at htail
        split at htail
        · rfl
        · rfl
        · cases htail
      obtain ⟨hletters, cs, rfl, hcs, rfl⟩ :=
        first_of_spelled hvalue hgap hds hword hnext heq hseal
      obtain ⟨hfirst, -⟩ := isWord_of_spelling hvalue hletters
      have hne : word ≠ [] := by
        rintro rfl
        cases hfirst
      have hhead := head_isWord hne hword cs
      obtain ⟨hends, hlast⟩ := spelled_of_isTail htail hcs
      have hmore : more.head?.any isWord = false := by
        refine hplace ?_
        rw [List.getLast?_append, Option.or_assoc]
        exact hlast _ (getLast_isWord hne hword before)
      rw [isUnmarked_append fun c hc => .inr (hword c hc)] at hmark
      intro index
      have htokens := tokensAt_of_isWordLike hkind hhead hlexeme index
      rw [wordTokens_append hne (fun c hc => isSpace_of_isWord (hword c hc)) hends] at htokens
      rw [← List.append_assoc, htokens, tokensAt_tail htail hcs hmore hmark ?_]
      · simp only [List.length_append, List.getLast?_append, List.cons_append, Option.or_assoc,
          Nat.add_assoc]
      · intro before word' rest' hshort
        refine hsplit before word' rest' (Nat.lt_of_le_of_lt hshort ?_)
        have hpos := List.length_pos_iff.mpr hne
        simp only [List.length_append]
        omega

/-- Where a word begins, it is a token, and the tokens behind it are those from the place behind
it.  The induction is over the length of the text, since the words behind the first one of a phrase
begin shorter texts. -/
theorem ReadsWord.splitsAt [DelimiterForm] (h : ReadsWord before word rest) :
    SplitsAt before word rest := by
  induction hlen : (word ++ rest).length using Nat.strongRecOn generalizing before word rest with
  | ind len ih =>
    intro index
    have hhead := head_isWord h.ne_nil h.isWord []
    rw [List.append_nil] at hhead
    have hspace : ∀ c ∈ word, isSpace c = false := fun c hc => isSpace_of_isWord (h.isWord c hc)
    by_cases hone : (lexeme ⟨before, word ++ rest⟩).2 = word.length
    · rw [tokensAt_of_isWordLike h.kind hhead (Prod.ext rfl hone),
        wordTokens_of_no_space h.ne_nil hspace]
      rfl
    · obtain ⟨hfirst, hspecial, hmark⟩ := h.alone_or.resolve_left hone
      have hseal := length_le_of_sealed h.isWord (lexeme_pos _) (sealed_of_isWordLike h.kind)
      obtain ⟨c, cs, rfl⟩ := List.exists_cons_of_ne_nil h.ne_nil
      have hc : isLetter c = true := hfirst
      obtain ⟨rule, hrule, n, hn, hlexeme⟩ := exists_rule_of_letter hc before (cs ++ rest)
      rw [← List.cons_append] at hn hlexeme
      rw [hlexeme] at hone hseal
      have hkind := h.kind
      rw [hlexeme] at hkind
      have hends := (ends_of_length? hn).1
      have htaken := consumes_of_length? hn
      have hroom := (ends_of_length? hn).2
      have halone : ¬ n ≤ (c :: cs).length := fun hle => hone (Nat.le_antisymm hle hseal)
      cases readsLetter_rules rule hrule with
      | never first =>
        have hnone := length?_eq_none_of_first hrule before (first c (mem_letters hc)) (cs ++ rest)
        rw [← List.cons_append, hn] at hnone
        cases hnone
      | operator kind _ _ _ _ =>
        rw [kind] at hkind
        cases hkind
      | special begins =>
        have hspellings : ∀ word ∈ specialWords, isSpelling word = true := by decide +kernel
        obtain ⟨special, hmem, m, hm, hafter⟩ := begins _ _ hends
        obtain ⟨ds, hds, hconsumes⟩ := ends_text.mp hm
        obtain ⟨rfl, -⟩ := consumes_word rfl h.isWord h.next
          (isWord_of_spelling (hspellings special hmem) hds).2 hafter hconsumes
        rw [isOneOf_of_mem hmem hds] at hspecial
        cases hspecial
      | name _ takes =>
        obtain ⟨ds, hds, htail⟩ := takes _ _ hends
        obtain rfl := hds.unique htaken
        refine absurd (length_le_of_tail h.ne_nil hroom htail fun d hd => ?_) halone
        have hnext := h.next
        rwa [hd] at hnext
      | bare rule_eq =>
        rw [rule_eq] at hends
        obtain ⟨ds, hds, htail⟩ := exists_consumes_of_row hends
        obtain rfl := hds.unique htaken
        refine absurd (length_le_of_tail h.ne_nil hroom htail fun d hd => ?_) halone
        have hnext := h.next
        rw [hd] at hnext
        rw [isUnmarked_append fun d hd => .inr (h.isWord d hd)] at hmark
        obtain ⟨hdollar, hnumber⟩ := head_of_isUnmarked hmark hd hnext
        simpa [hdollar, hnumber] using hnext
      | keywords _ phrases speaks spelled =>
        obtain ⟨ps, hps, ds, hds, hconsumes⟩ := speaks _ _ hends
        have hrest : (c :: cs) ++ rest = ds ++ (Cursor.advance n ⟨before, c :: cs ++ rest⟩).rest :=
          hconsumes.1
        have hlength : n = ds.length := by
          rw [hconsumes.unique htaken, List.length_take, Nat.min_eq_left hroom]
        refine splitsAt_of_isKeywords (List.all_eq_true.mp spelled ps hps) hds h.isWord h.next hmark
          hrest hkind ?_ (fun b w more hshort hread => ih _ (hlen ▸ hshort) hread rfl) index
        rw [← hrest, hlexeme, ← hlength]

end EntityMapper.Sql
