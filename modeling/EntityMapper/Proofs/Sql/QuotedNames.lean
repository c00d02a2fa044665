import EntityMapper.Proofs.Sql.Places
import EntityMapper.Proofs.Sql.Quoted
import Mathlib.Data.Option.Basic

/-!
# Quoted names in their context

A quoted name with its quotes doubled gives the name back if the text is cut behind its closing
quote.  Between backticks it always is, whatever stands behind it.  Between double quotes a quote
behind a backslash may also be read as one inside the name, so where the name ends depends on the
backslashes in it, and behind a name that ends in a backslash it depends on the rest of the text.
-/

namespace EntityMapper.Sql

open Pattern Text

/-- A text that begins with a name between quotes begins with the quote. -/
theorem enclosed_append (quote : Char) (name rest : List Char) :
    enclosed quote name ++ rest = quote :: (doubled quote name ++ quote :: rest) := by
  rw [enclosed, List.cons_append, List.cons_append, List.append_assoc, List.singleton_append]

/-! ## Where a text between escaped quotes ends -/

/-- The number of characters up to the quote that closes a text: a quote that stands behind another
one or behind a backslash is inside the text if a closing quote follows, and else the first of two
quotes closes the text. -/
def untilClosing? (quote : Char) : List Char → Option Nat
  | [] => none
  | [c] => if c = quote then some 1 else none
  | c :: d :: cs =>
    (if (c = quote ∨ c = '\\') ∧ d = quote then (untilClosing? quote cs).map (· + 2) else none) <|>
      if c = quote then some 1 else (untilClosing? quote (d :: cs)).map (· + 1)

/-- One character, or a pair of them that holds a quote, of what stands between escaped quotes. -/
def escapedPart (quote : Char) : Pattern :=
  (letter quote ++ letter quote) <|> (letter '\\' ++ letter quote) <|> one (· != quote)

section Closing

variable {α : Type} {quote : Char}

/-- A mark that folds to itself is matched by itself alone. -/
theorem run_letter_cons {p : Char} (hp : ∀ c, sameLetter p c = (p == c)) (before : Option Char)
    (c : Char) (cs : List Char) (k : Cursor → Option α) :
    (letter p).run ⟨before, c :: cs⟩ k = if c = p then k ⟨some c, cs⟩ else none := by
  rw [letter, run, hp]
  by_cases hc : c = p
  · rw [hc, if_pos (beq_self_eq_true p), if_pos rfl]
  · rw [if_neg (by simpa using Ne.symm hc), if_neg hc]

theorem sameLetter_backslash (c : Char) : sameLetter '\\' c = ('\\' == c) :=
  sameLetter_of_not_alpha (by decide) (by decide) c

/-- The last character of a text is a part if it is no quote. -/
theorem run_escapedPart_singleton (hq : ∀ c, sameLetter quote c = (quote == c))
    (before : Option Char) (c : Char) (k : Cursor → Option α) :
    (escapedPart quote).run ⟨before, [c]⟩ k = if c = quote then none else k ⟨some c, []⟩ := by
  change ((letter quote).run ⟨before, [c]⟩ (fun t => (letter quote).run t k) <|>
    (letter '\\').run ⟨before, [c]⟩ (fun t => (letter quote).run t k) <|>
      if (c != quote) = true then k ⟨some c, []⟩ else none) = _
  rw [run_letter_cons hq, run_letter_cons sameLetter_backslash]
  by_cases hc : c = quote
  · simp [hc, letter, run]
  · simp [hc, letter, run]

/-- A part is a quote behind a quote or a backslash, or else one other character. -/
theorem run_escapedPart_cons (hq : ∀ c, sameLetter quote c = (quote == c))
    (before : Option Char) (c d : Char) (cs : List Char) (k : Cursor → Option α) :
    (escapedPart quote).run ⟨before, c :: d :: cs⟩ k =
      ((if (c = quote ∨ c = '\\') ∧ d = quote then k ⟨some d, cs⟩ else none) <|>
        if c = quote then none else k ⟨some c, d :: cs⟩) := by
  change ((letter quote).run ⟨before, c :: d :: cs⟩ (fun t => (letter quote).run t k) <|>
    (letter '\\').run ⟨before, c :: d :: cs⟩ (fun t => (letter quote).run t k) <|>
      if (c != quote) = true then k ⟨some c, d :: cs⟩ else none) = _
  rw [run_letter_cons hq, run_letter_cons sameLetter_backslash, run_letter_cons hq]
  have heither (p q r : Prop) [Decidable p] [Decidable q] [Decidable r] (x y : Option α) :
      ((if p then if r then x else none else none) <|>
        (if q then if r then x else none else none) <|> y) =
        ((if (p ∨ q) ∧ r then x else none) <|> y) := by
    by_cases hp : p <;> by_cases hq : q <;> by_cases hr : r <;> cases x <;> simp [hp, hq, hr]
  rw [heither]
  by_cases hc : c = quote
  · rw [if_neg (show ¬ (c != quote) = true by simp [hc]), if_pos hc]
  · rw [if_pos (show (c != quote) = true by simp [hc]), if_neg hc]

/-- The rounds between the quotes end in front of the closing quote, if there is one. -/
theorem rounds_escapedPart (hq : ∀ c, sameLetter quote c = (quote == c)) (total : Nat)
    {n : Nat} {cs : List Char} (hn : cs.length ≤ n) (before : Option Char) :
    rounds .greedy (run (escapedPart quote))
      (fun t => (letter quote).run t fun t => some (total - t.rest.length)) n ⟨before, cs⟩ =
        (untilClosing? quote cs).map fun m => total - (cs.length - m) := by
  induction n generalizing cs before with
  | zero =>
    obtain rfl := List.eq_nil_of_length_eq_zero (Nat.le_zero.mp hn)
    rfl
  | succ n ih =>
    rw [rounds]
    dsimp only
    rcases cs with _ | ⟨c, _ | ⟨d, cs⟩⟩
    · rfl
    · rw [run_escapedPart_singleton hq, run_letter_cons hq, untilClosing?]
      by_cases hc : c = quote
      · simp [hc]
      · simp [hc, ih, untilClosing?]
    · have htwo : cs.length < (c :: d :: cs).length := by
        rw [List.length_cons, List.length_cons]
        omega
      have hone : (d :: cs).length < (c :: d :: cs).length := Nat.lt_succ_self _
      rw [run_escapedPart_cons hq, run_letter_cons hq, untilClosing?]
      dsimp only
      rw [if_pos htwo, if_pos hone, ih (by omega), ih (by omega)]
      generalize untilClosing? quote cs = two, untilClosing? quote (d :: cs) = single
      by_cases hpair : (c = quote ∨ c = '\\') ∧ d = quote
      · rw [if_pos hpair, if_pos hpair]
        by_cases hc : c = quote
        · cases two <;> simp [hc]
        · cases two <;> cases single <;> simp [hc]
      · rw [if_neg hpair, if_neg hpair]
        by_cases hc : c = quote
        · simp [hc]
        · cases single <;> simp [hc]

/-- The closing quote stands in the text. -/
theorem untilClosing?_bounds {cs : List Char} {n : Nat} (h : untilClosing? quote cs = some n) :
    0 < n ∧ n ≤ cs.length := by
  fun_induction untilClosing? quote cs generalizing n with
  | case1 => cases h
  | case2 =>
    obtain rfl := Option.some.inj h
    exact ⟨Nat.zero_lt_one, Nat.le_refl _⟩
  | case3 => cases h
  | case4 c d cs ihtwo ihone =>
    rw [List.length_cons] at ihone
    rw [List.length_cons, List.length_cons]
    rcases (Option.orElse_eq_some _ _ _).mp h with htwo | ⟨-, hone⟩
    · rw [Option.ite_none_right_eq_some] at htwo
      obtain ⟨m, hm, rfl⟩ := Option.map_eq_some_iff.mp htwo.2
      have hbounds := ihtwo hm
      omega
    · split at hone
      · obtain rfl := Option.some.inj hone
        omega
      · obtain ⟨m, hm, rfl⟩ := Option.map_eq_some_iff.mp hone
        have hbounds := ihone hm
        omega

/-- A text is closed if it holds the quote. -/
theorem untilClosing?_eq_none_iff {cs : List Char} :
    untilClosing? quote cs = none ↔ quote ∉ cs := by
  fun_induction untilClosing? quote cs with
  | case1 => simp
  | case2 => simp
  | case3 c hc => simpa using Ne.symm hc
  | case4 c d cs ihtwo ihone =>
    rw [Option.orElse_eq_none]
    by_cases hc : c = quote
    · simp [hc]
    · have hmem : quote ∉ c :: d :: cs ↔ quote ∉ d :: cs := by
        rw [List.mem_cons, or_iff_right (Ne.symm hc)]
      rw [if_neg hc, Option.map_eq_none_iff, ihone, hmem, and_iff_right_iff_imp]
      intro hnone
      have hd : d ≠ quote := fun hd => hnone (hd ▸ List.mem_cons_self)
      rw [if_neg fun h => hd h.2]

/-- A match of the text between escaped quotes goes up to the closing quote. -/
theorem length?_escapedQuotes (hq : ∀ c, sameLetter quote c = (quote == c))
    (before : Option Char) (cs : List Char) :
    (escapedQuotes quote).length? ⟨before, quote :: cs⟩ =
      (untilClosing? quote cs).map (· + 1) := by
  rw [length?]
  change (letter quote).run ⟨before, quote :: cs⟩ (fun t => rounds .greedy (run (escapedPart quote))
    (fun t => (letter quote).run t fun t => some ((quote :: cs).length - t.rest.length))
      t.rest.length t) = _
  rw [run_letter_self hq]
  dsimp only
  rw [rounds_escapedPart hq _ (Nat.le_refl _)]
  cases hclosing : untilClosing? quote cs with
  | none => rfl
  | some n =>
    have hbounds := untilClosing?_bounds hclosing
    rw [Option.map_some, Option.map_some, Option.some_inj, List.length_cons]
    omega

/-! ## Where a quoted name ends -/

/-- A quote that no other follows closes the name. -/
theorem untilClosing?_quote {cs : List Char} (h : cs.head? ≠ some quote) :
    untilClosing? quote (quote :: cs) = some 1 := by
  cases cs with
  | nil => rw [untilClosing?, if_pos rfl]
  | cons c cs =>
    have hc : c ≠ quote := by simpa using h
    rw [untilClosing?, if_neg fun hpair => hc hpair.2, if_pos rfl]
    rfl

/-- A quote behind another or a backslash does not close the name if a later one can. -/
theorem untilClosing?_pair {c : Char} (hc : c = quote ∨ c = '\\') {cs : List Char}
    (h : quote ∈ cs) :
    untilClosing? quote (c :: quote :: cs) = (untilClosing? quote cs).map (· + 2) := by
  obtain ⟨n, hn⟩ := Option.ne_none_iff_exists'.mp fun hnone => untilClosing?_eq_none_iff.mp hnone h
  rw [untilClosing?, if_pos ⟨hc, rfl⟩, hn]
  rfl

/-- Where the name is closed behind such a pair is where it is closed behind the rest. -/
theorem untilClosing?_pair_iff {c : Char} (hc : c = quote ∨ c = '\\') {cs : List Char}
    (h : quote ∈ cs) {n : Nat} :
    untilClosing? quote (c :: quote :: cs) = some (n + 2) ↔ untilClosing? quote cs = some n := by
  rw [untilClosing?_pair hc h, Option.map_eq_some_iff]
  simp

/-- Other characters are passed over one by one. -/
theorem untilClosing?_single {c : Char} (hc : c ≠ quote) {cs : List Char}
    (h : c = '\\' → cs.head? ≠ some quote) :
    untilClosing? quote (c :: cs) = (untilClosing? quote cs).map (· + 1) := by
  cases cs with
  | nil => simp [untilClosing?, hc]
  | cons d cs =>
    have hpair : ¬ ((c = quote ∨ c = '\\') ∧ d = quote) := by
      rintro ⟨hor, rfl⟩
      exact h (hor.resolve_left hc) rfl
    rw [untilClosing?, if_neg hpair, if_neg hc]
    rfl

/-- No backslash stands in front of a quote of a name, and none at its end if the quote occurs in
the rest of the text. -/
def IsUnescaped (quote : Char) (name rest : List Char) : Prop :=
  ¬ ['\\', quote] <:+: name ∧ (name.getLast? = some '\\' → quote ∉ rest)

instance (quote : Char) (name rest : List Char) : Decidable (IsUnescaped quote name rest) :=
  inferInstanceAs (Decidable (_ ∧ _))

theorem isUnescaped_nil (rest : List Char) : IsUnescaped quote [] rest := by
  simp [IsUnescaped]

/-- A backslash at the end of a name does no harm exactly if no quote follows later. -/
theorem isUnescaped_backslash (rest : List Char) :
    IsUnescaped quote ['\\'] rest ↔ quote ∉ rest := by
  simp [IsUnescaped, List.infix_cons_iff]

/-- Characters in front of a name that escape nothing do not matter. -/
theorem isUnescaped_cons {c : Char} {name rest : List Char}
    (h : c = '\\' → name ≠ [] ∧ name.head? ≠ some quote) :
    IsUnescaped quote (c :: name) rest ↔ IsUnescaped quote name rest := by
  have hprefix : ¬ ['\\', quote] <+: c :: name := by
    rw [List.cons_prefix_cons]
    rintro ⟨rfl, more, rfl⟩
    exact (h rfl).2 rfl
  have hlast : (c :: name).getLast? = some '\\' ↔ name.getLast? = some '\\' := by
    cases name with
    | nil => simpa using fun hc => (h hc).1 rfl
    | cons d ds => rw [List.getLast?_cons_cons]
  rw [IsUnescaped, IsUnescaped, List.infix_cons_iff, or_iff_right hprefix, hlast]

/-- A quote behind a backslash is escaped. -/
theorem not_isUnescaped_pair (name rest : List Char) :
    ¬ IsUnescaped quote ('\\' :: quote :: name) rest := by
  rintro ⟨hnever, -⟩
  exact hnever ⟨[], name, rfl⟩

section Context

variable {rest : List Char} (hrest : rest.head? ≠ some quote)
include hrest

/-- If a quote is added in front then the text is not closed by the same quote as before. -/
theorem untilClosing?_quote_doubled_ne (name : List Char) :
    untilClosing? quote (quote :: (doubled quote name ++ quote :: rest)) ≠
      some ((doubled quote name).length + 2) := by
  induction name with
  | nil =>
    change untilClosing? quote (quote :: quote :: rest) ≠ some 2
    by_cases hmem : quote ∈ rest
    · rw [untilClosing?_pair (.inl rfl) hmem]
      intro htwo
      obtain ⟨n, hn, hlength⟩ := Option.map_eq_some_iff.mp htwo
      have hbounds := untilClosing?_bounds hn
      omega
    · rw [untilClosing?, untilClosing?_eq_none_iff.mpr hmem, if_pos rfl]
      simp
  | cons c name ih =>
    by_cases hc : c = quote
    · subst hc
      rw [doubled_cons_self, List.cons_append, List.cons_append, List.length_cons, List.length_cons]
      exact fun hlength => ih ((untilClosing?_pair_iff (.inl rfl) (by simp)).mp hlength)
    · rw [doubled_cons_of_ne hc, List.cons_append, untilClosing?_quote (by simpa using hc)]
      simp

/-- A closing quote behind a backslash closes the text if no other quote follows. -/
theorem untilClosing?_backslash_iff (hslash : quote ≠ '\\') :
    untilClosing? quote ('\\' :: quote :: rest) = some 2 ↔ quote ∉ rest := by
  rw [← untilClosing?_eq_none_iff, untilClosing?, if_pos ⟨.inr rfl, rfl⟩, if_neg hslash.symm,
    untilClosing?_quote hrest]
  cases hclosing : untilClosing? quote rest with
  | none => simp
  | some n =>
    have hbounds := untilClosing?_bounds hclosing
    simp
    omega

/-- The quote behind a name with its quotes doubled closes it if no backslash reaches a quote. -/
theorem untilClosing?_doubled_iff (hslash : quote ≠ '\\') (name : List Char) :
    untilClosing? quote (doubled quote name ++ quote :: rest) =
      some ((doubled quote name).length + 1) ↔ IsUnescaped quote name rest := by
  induction name with
  | nil =>
    have hnil : untilClosing? quote (quote :: rest) = some 1 := untilClosing?_quote hrest
    exact iff_of_true hnil (isUnescaped_nil rest)
  | cons c name ih =>
    have hmem : quote ∈ doubled quote name ++ quote :: rest := by simp
    by_cases hc : c = quote
    · subst hc
      rw [isUnescaped_cons fun h => absurd h hslash, ← ih, doubled_cons_self, List.cons_append,
        List.cons_append, List.length_cons, List.length_cons]
      exact untilClosing?_pair_iff (.inl rfl) hmem
    rw [doubled_cons_of_ne hc, List.cons_append, List.length_cons]
    by_cases hnext : c = '\\' → name ≠ [] ∧ name.head? ≠ some quote
    · have hhead : c = '\\' → (doubled quote name ++ quote :: rest).head? ≠ some quote := by
        intro hbackslash
        obtain ⟨hne, hfirst⟩ := hnext hbackslash
        obtain ⟨d, ds, rfl⟩ := List.exists_cons_of_ne_nil hne
        have hd : d ≠ quote := by simpa using hfirst
        simpa [doubled_cons_of_ne hd] using hd
      rw [untilClosing?_single hc hhead, isUnescaped_cons hnext, ← ih, Option.map_eq_some_iff]
      simp
    · obtain ⟨rfl, hname⟩ := Classical.not_imp.mp hnext
      cases name with
      | nil =>
        exact (untilClosing?_backslash_iff hrest hslash).trans (isUnescaped_backslash rest).symm
      | cons d name =>
        obtain rfl : d = quote := by simpa using hname
        refine iff_of_false (fun hlength => ?_) (not_isUnescaped_pair name rest)
        rw [doubled_cons_self, List.cons_append, List.cons_append, List.length_cons,
          List.length_cons] at hlength
        exact untilClosing?_quote_doubled_ne hrest name
          ((untilClosing?_pair_iff (.inr rfl) (by simp)).mp hlength)

end Context

end Closing

/-! ## The token of a quoted name -/

theorem sameLetter_doubleQuote (c : Char) : sameLetter '"' c = ('"' == c) :=
  sameLetter_of_not_alpha (by decide) (by decide) c

/-- A text that a double quote begins is a lexeme up to the quote that closes it. -/
theorem lexeme_doubleQuote (before : Option Char) {cs : List Char} {n : Nat}
    (h : untilClosing? '"' cs = some n) : lexeme ⟨before, '"' :: cs⟩ = (.quotedName, n + 1) := by
  have hlength : (escapedQuotes '"').length? ⟨before, '"' :: cs⟩ = some (n + 1) := by
    rw [length?_escapedQuotes sameLetter_doubleQuote, h, Option.map_some]
  have hrule : rules[23]? = some (always .quotedName (escapedQuotes '"')) := rfl
  exact lexeme_of_ruled? (by decide) (by decide) (Nat.succ_pos n)
    (ruled?_of_first hrule (by decide) hlength)

/-- The lexeme of a name that is closed by the character that begins it yields the name with its
quotes undone. -/
theorem head?_tokenize_of_lexeme {quote : Char} (hquote : closingQuote? quote = some quote)
    {kind : LexemeKind} (hkind : kind = .name ∨ kind = .quotedName) {cs : List Char} {n : Nat}
    (h : lexeme ⟨none, quote :: cs⟩ = (kind, n + 1)) (hn : n ≤ cs.length) :
    (tokenize (String.ofList (quote :: cs))).head? =
      some ⟨.quoted, String.ofList (unquote (quote :: cs.take n) quote quote), 0, n + 1⟩ := by
  have htokens : Lexeme.tokens 0 ⟨kind, quote :: cs.take n⟩ =
      [⟨.quoted, String.ofList (unquote (quote :: cs.take n) quote quote), 0, n + 1⟩] := by
    rcases hkind with rfl | rfl
    · simp [Lexeme.tokens, LexemeKind.isNameLike, hquote, hn]
    · simp [Lexeme.tokens, LexemeKind.isNameLike, hquote, hn]
  rw [tokenize_eq, tokensAt, Cursor.start, lexemesAt_cons (List.cons_ne_nil _ _), h, tokensFrom]
  dsimp only
  rw [List.take_succ_cons, htokens]
  rfl

/-- A quoted name at the beginning of a text is read as the name, up to its closing quote, whatever
stands behind it: always between backticks, and between double quotes if no backslash of the name
reaches a quote. -/
theorem tokenize_enclosed_iff {quote : Char} (hquote : quote ∈ [backtick, '"']) (name : List Char)
    {rest : List Char} (hrest : rest.head? ≠ some quote) :
    (tokenize (String.ofList (enclosed quote name ++ rest))).head? =
        some ⟨.quoted, String.ofList name, 0, (enclosed quote name).length⟩ ↔
      (quote = '"' → IsUnescaped '"' name rest) := by
  have hlength : (enclosed quote name).length = (doubled quote name).length + 1 + 1 := by
    simp [enclosed]
  have htake : (doubled quote name ++ quote :: rest).take ((doubled quote name).length + 1) =
      doubled quote name ++ [quote] := by
    rw [List.take_append, List.take_of_length_le (Nat.le_succ _), Nat.add_sub_cancel_left]
    rfl
  have hvalue : unquote (quote :: (doubled quote name ++ [quote])) quote quote = name :=
    unquote_enclosed quote name
  rw [enclosed_append, hlength]
  rcases List.mem_pair.mp hquote with rfl | rfl
  · have hlexeme := lexeme_inBackticks none name hrest
    rw [← enclosed_backtick, enclosed_append, hlength] at hlexeme
    rw [head?_tokenize_of_lexeme rfl (.inl rfl) hlexeme (by simp), htake, hvalue]
    exact iff_of_true rfl fun hne => absurd hne (by decide)
  · obtain ⟨n, hn⟩ : ∃ n, untilClosing? '"' (doubled '"' name ++ '"' :: rest) = some n :=
      Option.ne_none_iff_exists'.mp fun hnone => untilClosing?_eq_none_iff.mp hnone (by simp)
    have hbounds := untilClosing?_bounds hn
    rw [head?_tokenize_of_lexeme rfl (.inr rfl) (lexeme_doubleQuote none hn) hbounds.2,
      imp_iff_right rfl, ← untilClosing?_doubled_iff hrest (by decide) name, hn]
    constructor
    · intro hhead
      have hstop : n + 1 = (doubled '"' name).length + 1 + 1 :=
        congrArg Token.stop (Option.some.inj hhead)
      rw [Nat.succ.inj hstop]
    · intro hend
      obtain rfl := Option.some.inj hend
      rw [htake, hvalue]

theorem tokenize_enclosed_iff_backslashes :
    backtick ∈ [backtick, '"'] ∧ " \x60b\x60".toList.head? ≠ some backtick ∧
    (tokenize (String.ofList (enclosed backtick "a\\".toList ++ " \x60b\x60".toList))).head? =
      some ⟨.quoted, "a\\", 0, 4⟩ ∧
    '"' ∈ [backtick, '"'] ∧ " \"b\"".toList.head? ≠ some '"' ∧
    (tokenize (String.ofList (enclosed '"' "a\\b\"\"".toList ++ " \"b\"".toList))).head? =
      some ⟨.quoted, "a\\b\"\"", 0, 9⟩ := by
  have hbacktick : backtick ∈ [backtick, '"'] := List.mem_cons_self
  have hquote : '"' ∈ [backtick, '"'] := List.mem_cons_of_mem _ List.mem_cons_self
  have hrest : " \x60b\x60".toList.head? ≠ some backtick := by decide
  have hrest' : " \"b\"".toList.head? ≠ some '"' := by decide
  have hunescaped : IsUnescaped '"' "a\\b\"\"".toList " \"b\"".toList := by decide
  refine ⟨hbacktick, hrest, ?_, hquote, hrest', ?_⟩
  · exact (tokenize_enclosed_iff hbacktick "a\\".toList hrest).mpr fun hne =>
      absurd hne (by decide)
  · exact (tokenize_enclosed_iff hquote "a\\b\"\"".toList hrest').mpr fun _ => hunescaped

/-- A name that ends in a backslash goes on behind its closing quote if another quote follows, and a
quote behind a backslash ends a name that it stands in. -/
theorem tokenize_enclosed_ne_backslash :
    (tokenize (String.ofList (enclosed '"' "a\\".toList ++ " \"b\"".toList))).head? =
      some ⟨.quoted, "a\\\" ", 0, 6⟩ ∧
    (tokenize (String.ofList (enclosed '"' "a\\".toList ++ " \"b\"".toList))).head? ≠
      some ⟨.quoted, "a\\", 0, (enclosed '"' "a\\".toList).length⟩ ∧
    (tokenize (String.ofList (enclosed '"' "a\\\"b".toList))).head? =
      some ⟨.quoted, "a\\\"", 0, 5⟩ := by
  decide +kernel

end EntityMapper.Sql
