import EntityMapper.Proofs.Sql.Lexemes
import EntityMapper.Proofs.Text.Letters
import EntityMapper.Sql.Token

/-!
# Names in backticks

A name is written between two backticks with each backtick inside doubled. Whatever the name holds,
the written name is one lexeme as long as no further backtick follows, and undoing its quotes gives
the name back.
-/

namespace EntityMapper.Sql

open Pattern

/-- A text in which each occurrence of a character is doubled. -/
def doubled (quote : Char) (cs : List Char) : List Char :=
  cs.flatMap fun c => if c = quote then [quote, quote] else [c]

/-- A name between two quotes with the quotes in it doubled. -/
def enclosed (quote : Char) (cs : List Char) : List Char :=
  quote :: doubled quote cs ++ [quote]

/-- A name between backticks. -/
def inBackticks (cs : List Char) : List Char :=
  backtick :: doubled backtick cs ++ [backtick]

theorem doubled_cons_self (quote : Char) (cs : List Char) :
    doubled quote (quote :: cs) = quote :: quote :: doubled quote cs := by
  simp [doubled]

theorem doubled_cons_of_ne {quote c : Char} (h : c ≠ quote) (cs : List Char) :
    doubled quote (c :: cs) = c :: doubled quote cs := by
  simp [doubled, h]

/-- Merging undoes the doubling. -/
theorem mergeDoubled_doubled (quote : Char) (cs : List Char) :
    mergeDoubled quote (doubled quote cs) = cs := by
  induction cs with
  | nil => rfl
  | cons c cs ih =>
    by_cases hc : c = quote
    · rw [hc, doubled_cons_self, mergeDoubled, if_pos (by simp), ih]
    · rw [doubled_cons_of_ne hc]
      cases hd : doubled quote cs with
      | nil =>
        rw [hd] at ih
        rw [← ih]
        rfl
      | cons d ds => rw [mergeDoubled, if_neg (by simp [hc]), ← hd, ih]

/-- Undoing the quotes of a name between quotes gives the name. -/
theorem unquote_enclosed (quote : Char) (cs : List Char) :
    unquote (enclosed quote cs) quote quote = cs := by
  rw [unquote, enclosed, List.cons_append, List.drop_one, List.tail_cons]
  rw [if_pos rfl, if_pos (by simp), List.dropLast_concat, mergeDoubled_doubled]

/-- Between backticks the two spellings of an enclosed name agree. -/
theorem enclosed_backtick (cs : List Char) : enclosed backtick cs = inBackticks cs := rfl

/-- Undoing the quotes of a written name gives the name. -/
theorem unquote_inBackticks (cs : List Char) :
    unquote (inBackticks cs) backtick backtick = cs :=
  unquote_enclosed backtick cs

/-! ## The lexeme of a written name -/

private def inside (quote : Char) : Pattern :=
  (letter quote ++ letter quote) <|> one (· != quote)

variable {α : Type} {quote : Char}

/-- The quote is read where it stands. -/
theorem run_letter_self (hq : ∀ c, Text.sameLetter quote c = (quote == c))
    (before : Option Char) (rest : List Char) (k : Cursor → Option α) :
    (letter quote).run ⟨before, quote :: rest⟩ k = k ⟨some quote, rest⟩ := by
  rw [letter, run, if_pos (by simp [hq])]

/-- Inside the quotes a doubled quote is read as one piece. -/
private theorem run_inside_doubled (hq : ∀ c, Text.sameLetter quote c = (quote == c))
    (before : Option Char) (rest : List Char) (k : Cursor → Option α) :
    (inside quote).run ⟨before, quote :: quote :: rest⟩ k = k ⟨some quote, rest⟩ := by
  change (((letter quote).run ⟨before, quote :: quote :: rest⟩ fun t => (letter quote).run t k) <|>
    (one (· != quote)).run ⟨before, quote :: quote :: rest⟩ k) = _
  rw [run_letter_self hq, run_letter_self hq, run, if_neg (by simp)]
  simp

/-- Inside the quotes any other character is read by itself. -/
private theorem run_inside_of_ne (hq : ∀ c, Text.sameLetter quote c = (quote == c)) {c : Char}
    (hc : c ≠ quote) (before : Option Char) (rest : List Char) (k : Cursor → Option α) :
    (inside quote).run ⟨before, c :: rest⟩ k = k ⟨some c, rest⟩ := by
  change (((letter quote).run ⟨before, c :: rest⟩ fun t => (letter quote).run t k) <|>
    (one (· != quote)).run ⟨before, c :: rest⟩ k) = _
  rw [letter, run, if_neg (by simp [hq, hc.symm]), run, if_pos (by simp [hc])]
  rfl

/-- A single quote is not part of the inside. -/
private theorem run_inside_end (hq : ∀ c, Text.sameLetter quote c = (quote == c))
    {rest : List Char} (hrest : rest.head? ≠ some quote) (before : Option Char)
    (k : Cursor → Option α) : (inside quote).run ⟨before, quote :: rest⟩ k = none := by
  change (((letter quote).run ⟨before, quote :: rest⟩ fun t => (letter quote).run t k) <|>
    (one (· != quote)).run ⟨before, quote :: rest⟩ k) = _
  have hnext : (letter quote).run ⟨some quote, rest⟩ k = none := by
    cases rest with
    | nil => rfl
    | cons c cs =>
      have hc : quote ≠ c := by
        rintro rfl
        exact hrest rfl
      rw [letter, run, if_neg (by simp [hq, hc])]
  rw [run_letter_self hq, hnext, run, if_neg (by simp)]
  rfl

/-- The rounds between the quotes end at the closing quote. -/
private theorem rounds_inside (hq : ∀ c, Text.sameLetter quote c = (quote == c))
    {rest : List Char} (hrest : rest.head? ≠ some quote) {k : Cursor → Option α} {a : α}
    (hk : ∀ before, k ⟨before, quote :: rest⟩ = some a) (cs : List Char) {n : Nat}
    (hn : (doubled quote cs).length ≤ n) (before : Option Char) :
    rounds .greedy (run (inside quote)) k n ⟨before, doubled quote cs ++ quote :: rest⟩ =
      some a := by
  induction cs generalizing n before with
  | nil =>
    change rounds .greedy (run (inside quote)) k n ⟨before, quote :: rest⟩ = some a
    cases n with
    | zero => exact hk before
    | succ n =>
      rw [rounds]
      dsimp only
      rw [run_inside_end hq hrest]
      exact hk before
  | cons c cs ih =>
    by_cases hc : c = quote
    · subst hc
      rw [doubled_cons_self] at hn ⊢
      obtain ⟨n, rfl⟩ : ∃ m, n = m + 1 := ⟨n - 1, by simp at hn; omega⟩
      rw [rounds]
      dsimp only
      rw [List.cons_append, List.cons_append, run_inside_doubled hq,
        if_pos (by simp only [List.length_cons]; omega), ih (by simp at hn; omega)]
      rfl
    · rw [doubled_cons_of_ne hc] at hn ⊢
      obtain ⟨n, rfl⟩ : ∃ m, n = m + 1 := ⟨n - 1, by simp at hn; omega⟩
      rw [rounds]
      dsimp only
      rw [List.cons_append, run_inside_of_ne hq hc,
        if_pos (by simp only [List.length_cons]; omega), ih (by simp at hn; omega)]
      rfl

/-- Only the backtick is the backtick without case. -/
theorem sameLetter_backtick (c : Char) : Text.sameLetter backtick c = (backtick == c) :=
  Text.sameLetter_of_not_alpha (by decide) (by decide) c

/-- Quotes around doubled ones match up to the closing quote. -/
theorem length?_doubledQuotes (before : Option Char) (cs : List Char) {rest : List Char}
    (hrest : rest.head? ≠ some backtick) :
    (doubledQuotes backtick).length? ⟨before, inBackticks cs ++ rest⟩ =
      some (inBackticks cs).length := by
  have htext : inBackticks cs ++ rest =
      backtick :: (doubled backtick cs ++ backtick :: rest) := by simp [inBackticks]
  rw [length?, htext]
  change (letter backtick).run ⟨before, backtick :: (doubled backtick cs ++ backtick :: rest)⟩
    (fun t => rounds .greedy (run (inside backtick)) (fun t => (letter backtick).run t fun t =>
      some ((backtick :: (doubled backtick cs ++ backtick :: rest)).length - t.rest.length))
        t.rest.length t) = _
  rw [run_letter_self sameLetter_backtick]
  dsimp only
  rw [rounds_inside sameLetter_backtick hrest (a := (inBackticks cs).length) (fun before => ?_)]
  · simp
  · rw [run_letter_self sameLetter_backtick, ← htext, List.length_append, Nat.add_sub_cancel]

/-- A written name is one lexeme, whatever the name is. -/
theorem lexeme_inBackticks (before : Option Char) (cs : List Char) {rest : List Char}
    (hrest : rest.head? ≠ some backtick) :
    lexeme ⟨before, inBackticks cs ++ rest⟩ = (.name, (inBackticks cs).length) := by
  refine lexeme_of_ruled? (c := backtick) (by decide) (by decide) (by simp [inBackticks]) ?_
  have hrule : rules[7]? = some (always .name (doubledQuotes backtick)) := rfl
  exact ruled?_of_first hrule (by decide) (length?_doubledQuotes before cs hrest)

end EntityMapper.Sql
