import EntityMapper.Proofs.Sql.Lexemes
import EntityMapper.Proofs.Text.Letters

/-!
# Rows of digits

A row of digits in front of a comma or a closing parenthesis is one lexeme, a number. The rules for
numbers in other notations are tried before, and none of the letters and marks that they ask for
stands in the row or behind it. In front of a name the row ends one digit earlier.
-/

namespace EntityMapper.Sql

open Pattern Text

/-- A digit of ASCII is a decimal digit. -/
theorem isDecimal_of_isDigit {d : Char} (h : d.isDigit = true) : isDecimal d = true := by
  simp [isDecimal, h]

/-- No name begins with a digit. -/
theorem isNameHead_of_isDigit {d : Char} (h : d.isDigit = true) : isNameHead d = false :=
  forall_digit (P := fun d => isNameHead d = false) (by decide) h

/-- The characters that end a row of digits among the arguments of a type. -/
def argumentEnds : List Char := [',', ')']

/-- The letters and marks that the rules for numbers ask for beside digits. -/
def numberMarks : List Char := ['-', '.', 'E', 'x']

/-- A character behind a row of digits with which no number in another notation goes on, but for a
hexadecimal one. -/
structure EndsRow (last : Char) : Prop where
  not_decimal : isDecimal last = false
  not_mark : ∀ q ∈ numberMarks, q ≠ 'x' → sameLetter q last = false

/-- A place in a row of digits, or at the character that ends it. -/
def InDigits (last : Char) (rest : List Char) (s : Cursor) : Prop :=
  ∃ ds : List Char, (∀ d ∈ ds, d.isDigit = true) ∧ s.rest = ds ++ last :: rest

variable {last : Char} {rest : List Char} {s t : Cursor}

/-- A comma and a closing parenthesis end a row of digits. -/
theorem endsRow_of_argumentEnds (hlast : last ∈ argumentEnds) : EndsRow last := by
  have hends : ∀ last ∈ argumentEnds, isDecimal last = false ∧
      ∀ q ∈ numberMarks, q ≠ 'x' → sameLetter q last = false := by decide
  exact ⟨(hends last hlast).1, (hends last hlast).2⟩

/-- A mark in a row of digits or behind it stands behind it. -/
theorem InDigits.eq_of_ends_letter (hs : InDigits last rest s) {q : Char} (hq : q ∈ numberMarks)
    (h : Ends (letter q) s t) : sameLetter q last = true ∧ s.rest = last :: rest := by
  have hdigit {d : Char} (hd : d.isDigit = true) : ∀ q ∈ numberMarks, sameLetter q d = false :=
    forall_digit (P := fun d => ∀ q ∈ numberMarks, sameLetter q d = false) (by decide) hd
  obtain ⟨ds, hds, hrest⟩ := hs
  obtain ⟨c, hc, hcons, -⟩ := h
  rw [hrest] at hcons ⊢
  cases ds with
  | nil =>
    obtain ⟨rfl, -⟩ := List.cons_eq_cons.mp hcons
    exact ⟨hc, rfl⟩
  | cons d ds =>
    obtain ⟨rfl, -⟩ := List.cons_eq_cons.mp hcons
    rw [hdigit (hds d List.mem_cons_self) q hq] at hc
    cases hc

/-- No mark but an x stands in a row of digits or behind it. -/
theorem InDigits.not_ends_letter (hs : InDigits last rest s) (hlast : EndsRow last) {q : Char}
    (hq : q ∈ numberMarks) (hx : q ≠ 'x') : ¬ Ends (letter q) s t := by
  intro h
  have hmark := (hs.eq_of_ends_letter hq h).1
  rw [hlast.not_mark q hq hx] at hmark
  cases hmark

/-- Taking a digit stays in the row. -/
theorem InDigits.takes (hs : InDigits last rest s) (hlast : EndsRow last)
    (h : Takes isDecimal s t) : InDigits last rest t := by
  obtain ⟨ds, hds, hrest⟩ := hs
  obtain ⟨c, hc, hcons, -⟩ := h
  rw [hrest] at hcons
  cases ds with
  | nil =>
    obtain ⟨rfl, -⟩ := List.cons_eq_cons.mp hcons
    rw [hlast.not_decimal] at hc
    cases hc
  | cons d ds =>
    exact ⟨ds, fun e he => hds e (List.mem_cons_of_mem d he), (List.cons_eq_cons.mp hcons).2.symm⟩

/-- Taking digits stays in the row. -/
theorem InDigits.digits (hs : InDigits last rest s) (hlast : EndsRow last)
    (h : Ends digits s t) : InDigits last rest t := by
  obtain ⟨m, hm, ht⟩ := h
  have hstart := hs.takes hlast hm
  induction ht with
  | refl => exact hstart
  | tail _ hstep ih => exact ih.takes hlast hstep

/-- No sign stands in a row of digits. -/
theorem InDigits.sign (hs : InDigits last rest s) (hlast : EndsRow last)
    (h : Ends sign s t) : t = s := by
  obtain h | h := h
  · exact absurd h (hs.not_ends_letter hlast (by decide) (by decide))
  · exact h

/-- The pattern of hexadecimal numbers. -/
def hexNumber : Pattern :=
  Sql.sign ++ text "0x" ++ oneOrMore fun c => isDecimal (fold c) || ('a' ≤ fold c && fold c ≤ 'f')

/-- A hexadecimal number begins in a row of digits only at a zero in front of an x. -/
theorem InDigits.not_ends_hex (hs : InDigits last rest s) (hlast : EndsRow last)
    (hx : sameLetter 'x' last = true → s.rest ≠ '0' :: last :: rest) : ¬ Ends hexNumber s t := by
  rintro ⟨u, ⟨m, hm, v, hzero, w, hmark, -⟩, -⟩
  obtain rfl := hs.sign hlast hm
  obtain ⟨c, hc, hrest, hv⟩ := hzero
  obtain rfl : c = '0' := by
    rw [sameLetter_of_not_alpha (by decide) (by decide), beq_iff_eq] at hc
    exact hc.symm
  have hin : InDigits last rest v := hs.takes hlast ⟨'0', by decide, hrest, hv⟩
  obtain ⟨hsame, hlastRest⟩ := hin.eq_of_ends_letter (by decide) hmark
  exact hx hsame (by rw [hrest, hlastRest])

/-- A number with an exponent does not begin in a row of digits. -/
theorem InDigits.not_ends_exponent (hs : InDigits last rest s) (hlast : EndsRow last) :
    ¬ Ends (Sql.sign ++ Sql.digits ++ optional (letter '.' ++ Sql.digits) ++ letter 'E' ++
      Sql.sign ++ Sql.digits) s t := by
  rintro ⟨u, ⟨v, ⟨w, ⟨x, ⟨y, hsign, hdigits⟩, hfraction⟩, hmark⟩, -⟩, -⟩
  obtain rfl := hs.sign hlast hsign
  have hx := hs.digits hlast hdigits
  obtain ⟨z, hdot, -⟩ | rfl := hfraction
  · exact hx.not_ends_letter hlast (by decide) (by decide) hdot
  · exact hx.not_ends_letter hlast (by decide) (by decide) hmark

/-- A number with a point does not begin in a row of digits. -/
theorem InDigits.not_ends_point (hs : InDigits last rest s) (hlast : EndsRow last) :
    ¬ Ends (notNext isNameHead ++ Sql.sign ++
      ((Sql.digits ++ letter '.' ++ zeroOrMore isDecimal) <|> (letter '.' ++ Sql.digits)) ++
      notNext isNameHead) s t := by
  rintro ⟨u, ⟨v, ⟨w, ⟨rfl, -⟩, hsign⟩, hpoint⟩, -⟩
  obtain rfl := hs.sign hlast hsign
  obtain ⟨x, ⟨y, hdigits, hdot⟩, -⟩ | ⟨x, hdot, -⟩ := hpoint
  · exact (hs.digits hlast hdigits).not_ends_letter hlast (by decide) (by decide) hdot
  · exact hs.not_ends_letter hlast (by decide) (by decide) hdot

/-! ## The lexeme of a row of digits -/

/-- A greedy run goes through accepted characters to a place where it succeeds. -/
theorem manyGreedy_append {α : Type} {accepts : Char → Bool} (k : Cursor → Option α) {a : α}
    {ds cs : List Char} (hds : ∀ d ∈ ds, accepts d = true)
    (hk : ∀ before, manyGreedy accepts k before cs = some a) (before : Option Char) :
    manyGreedy accepts k before (ds ++ cs) = some a := by
  induction ds generalizing before with
  | nil => exact hk before
  | cons d ds ih =>
    rw [List.cons_append, manyGreedy, if_pos (hds d List.mem_cons_self),
      ih fun e he => hds e (List.mem_cons_of_mem d he)]
    rfl

/-- The pattern of whole numbers. -/
def wholeNumber : Pattern :=
  notNext isNameHead ++ Sql.sign ++ Sql.digits ++ notNext isNameHead

/-- The pattern of whole numbers takes digits from a digit on, up to a place that is not in front of
a name. -/
theorem length?_wholeNumber {d : Char} (hd : d.isDigit = true) (before : Option Char)
    (cs : List Char) : wholeNumber.length? ⟨before, d :: cs⟩ =
      manyGreedy isDecimal (fun t => (notNext isNameHead).run t fun t =>
        some ((d :: cs).length - t.rest.length)) (some d) cs := by
  have hsign : sameLetter '-' d = false :=
    forall_digit (P := fun d => sameLetter '-' d = false) (by decide) hd
  change (if (!Option.any isNameHead (some d)) = true then
    (Sql.sign.run ⟨before, d :: cs⟩ fun t => Sql.digits.run t fun t =>
      (notNext isNameHead).run t fun t => some ((d :: cs).length - t.rest.length)) else none) = _
  rw [if_pos (by simp [isNameHead_of_isDigit hd])]
  change (((letter '-').run ⟨before, d :: cs⟩ _) <|>
    Sql.digits.run ⟨before, d :: cs⟩ fun t =>
      (notNext isNameHead).run t fun t => some ((d :: cs).length - t.rest.length)) = _
  rw [letter, run, if_neg (by simp [hsign])]
  change (if isDecimal d = true then manyGreedy isDecimal (fun t =>
    (notNext isNameHead).run t fun t => some ((d :: cs).length - t.rest.length)) (some d) cs
    else none) = _
  rw [if_pos (isDecimal_of_isDigit hd)]

/-- The pattern of whole numbers takes a row of digits that is not in front of a name. -/
theorem length?_digits {d : Char} {ds : List Char} (hd : ∀ e ∈ d :: ds, e.isDigit = true)
    (hlast : isDecimal last = false) (hname : isNameHead last = false) (before : Option Char) :
    wholeNumber.length? ⟨before, d :: ds ++ last :: rest⟩ = some (d :: ds).length := by
  rw [List.cons_append, length?_wholeNumber (hd d List.mem_cons_self)]
  refine manyGreedy_append _
    (fun e he => isDecimal_of_isDigit (hd e (List.mem_cons_of_mem d he))) (fun before => ?_) _
  rw [manyGreedy, if_neg (by simp [hlast])]
  simp [notNext, run, hname]
  omega

/-- In front of a name the pattern of whole numbers leaves the last digit of a row to it. -/
theorem length?_digits_name {d e : Char} {ds : List Char}
    (hd : ∀ c ∈ d :: ds, c.isDigit = true) (he : e.isDigit = true) (hlast : isDecimal last = false)
    (hname : isNameHead last = true) (before : Option Char) :
    wholeNumber.length? ⟨before, d :: ds ++ e :: last :: rest⟩ = some (d :: ds).length := by
  rw [List.cons_append, length?_wholeNumber (hd d List.mem_cons_self)]
  refine manyGreedy_append _
    (fun c hc => isDecimal_of_isDigit (hd c (List.mem_cons_of_mem d hc))) (fun before => ?_) _
  rw [manyGreedy, if_pos (isDecimal_of_isDigit he), manyGreedy, if_neg (by simp [hlast])]
  simp [notNext, run, hname, isNameHead_of_isDigit he]
  omega

/-- In front of a name the pattern of whole numbers takes no single digit. -/
theorem length?_digit_name {d : Char} (hd : d.isDigit = true) (hlast : isDecimal last = false)
    (hname : isNameHead last = true) (before : Option Char) :
    wholeNumber.length? ⟨before, d :: last :: rest⟩ = none := by
  rw [length?_wholeNumber hd, manyGreedy, if_neg (by simp [hlast])]
  simp [notNext, run, hname]

/-- The rules before the one for whole numbers are those before the number rules, and these. -/
private theorem earlier_rules (r : LexicalRule) (hr : r ∈ rules.take 21) :
    r ∈ rules.take 18 ∨ r ∈ (rules.take 21).drop 18 := by
  rw [← List.take_append_drop 18 (rules.take 21), List.mem_append] at hr
  exact hr

/-- A digit begins neither a dollar quote nor a comment. -/
theorem not_dollar_of_isDigit {d : Char} (hd : d.isDigit = true) :
    dollarDelimiter.mayTake d = false ∧ d ≠ '/' :=
  forall_digit (P := fun d => dollarDelimiter.mayTake d = false ∧ d ≠ '/') (by decide) hd

/-- A pattern without an end does not match. -/
theorem length?_eq_none_of_not_ends {p : Pattern} (h : ∀ t, ¬ Ends p s t) : p.length? s = none := by
  rw [← Option.not_isSome_iff_eq_none, length?_isSome_iff]
  exact not_exists.mpr h

section Row

variable {d : Char} {ds : List Char} (hds : ∀ e ∈ d :: ds, e.isDigit = true) (hlast : EndsRow last)
  {before : Option Char}
include hds hlast

/-- A row of digits begins no hexadecimal number unless it is a zero in front of an x. -/
theorem length?_hexNumber_eq_none (hx : sameLetter 'x' last = true → d :: ds ≠ ['0']) :
    hexNumber.length? ⟨before, d :: ds ++ last :: rest⟩ = none := by
  have hin : InDigits last rest ⟨before, d :: ds ++ last :: rest⟩ := ⟨d :: ds, hds, rfl⟩
  refine length?_eq_none_of_not_ends fun t => hin.not_ends_hex hlast fun hsame heq => ?_
  exact hx hsame (List.append_cancel_right heq)

/-- The rules in front of that of whole numbers do not match at a row of digits, but for the rule of
hexadecimal numbers. -/
theorem length?_eq_none_of_row
    (hhex : hexNumber.length? ⟨before, d :: ds ++ last :: rest⟩ = none) :
    ∀ r ∈ rules.take 21, r.pattern.length? ⟨before, d :: ds ++ last :: rest⟩ = none := by
  have hfirst : ∀ r ∈ rules.take 18, r.pattern.mayTake d = false :=
    forall_digit (P := fun d => ∀ r ∈ rules.take 18, r.pattern.mayTake d = false)
      (by decide) (hds d List.mem_cons_self)
  have hin : InDigits last rest ⟨before, d :: ds ++ last :: rest⟩ := ⟨d :: ds, hds, rfl⟩
  intro r hr
  obtain hr | hr := earlier_rules r hr
  · exact length?_eq_none_of_first (List.mem_of_mem_take hr) before (hfirst r hr) _
  · change r ∈ [_, _, _] at hr
    simp only [List.mem_cons, List.not_mem_nil, or_false] at hr
    obtain rfl | rfl | rfl := hr
    · exact hhex
    · exact length?_eq_none_of_not_ends fun t => hin.not_ends_exponent hlast
    · exact length?_eq_none_of_not_ends fun t => hin.not_ends_point hlast

/-- What the pattern of whole numbers takes of a row of digits is a number. -/
theorem lexeme_of_wholeNumber (hx : sameLetter 'x' last = true → d :: ds ≠ ['0']) {n : Nat}
    (hn : 0 < n) (h : wholeNumber.length? ⟨before, d :: ds ++ last :: rest⟩ = some n) :
    lexeme ⟨before, d :: ds ++ last :: rest⟩ = (.number, n) := by
  obtain ⟨hdollar, hslash⟩ := not_dollar_of_isDigit (hds d List.mem_cons_self)
  have hrule : rules[21]? = some (always .number wholeNumber) := rfl
  have hhex : hexNumber.length? ⟨before, d :: ds ++ last :: rest⟩ = none :=
    length?_hexNumber_eq_none hds hlast hx
  exact lexeme_of_ruled? hdollar hslash hn
    (ruled?_of_split hrule (length?_eq_none_of_row hds hlast hhex) h)

end Row

/-- A row of digits is one lexeme. -/
theorem lexeme_digits {ds : List Char} (hne : ds ≠ []) (hds : ∀ d ∈ ds, d.isDigit = true)
    (hlast : last ∈ argumentEnds) (before : Option Char) :
    lexeme ⟨before, ds ++ last :: rest⟩ = (.number, ds.length) := by
  have hends : ∀ last ∈ argumentEnds, sameLetter 'x' last = false ∧ isNameHead last = false := by
    decide
  obtain ⟨d, ds, rfl⟩ := List.exists_cons_of_ne_nil hne
  have hrow := endsRow_of_argumentEnds hlast
  refine lexeme_of_wholeNumber hds hrow (fun hx => ?_) (by simp)
    (length?_digits hds hrow.not_decimal (hends last hlast).2 before)
  rw [(hends last hlast).1] at hx
  cases hx

end EntityMapper.Sql
