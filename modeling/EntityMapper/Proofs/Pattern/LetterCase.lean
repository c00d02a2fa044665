import EntityMapper.Pattern.Builders
import EntityMapper.Proofs.Text.Letters
import Mathlib.Data.Option.Basic

/-!
# Patterns that ignore case

Two texts of ASCII that are the same but for the case of their letters are matched alike by a
pattern whose classes of characters hold both forms of a letter or none: the pattern can end at the
same places, in the same order of preference.
-/

namespace EntityMapper

namespace Text

/-- Two ASCII characters that are the same but for the case of a letter. -/
structure CaseTwins (c d : Char) : Prop where
  ascii : c.toNat < 128
  ascii' : d.toNat < 128
  toLower_eq : c.toLower = d.toLower

/-- Two texts of ASCII that are the same but for the case of their letters. -/
abbrev SameLetters (cs ds : List Char) : Prop :=
  List.Forall₂ CaseTwins cs ds

/-- Whether a class of characters holds both forms of a letter of ASCII or none. -/
def IgnoresCase (accepts : Char → Bool) : Prop :=
  ∀ c d, CaseTwins c d → accepts c = accepts d

namespace CaseTwins

variable {c d : Char}

/-- Case twins stand for the same letter. -/
theorem fold_eq (h : CaseTwins c d) : fold c = fold d := by
  rw [fold_of_ascii h.ascii, fold_of_ascii h.ascii', h.toLower_eq]

/-- Case twins have the same upper-case form. -/
theorem toUpper_eq (h : CaseTwins c d) : c.toUpper = d.toUpper := by
  have hupper : ∀ e : Char, e.toNat < 128 → e.toUpper = e.toLower.toUpper := fun e he =>
    forall_below (P := fun e => e.toUpper = e.toLower.toUpper) (by decide) he
  rw [hupper c h.ascii, hupper d h.ascii', h.toLower_eq]

/-- A character that is no letter has no twin but itself. -/
theorem eq_of_not_alpha (h : CaseTwins c d) (hc : c.isAlpha = false) : c = d := by
  have hsame : sameLetter c d = true := beq_iff_eq.mpr h.fold_eq
  rwa [sameLetter_of_not_alpha h.ascii hc, beq_iff_eq] at hsame

theorem symm (h : CaseTwins c d) : CaseTwins d c :=
  ⟨h.ascii', h.ascii, h.toLower_eq.symm⟩

/-- Twins are a given character that is no letter together. -/
theorem eq_iff (h : CaseTwins c d) {mark : Char} (hmark : mark.isAlpha = false) :
    c = mark ↔ d = mark := by
  constructor
  · rintro rfl
    exact (h.eq_of_not_alpha hmark).symm
  · rintro rfl
    exact (h.symm.eq_of_not_alpha hmark).symm

end CaseTwins

/-- A class ignores case if it holds the letters that its lower-case forms stand for. -/
theorem ignoresCase_of_toLower {accepts : Char → Bool}
    (h : ∀ n : Fin 128, accepts (Char.ofNat n) = accepts (Char.ofNat n).toLower) :
    IgnoresCase accepts := by
  intro c d hcd
  have hlower : ∀ e : Char, e.toNat < 128 → accepts e = accepts e.toLower := fun e he =>
    forall_below (P := fun e => accepts e = accepts e.toLower) h he
  rw [hlower c hcd.ascii, hlower d hcd.ascii', hcd.toLower_eq]

/-- A test of the letter that a character stands for ignores case. -/
theorem ignoresCase_of_fold {accepts : Char → Bool} (test : Char → Bool)
    (h : ∀ c, accepts c = test (fold c)) : IgnoresCase accepts := by
  intro c d hcd
  rw [h, h, hcd.fold_eq]

/-- Comparing with a given letter ignores case. -/
theorem ignoresCase_sameLetter (c : Char) : IgnoresCase (sameLetter c) :=
  ignoresCase_of_fold (fold c == ·) fun _ => rfl

/-- The letters that names begin with are there in both cases. -/
theorem ignoresCase_isNameStart : IgnoresCase isNameStart :=
  ignoresCase_of_fold (fun letter => ('a' ≤ letter && letter ≤ 'z') ||
    ('à' ≤ letter && letter ≤ 'ö') || ('ø' ≤ letter && letter ≤ 'ü') || letter == '×') fun _ => rfl

/-- The characters of words are there in both cases. -/
theorem ignoresCase_isWord : IgnoresCase isWord :=
  ignoresCase_of_toLower (by decide)

/-- White space has no case. -/
theorem ignoresCase_isSpace : IgnoresCase isSpace :=
  ignoresCase_of_toLower (by decide)

theorem ignoresCase_isDecimal : IgnoresCase isDecimal :=
  ignoresCase_of_toLower (by decide)

/-- A class of all characters but one that is no letter ignores case. -/
theorem ignoresCase_ne {mark : Char} (h : mark.isAlpha = false) : IgnoresCase (· != mark) := by
  intro c d hcd
  rw [Bool.eq_iff_iff, bne_iff_ne, bne_iff_ne, Ne, Ne, hcd.eq_iff h]

/-- A class of characters that are no letters ignores case. -/
theorem ignoresCase_contains {marks : List Char} (h : ∀ c ∈ marks, c.isAlpha = false) :
    IgnoresCase marks.contains := by
  intro c d hcd
  rw [Bool.eq_iff_iff, List.contains_iff_mem, List.contains_iff_mem]
  constructor
  · intro hc
    exact hcd.eq_of_not_alpha (h c hc) ▸ hc
  · intro hd
    exact hcd.symm.eq_of_not_alpha (h d hd) ▸ hd

/-- The complement of a class ignores case if the class does. -/
theorem IgnoresCase.not {accepts : Char → Bool} (h : IgnoresCase accepts) :
    IgnoresCase (!accepts ·) := by
  intro c d hcd
  exact congrArg _ (h c d hcd)

end Text

open Text

namespace Cursor

/-- Two places in texts that are the same but for the case of their letters. -/
structure SameLetters (s s' : Cursor) : Prop where
  before : Option.Rel CaseTwins s.before s'.before
  rest : Text.SameLetters s.rest s'.rest

variable {s s' : Cursor}

theorem SameLetters.length_eq (h : s.SameLetters s') : s.rest.length = s'.rest.length :=
  h.rest.length_eq

/-- Places with the same letters ahead have case twins next, or both nothing. -/
theorem SameLetters.head? (h : s.SameLetters s') :
    Option.Rel CaseTwins s.rest.head? s'.rest.head? := by
  obtain ⟨before, rest⟩ := s
  obtain ⟨before', rest'⟩ := s'
  cases h.rest with
  | nil => exact .none
  | cons hc _ => exact .some hc

/-- The same number of characters further on the letters ahead are still the same. -/
theorem SameLetters.advance (h : s.SameLetters s') (n : Nat) :
    (s.advance n).SameLetters (s'.advance n) := by
  induction n generalizing s s' with
  | zero => exact h
  | succ n ih =>
    obtain ⟨before, rest⟩ := s
    obtain ⟨before', rest'⟩ := s'
    cases h.rest with
    | nil => exact ⟨h.before, .nil⟩
    | cons hc hcs => exact ih ⟨.some hc, hcs⟩

/-- A class that ignores case holds both of two case twins or neither. -/
theorem any_eq_of_rel {accepts : Char → Bool} (h : IgnoresCase accepts) {a b : Option Char}
    (hab : Option.Rel CaseTwins a b) : a.any accepts = b.any accepts := by
  cases hab with
  | none => rfl
  | some hcd => exact h _ _ hcd

/-- Words have their edges at the same places. -/
theorem SameLetters.isWordEdge_eq (h : s.SameLetters s') : s.isWordEdge = s'.isWordEdge := by
  rw [isWordEdge, isWordEdge, any_eq_of_rel ignoresCase_isWord h.before,
    any_eq_of_rel ignoresCase_isWord h.head?]

/-- Texts with the same letters end at the same places. -/
theorem SameLetters.isLineEnd_eq (h : s.SameLetters s') : s.isLineEnd = s'.isLineEnd := by
  obtain ⟨before, rest⟩ := s
  obtain ⟨before', rest'⟩ := s'
  rw [isLineEnd, isLineEnd]
  rcases h.rest with _ | ⟨hc, _ | ⟨hc', hcs⟩⟩
  · rfl
  · have hfeed := hc.eq_iff (show '\n'.isAlpha = false from rfl)
    rw [Bool.eq_iff_iff]
    simp [hfeed]
  · simp

end Cursor

namespace Pattern

/-- Whether every class of characters in a pattern ignores case. -/
def IgnoresCase : Pattern → Prop
  | .empty | .wordEdge | .lineEnd => True
  | .one accepts | .many _ accepts => Text.IgnoresCase accepts
  | .followedBy p q | .orElse p q => IgnoresCase p ∧ IgnoresCase q
  | .repeated _ p | .ahead p => IgnoresCase p
  | .next test | .behind test => Text.IgnoresCase fun c => test (some c)

section Builders

variable {p q : Pattern}

/-- A sequence ignores case exactly if its parts do. -/
@[simp] theorem ignoresCase_append : (p ++ q).IgnoresCase ↔ p.IgnoresCase ∧ q.IgnoresCase :=
  Iff.rfl

/-- A choice ignores case exactly if both sides do. -/
@[simp] theorem ignoresCase_orElse : (p <|> q).IgnoresCase ↔ p.IgnoresCase ∧ q.IgnoresCase :=
  Iff.rfl

@[simp] theorem ignoresCase_repeated {appetite : Appetite} :
    (repeated appetite p).IgnoresCase ↔ p.IgnoresCase := Iff.rfl

@[simp] theorem ignoresCase_ahead : (ahead p).IgnoresCase ↔ p.IgnoresCase := Iff.rfl

@[simp] theorem ignoresCase_wordEdge : wordEdge.IgnoresCase := trivial

@[simp] theorem ignoresCase_lineEnd : lineEnd.IgnoresCase := trivial

/-- One character of a class ignores case exactly if the class does. -/
@[simp] theorem ignoresCase_one {accepts : Char → Bool} :
    (one accepts).IgnoresCase ↔ Text.IgnoresCase accepts := Iff.rfl

/-- A row of characters ignores case exactly if their class does. -/
@[simp] theorem ignoresCase_many {appetite : Appetite} {accepts : Char → Bool} :
    (many appetite accepts).IgnoresCase ↔ Text.IgnoresCase accepts := Iff.rfl

@[simp] theorem ignoresCase_zeroOrMore {accepts : Char → Bool} :
    (zeroOrMore accepts).IgnoresCase ↔ Text.IgnoresCase accepts := Iff.rfl

@[simp] theorem ignoresCase_oneOrMore {accepts : Char → Bool} :
    (oneOrMore accepts).IgnoresCase ↔ Text.IgnoresCase accepts :=
  and_self_iff

@[simp] theorem ignoresCase_blanks : blanks.IgnoresCase :=
  ignoresCase_oneOrMore.mpr ignoresCase_isSpace

@[simp] theorem ignoresCase_optional : (optional p).IgnoresCase ↔ p.IgnoresCase :=
  and_iff_left trivial

@[simp] theorem ignoresCase_letter (c : Char) : (letter c).IgnoresCase :=
  ignoresCase_sameLetter c

/-- A fixed text is matched in any case. -/
@[simp] theorem ignoresCase_text (word : String) : (text word).IgnoresCase := by
  rw [text]
  induction word.toList with
  | nil => trivial
  | cons c cs ih => exact ⟨ignoresCase_letter c, ih⟩

/-- A choice of fixed texts is matched in any case. -/
@[simp] theorem ignoresCase_anyOf (words : List String) : (anyOf words).IgnoresCase := by
  fun_induction anyOf words with
  | case1 => exact fun _ _ _ => rfl
  | case2 word => exact ignoresCase_text word
  | case3 word words _ ih => exact ⟨ignoresCase_text word, ih⟩

/-- A phrase is matched in any case. -/
@[simp] theorem ignoresCase_phrase (words : List String) : (phrase words).IgnoresCase := by
  fun_induction phrase words with
  | case1 => exact trivial
  | case2 word => exact ⟨ignoresCase_text word, trivial⟩
  | case3 word words _ ih => exact ⟨⟨ignoresCase_text word, ignoresCase_blanks⟩, ih⟩

@[simp] theorem ignoresCase_notNext {accepts : Char → Bool} (h : Text.IgnoresCase accepts) :
    (notNext accepts).IgnoresCase :=
  h.not

@[simp] theorem ignoresCase_notBehind {accepts : Char → Bool} (h : Text.IgnoresCase accepts) :
    (notBehind accepts).IgnoresCase :=
  h.not

end Builders

/-! ## Matching -/

section

variable {α : Type} {k k' : Cursor → Option α}

/-- Greedy rows of characters come to the same on texts with the same letters. -/
theorem manyGreedy_eq_of_sameLetters {accepts : Char → Bool} (h : Text.IgnoresCase accepts)
    (hk : ∀ t t', t.SameLetters t' → k t = k' t') {before before' : Option Char}
    {cs cs' : List Char} (hbefore : Option.Rel CaseTwins before before')
    (hcs : Text.SameLetters cs cs') :
    manyGreedy accepts k before cs = manyGreedy accepts k' before' cs' := by
  induction hcs generalizing before before' with
  | nil => exact hk _ _ ⟨hbefore, .nil⟩
  | @cons c d cs ds hc hcs ih =>
    have hhere : k ⟨before, c :: cs⟩ = k' ⟨before', d :: ds⟩ := hk _ _ ⟨hbefore, .cons hc hcs⟩
    rw [manyGreedy, manyGreedy, h _ _ hc, ih (.some hc), hhere]

/-- Reluctant rows of characters come to the same on texts with the same letters. -/
theorem manyReluctant_eq_of_sameLetters {accepts : Char → Bool} (h : Text.IgnoresCase accepts)
    (hk : ∀ t t', t.SameLetters t' → k t = k' t') {before before' : Option Char}
    {cs cs' : List Char} (hbefore : Option.Rel CaseTwins before before')
    (hcs : Text.SameLetters cs cs') :
    manyReluctant accepts k before cs = manyReluctant accepts k' before' cs' := by
  induction hcs generalizing before before' with
  | nil => exact hk _ _ ⟨hbefore, .nil⟩
  | @cons c d cs ds hc hcs ih =>
    have hhere : k ⟨before, c :: cs⟩ = k' ⟨before', d :: ds⟩ := hk _ _ ⟨hbefore, .cons hc hcs⟩
    rw [manyReluctant, manyReluctant, h _ _ hc, ih (.some hc), hhere]

/-- Rounds of a step that ignores case come to the same on texts with the same letters. -/
theorem rounds_eq_of_sameLetters {appetite : Appetite}
    {step : Cursor → (Cursor → Option α) → Option α}
    (hstep : ∀ {s s' : Cursor} {k k' : Cursor → Option α}, s.SameLetters s' →
      (∀ t t', t.SameLetters t' → k t = k' t') → step s k = step s' k')
    (hk : ∀ t t', t.SameLetters t' → k t = k' t') (n : Nat) {s s' : Cursor}
    (h : s.SameLetters s') : rounds appetite step k n s = rounds appetite step k' n s' := by
  induction n generalizing s s' with
  | zero => exact hk _ _ h
  | succ n ih =>
    have hfurther : (step s fun t =>
          if t.rest.length < s.rest.length then rounds appetite step k n t else none) =
        step s' fun t =>
          if t.rest.length < s'.rest.length then rounds appetite step k' n t else none := by
      refine hstep h fun t t' ht => ?_
      rw [ht.length_eq, h.length_eq, ih ht]
    cases appetite with
    | greedy =>
      rw [rounds, rounds]
      dsimp only
      rw [hfurther, hk _ _ h]
    | reluctant =>
      rw [rounds, rounds]
      dsimp only
      rw [hfurther, hk _ _ h]

/-- A pattern that ignores case is matched alike at places in texts that are the same but for the
case of their letters. -/
theorem run_eq_of_sameLetters {p : Pattern} (hp : p.IgnoresCase) {s s' : Cursor}
    (h : s.SameLetters s') (hk : ∀ t t', t.SameLetters t' → k t = k' t') :
    p.run s k = p.run s' k' := by
  induction p generalizing s s' k k' with
  | empty => exact hk _ _ h
  | one accepts =>
    obtain ⟨before, rest⟩ := s
    obtain ⟨before', rest'⟩ := s'
    cases h.rest with
    | nil => rfl
    | @cons c d cs ds hc hcs =>
      have hthere : k ⟨some c, cs⟩ = k' ⟨some d, ds⟩ := hk _ _ ⟨.some hc, hcs⟩
      rw [run, run, hp _ _ hc, hthere]
  | followedBy p q ihp ihq => exact ihp hp.1 h fun t t' ht => ihq hp.2 ht hk
  | orElse p q ihp ihq => rw [run, run, ihp hp.1 h hk, ihq hp.2 h hk]
  | many appetite accepts =>
    obtain ⟨before, rest⟩ := s
    obtain ⟨before', rest'⟩ := s'
    cases appetite with
    | greedy => exact manyGreedy_eq_of_sameLetters hp hk h.before h.rest
    | reluctant => exact manyReluctant_eq_of_sameLetters hp hk h.before h.rest
  | repeated appetite p ihp =>
    rw [run, run, h.length_eq]
    exact rounds_eq_of_sameLetters (fun hs hk => ihp hp hs hk) hk _ h
  | ahead p ihp => exact ihp hp h fun _ _ _ => hk _ _ h
  | next test =>
    have htest : test s.rest.head? = test s'.rest.head? := by
      have hhead := h.head?
      revert hhead
      generalize s.rest.head? = a
      generalize s'.rest.head? = b
      intro hhead
      cases hhead with
      | none => rfl
      | some hcd => exact hp _ _ hcd
    rw [run, run, htest, hk _ _ h]
  | behind test =>
    have htest : test s.before = test s'.before := by
      obtain ⟨before, rest⟩ := s
      obtain ⟨before', rest'⟩ := s'
      cases h.before with
      | none => rfl
      | some hcd => exact hp _ _ hcd
    rw [run, run, htest, hk _ _ h]
  | wordEdge => rw [run, run, h.isWordEdge_eq, hk _ _ h]
  | lineEnd => rw [run, run, h.isLineEnd_eq, hk _ _ h]

end

/-- The match of a pattern that ignores case is as long in either text. -/
theorem length?_eq_of_sameLetters {p : Pattern} (hp : p.IgnoresCase) {s s' : Cursor}
    (h : s.SameLetters s') : p.length? s = p.length? s' :=
  run_eq_of_sameLetters hp h fun t t' ht => by rw [h.length_eq, ht.length_eq]

end Pattern

end EntityMapper
