import EntityMapper.Proofs.Pattern.Halting
import EntityMapper.Proofs.Sql.Settled

/-!
# Fronts whose lexemes are known

The lexemes in the front of a text of which nothing but a beginning is known behind the front. A
front that settles its lexemes by itself has the same ones in front of every other text. Letters,
digits, underscores and white space up to a mark that separates items are such a front: no quote,
comment or bracket is open in it, and no words in front of the mark go on behind it.
-/

namespace EntityMapper.Sql

open Pattern

/-- The front of a text has the given lexemes whatever the text goes on with behind the beginning
that is known, since each of them is settled by the front and that beginning. -/
inductive Known [DelimiterForm] (look : List Char) :
    Option Char → List Char → List Lexeme → Prop where
  /-- The empty front has no lexemes. -/
  | nil {before : Option Char} : Known look before [] []
  /-- A lexeme that is settled stands in front of known ones. -/
  | next {before : Option Char} {xs ys : List Char} {kind : LexemeKind} {ls : List Lexeme}
      (settled : settled? ⟨before, xs ++ ys ++ look⟩ = some (kind, xs.length))
      (others : Known look (xs.getLast?.or before) ys ls) :
      Known look before (xs ++ ys) (⟨kind, xs⟩ :: ls)

/-- The lexemes in the front that is given by a place, if they are known. The number bounds them. -/
def known? [DelimiterForm] (look : List Char) : Nat → Cursor → Option (List Lexeme)
  | _, ⟨_, []⟩ => some []
  | 0, _ => none
  | fuel + 1, ⟨before, c :: cs⟩ =>
    match settled? ⟨before, (c :: cs) ++ look⟩ with
    | none => none
    | some (kind, n) =>
      if n ≤ (c :: cs).length then
        (known? look fuel (Cursor.advance n ⟨before, c :: cs⟩)).map (⟨kind, (c :: cs).take n⟩ :: ·)
      else none

section

variable [DelimiterForm] {look front xs ys : List Char} {before : Option Char}
  {ls ms : List Lexeme}

/-- The lexemes that are computed are known. -/
theorem known_of_known? {fuel : Nat} (h : known? look fuel ⟨before, front⟩ = some ls) :
    Known look before front ls := by
  induction fuel generalizing before front ls with
  | zero =>
    cases front with
    | nil => exact Option.some.inj h ▸ .nil
    | cons c cs => cases h
  | succ fuel ih =>
    cases front with
    | nil => exact Option.some.inj h ▸ .nil
    | cons c cs =>
      rw [known?] at h
      split at h
      · cases h
      · rename_i kind n hsettled
        rw [Option.ite_none_right_eq_some] at h
        obtain ⟨hle, h⟩ := h
        obtain ⟨ls, hls, rfl⟩ := Option.map_eq_some_iff.mp h
        obtain ⟨xs, ys, hsplit, rfl⟩ : ∃ xs ys, c :: cs = xs ++ ys ∧ xs.length = n :=
          ⟨_, _, (List.take_append_drop n (c :: cs)).symm, by
            rw [List.length_take, Nat.min_eq_left hle]⟩
        rw [hsplit, Cursor.advance_append] at hls
        rw [hsplit] at hsettled ⊢
        rw [List.take_left]
        exact .next hsettled (ih hls)

/-- A settled lexeme is not empty. -/
theorem settled?_pos {s : Cursor} {kind : LexemeKind} {n : Nat}
    (h : settled? s = some (kind, n)) : 0 < n := by
  have hlexeme := lexeme_of_settled h []
  have hpos := lexeme_pos ⟨s.before, s.rest ++ []⟩
  rwa [hlexeme] at hpos

/-- Known lexemes concatenate to the front. -/
theorem Known.textOf (h : Known look before front ls) : Sql.textOf ls = front := by
  induction h with
  | nil => rfl
  | next _ _ ih => rw [textOf_cons, ih]

/-- Known lexemes are those of the front in every text. -/
theorem Known.lexemesAt (h : Known look before front ls) (more : List Char) :
    Sql.lexemesAt ⟨before, front ++ (look ++ more)⟩ =
      ls ++ Sql.lexemesAt ⟨front.getLast?.or before, look ++ more⟩ := by
  induction h with
  | nil => rfl
  | @next before xs ys kind ls hsettled _ ih =>
    have hne : xs ≠ [] := List.length_pos_iff.mp (settled?_pos hsettled)
    have hlexeme := lexeme_of_settled hsettled more
    rw [List.append_assoc, List.append_assoc] at hlexeme
    rw [List.append_assoc, lexemesAt_append hne hlexeme, ih, List.getLast?_append, Option.or_assoc,
      List.cons_append]

/-- A front that is known by itself can be put in front of a known one. -/
theorem Known.append (hx : Known [] before xs ls)
    (hy : Known look (xs.getLast?.or before) ys ms) : Known look before (xs ++ ys) (ls ++ ms) := by
  induction hx with
  | nil => exact hy
  | @next before xs zs kind ls hsettled _ ih =>
    rw [List.append_nil] at hsettled
    rw [List.getLast?_append, Option.or_assoc] at hy
    rw [List.append_assoc, List.cons_append]
    refine .next ?_ (ih hy)
    have hextend := settled?_extend hsettled (ys ++ look)
    simpa only [List.append_assoc] using hextend

end

/-! ## Text without quotes up to a mark -/

/-- The letters, digits and white space of ASCII, and the underscore. -/
def plainChars : List Char :=
  "ABCDEFGHIJKLMNOPQRSTUVWXYZabcdefghijklmnopqrstuvwxyz0123456789_ \t\r\n".toList

/-- The marks that stand around items and between them, and between statements. -/
def itemMarks : List Char := ['(', ')', ',', ';']

/-- No rule goes past a mark between items behind letters, digits and white space. -/
theorem halts_rules : ∀ m ∈ itemMarks, ∀ rule ∈ rules,
    rule.pattern.halts plainChars m true = true := by
  decide +kernel

/-- What the rules yield in front of a mark between items is settled. -/
theorem settledBy_glimpseRules {m : Char} (hm : m ∈ itemMarks) {s : Cursor}
    (hs : s.Faces plainChars m) :
    (glimpseRules s rules).SettledBy fun found => found.2 ≤ s.rest.length := by
  have hhalts := halts_rules m hm
  generalize rules = rs at hhalts
  induction rs with
  | nil => exact ⟨none, rfl, nofun⟩
  | cons rule rs ih =>
    rw [List.forall_mem_cons] at hhalts
    obtain ⟨length?, hlength, hle⟩ := settledBy_of_halts hhalts.1 hs
    rw [glimpseRules, hlength]
    cases length? with
    | none => exact ih hhalts.2
    | some n =>
      have hle : n ≤ s.rest.length := hle n rfl
      dsimp only
      rw [if_pos hle]
      exact ⟨_, rfl, fun found hfound => Option.some.inj hfound ▸ hle⟩

variable [DelimiterForm]

/-- No dollar-quoted text and no comment begins in front of a mark between items. -/
theorem glimpse_spans_of_faces {m : Char} (hm : m ∈ itemMarks) {s : Cursor}
    (hs : s.Faces plainChars m) :
    glimpseDollar s = some none ∧ glimpseComment s.rest = some none := by
  have hdollar : ∀ m ∈ itemMarks, dollarDelimiter.halts plainChars m true = true ∧
      dollarDelimiter.mayPass (m :: plainChars) = false := by decide
  have hslash : '/' ∉ plainChars ∧ '/' ∉ itemMarks := by decide
  constructor
  · rw [glimpseDollar, glimpse_eq_fail_of_halts (hdollar m hm).1 (hdollar m hm).2 hs]
  · obtain ⟨before, rest⟩ := s
    obtain ⟨c, rest, rfl⟩ := List.exists_cons_of_ne_nil hs.ne_nil
    have hc : '/' ≠ c := by
      rintro rfl
      obtain ⟨ys, hmark⟩ | ⟨d, rest', hcons, hd, -⟩ := hs.cases
      · exact hslash.2 ((List.cons_eq_cons.mp hmark).1 ▸ hm)
      · exact hslash.1 ((List.cons_eq_cons.mp hcons).1 ▸ hd)
    have hopening (more : List Char) : ('/' :: more).isPrefixOf (c :: rest) = false := by
      simp [List.isPrefixOf, hc]
    have hshort : (c :: rest).isPrefixOf ['/', '*'] = false := by
      simp [List.isPrefixOf, hc.symm]
    rw [glimpseComment, blockComment?_eq, hopening, hopening, hshort]
    rfl

/-- The lexeme in front of a mark between items is settled. -/
theorem exists_settled_of_faces {m : Char} (hm : m ∈ itemMarks) {s : Cursor}
    (hs : s.Faces plainChars m) :
    ∃ kind n, settled? s = some (kind, n) ∧ n ≤ s.rest.length := by
  obtain ⟨hdollar, hcomment⟩ := glimpse_spans_of_faces hm hs
  obtain ⟨found, hfound, hle⟩ := settledBy_glimpseRules hm hs
  have hpos : 1 ≤ s.rest.length := List.length_pos_iff.mpr hs.ne_nil
  rw [settled?, hdollar, hcomment, hfound]
  cases found with
  | none => exact ⟨.unknown, 1, rfl, hpos⟩
  | some found => exact ⟨found.1, max found.2 1, rfl, Nat.max_le.mpr ⟨hle found rfl, hpos⟩⟩

/-- Letters, digits, underscores and white space up to a mark between items are known by
themselves. -/
theorem exists_known_of_plain {m : Char} (hm : m ∈ itemMarks) {xs : List Char}
    (hxs : ∀ c ∈ xs, c ∈ plainChars) (before : Option Char) :
    ∃ ls, Known [] before (xs ++ [m]) ls := by
  induction hlen : xs.length using Nat.strongRecOn generalizing xs before with
  | ind len ih =>
    obtain ⟨kind, n, hsettled, hle⟩ := exists_settled_of_faces hm
      (s := ⟨before, xs ++ [m]⟩) ⟨xs, [], hxs, rfl⟩
    have hpos := settled?_pos hsettled
    rw [List.length_append, List.length_singleton] at hle
    by_cases hn : n ≤ xs.length
    · obtain ⟨ls, hls⟩ := ih (xs.drop n).length
        (by rw [List.length_drop]; omega)
        (fun c hc => hxs c (List.mem_of_mem_drop hc)) ((xs.take n).getLast?.or before) rfl
      have hlength : (xs.take n).length = n := by rw [List.length_take, Nat.min_eq_left hn]
      have hsplit : xs ++ [m] = xs.take n ++ (xs.drop n ++ [m]) := by
        rw [← List.append_assoc, List.take_append_drop]
      rw [hsplit] at hsettled ⊢
      exact ⟨_, .next (by rw [List.append_nil, hlength]; exact hsettled) hls⟩
    · have hlength : (xs ++ [m]).length = n := by
        rw [List.length_append, List.length_singleton]
        omega
      rw [← List.append_nil (xs ++ [m])] at hsettled ⊢
      exact ⟨_, .next (by rw [List.append_nil, hlength]; exact hsettled) .nil⟩

/-- A front of letters, digits, underscores and white space is known if what stands behind a mark
between items is. -/
theorem exists_known_append {look : List Char} {m : Char} (hm : m ∈ itemMarks)
    {xs ys : List Char} (hxs : ∀ c ∈ xs, c ∈ plainChars) {ms : List Lexeme}
    (hys : Known look (some m) ys ms) : ∃ ls, Known look none (xs ++ [m] ++ ys) ls := by
  obtain ⟨ls, hls⟩ := exists_known_of_plain hm hxs none
  refine ⟨ls ++ ms, hls.append ?_⟩
  rwa [List.getLast?_concat]

end EntityMapper.Sql
