import EntityMapper.Proofs.Pattern.Consumption
import EntityMapper.Proofs.Sql.Spans
import EntityMapper.Proofs.Sql.WordEnds
import Mathlib.Data.List.TakeWhile

/-!
# How the tokens of a text are laid out

Between two tokens of a text stands white space, perhaps with comments in it, whose first character
that is no white space belongs to no word. A token that is a word is the part of the text that it
comes from, and no word of the text goes on behind it.
-/

namespace EntityMapper.Sql

/-! ## Gaps -/

/-- The text is white space up to a character that belongs to no word, or up to its end. -/
def IsGap (cs : List Char) : Prop :=
  (cs.dropWhile Text.isSpace).head?.any Text.isWord = false

/-- White space is a gap. -/
theorem isGap_of_isSpace {cs : List Char} (h : ∀ c ∈ cs, Text.isSpace c = true) : IsGap cs := by
  rw [IsGap, List.dropWhile_eq_nil_iff.mpr h]
  rfl

/-- A text that begins with a character that is neither white space nor of a word is a gap. -/
theorem isGap_cons {c : Char} (hc : Text.isSpace c = false) (h : Text.isWord c = false)
    (cs : List Char) : IsGap (c :: cs) := by
  rw [IsGap, List.dropWhile_cons_of_neg (by simp [hc])]
  exact h

/-- Two gaps make a gap. -/
theorem IsGap.append {xs ys : List Char} (hxs : IsGap xs) (hys : IsGap ys) : IsGap (xs ++ ys) := by
  rw [IsGap, List.dropWhile_append]
  split
  · exact hys
  · rename_i hne
    rw [List.isEmpty_iff] at hne
    rwa [List.head?_append_of_ne_nil _ hne]

/-- White space in front of a word is all of a gap in front of a word. -/
theorem IsGap.eq_of_append {gap blank xs ys : List Char} (hgap : IsGap gap)
    (hblank : ∀ c ∈ blank, Text.isSpace c = true) (hxs : xs.head?.any Text.isWord = true)
    (hys : ys.head?.any Text.isWord = true) (h : gap ++ xs = blank ++ ys) :
    gap = blank ∧ xs = ys := by
  have dropWhile_word {zs : List Char} (hzs : zs.head?.any Text.isWord = true) :
      zs.dropWhile Text.isSpace = zs := by
    cases zs with
    | nil => rfl
    | cons z zs =>
      apply List.dropWhile_cons_of_neg
      intro hspace
      rw [List.head?_cons, Option.any_some, Text.isWord_of_isSpace hspace] at hzs
      cases hzs
  have hspace : gap.dropWhile Text.isSpace = [] := by
    by_contra hne
    have hdrop := congrArg (List.dropWhile Text.isSpace) h
    rw [List.dropWhile_append, if_neg (by simpa [List.isEmpty_iff] using hne),
      List.dropWhile_append_of_pos hblank, dropWhile_word hys] at hdrop
    rw [← hdrop, List.head?_append_of_ne_nil _ hne, hgap] at hys
    cases hys
  have heq : xs = ys := by
    have hdrop := congrArg (List.dropWhile Text.isSpace) h
    rwa [List.dropWhile_append_of_pos (List.dropWhile_eq_nil_iff.mp hspace),
      List.dropWhile_append_of_pos hblank, dropWhile_word hxs, dropWhile_word hys] at hdrop
  exact ⟨List.append_cancel_right (heq ▸ h), heq⟩

/-! ## Laid-out tokens -/

/-- A token stands in a text, behind a gap that begins at the given index. -/
structure StandsIn (text : List Char) (low : Nat) (t : Token) : Prop where
  low_le : low ≤ t.start
  start_lt : t.start < t.stop
  stop_le : t.stop ≤ text.length
  gap : IsGap (slice text low t.start)
  value : t.kind = .word → slice text t.start t.stop = t.value.toList
  sealed : t.kind = .word → ((Cursor.start text).advance t.stop).Sealed

/-- The tokens stand in a text one after the other, the first one behind the given index. -/
def LaidOut (text : List Char) : Nat → List Token → Prop
  | _, [] => True
  | low, t :: ts => StandsIn text low t ∧ LaidOut text t.stop ts

/-- The index where the last of the tokens stops, or else the given one. -/
def stopAfter : Nat → List Token → Nat
  | low, [] => low
  | _, t :: ts => stopAfter t.stop ts

/-- The first part of a layout is laid out from the same place. -/
theorem LaidOut.left {text : List Char} {low : Nat} {xs ys : List Token}
    (h : LaidOut text low (xs ++ ys)) : LaidOut text low xs := by
  induction xs generalizing low with
  | nil => trivial
  | cons t ts ih => exact ⟨h.1, ih h.2⟩

/-- The second part of a layout is laid out from where the first one stops. -/
theorem LaidOut.right {text : List Char} {low : Nat} {xs ys : List Token}
    (h : LaidOut text low (xs ++ ys)) : LaidOut text (stopAfter low xs) ys := by
  induction xs generalizing low with
  | nil => exact h
  | cons t ts ih => exact ih h.2

/-- Tokens in front of another one stand in any longer text. -/
theorem LaidOut.extend {text : List Char} {low : Nat} {ts : List Token} {last : Token}
    (h : LaidOut text low (ts ++ [last])) (more : List Char) : LaidOut (text ++ more) low ts := by
  induction ts generalizing low with
  | nil => trivial
  | cons t ts ih =>
    obtain ⟨ht, hts⟩ := h
    have hlt : t.stop < text.length := by
      cases ts with
      | nil =>
        have hlast := hts.1
        have := hlast.low_le
        have := hlast.start_lt
        have := hlast.stop_le
        omega
      | cons u us =>
        have hu := hts.1
        have := hu.low_le
        have := hu.start_lt
        have := hu.stop_le
        omega
    refine ⟨?_, ih hts⟩
    exact
      { low_le := ht.low_le
        start_lt := ht.start_lt
        stop_le := by
          rw [List.length_append]
          omega
        gap := by
          rw [slice_append_right (by have := ht.start_lt; omega)]
          exact ht.gap
        value := fun hword => by
          rw [slice_append_right ht.stop_le]
          exact ht.value hword
        sealed := fun hword hbefore => by
          have hrest : (Cursor.advance t.stop ⟨none, text⟩).rest ≠ [] := by
            rw [Cursor.advance_rest, Ne, List.drop_eq_nil_iff]
            exact Nat.not_le.mpr hlt
          rw [Cursor.start, Cursor.advance_append_right ht.stop_le] at hbefore ⊢
          dsimp only
          rw [List.head?_append_of_ne_nil _ hrest]
          exact ht.sealed hword hbefore }

/-! ## The words of a lexeme -/

/-- A place in front of white space is sealed. -/
theorem sealed_of_space {text after : List Char} {index : Nat} {c : Char}
    (h : text.drop index = c :: after) (hc : Text.isSpace c = true) :
    ((Cursor.start text).advance index).Sealed := by
  intro _
  have hrest : ((Cursor.start text).advance index).rest = c :: after :=
    (Cursor.advance_rest index _).trans h
  rw [hrest, List.head?_cons, Option.any_some, Text.isWord_of_isSpace hc]

/-- A run of characters of a class up to the first other character is determined by the text. -/
theorem run_unique {p : Char → Bool} {xs xs' ys ys' : List Char} (hxs : ∀ c ∈ xs, p c = true)
    (hxs' : ∀ c ∈ xs', p c = true) (hys : ys.head?.any p = false) (hys' : ys'.head?.any p = false)
    (h : xs ++ ys = xs' ++ ys') : xs = xs' ∧ ys = ys' := by
  have takeWhile_run {xs ys : List Char} (hxs : ∀ c ∈ xs, p c = true)
      (hys : ys.head?.any p = false) : (xs ++ ys).takeWhile p = xs := by
    rw [List.takeWhile_append_of_pos hxs]
    cases ys with
    | nil => simp
    | cons y ys => rw [List.takeWhile_cons_of_neg (by simpa using hys), List.append_nil]
  have heq : xs = xs' := by
    rw [← takeWhile_run hxs hys, h, takeWhile_run hxs' hys']
  exact ⟨heq, List.append_cancel_left (heq ▸ h)⟩

/-- Induction over the words of a text: what holds of the empty text, and of a text if it holds of
what follows its first character, where that is white space, or else its first word, holds of every
text. -/
theorem words_induction {motive : List Char → Prop} (nil : motive [])
    (space : ∀ c cs, Text.isSpace c = true → motive cs → motive (c :: cs))
    (word : ∀ word rest, word ≠ [] → (∀ c ∈ word, Text.isSpace c = false) →
      (∀ c ∈ rest.head?, Text.isSpace c = true) → motive rest → motive (word ++ rest))
    (cs : List Char) : motive cs := by
  induction hn : cs.length using Nat.strongRecOn generalizing cs with
  | ind n ih =>
    subst hn
    cases cs with
    | nil => exact nil
    | cons c cs =>
      by_cases hc : Text.isSpace c = true
      · exact space c cs hc (ih _ (Nat.lt_succ_self _) cs rfl)
      · have hfirst : (fun d => !Text.isSpace d) c = true := by simpa using hc
        rw [← List.takeWhile_append_dropWhile (p := fun d => !Text.isSpace d) (l := c :: cs)]
        refine word _ _ ?_ (fun d hd => ?_) (fun d hd => ?_) (ih _ ?_ _ rfl)
        · rw [List.takeWhile_cons_of_pos (p := fun d => !Text.isSpace d) hfirst]
          exact List.cons_ne_nil _ _
        · simpa using List.mem_takeWhile_imp hd
        · have hnot := List.head?_dropWhile_not (fun d => !Text.isSpace d) (c :: cs)
          rw [Option.mem_def.mp hd] at hnot
          simpa using hnot
        · rw [List.dropWhile_cons_of_pos (p := fun d => !Text.isSpace d) hfirst]
          exact Nat.lt_succ_of_le (List.dropWhile_suffix _).length_le

/-- The words of a lexeme that ends at a sealed place are laid out if the tokens behind it are. -/
theorem laidOut_wordTokens {text cs after : List Char} {low index : Nat} {ts : List Token}
    (hle : low ≤ index) (hindex : index + cs.length ≤ text.length)
    (hcs : text.drop index = cs ++ after) (hgap : IsGap (slice text low index))
    (hsealed : ((Cursor.start text).advance (index + cs.length)).Sealed)
    (hts : ∀ low' ≤ index + cs.length, IsGap (slice text low' (index + cs.length)) →
      LaidOut text low' ts) :
    LaidOut text low (wordTokens index cs ++ ts) := by
  induction cs using words_induction generalizing low index with
  | nil => exact hts low hle hgap
  | space c cs hc ih =>
    have hnext : text.drop (index + 1) = cs ++ after := @drop_of_drop _ [c] _ _ hcs
    have hend : index + (c :: cs).length = index + 1 + cs.length := by
      rw [List.length_cons]
      omega
    rw [hend] at hindex hsealed hts
    rw [wordTokens_space index hc]
    refine ih (by omega) hindex hnext ?_ hsealed hts
    rw [slice_append hle (Nat.le_succ index)]
    refine hgap.append (isGap_of_isSpace ?_)
    have hfirst : slice text index (index + 1) = [c] := @slice_of_drop _ [c] _ _ hcs
    simpa [hfirst] using hc
  | word word rest hne hword hrest ih =>
    have hpos := List.length_pos_iff.mpr hne
    rw [List.append_assoc] at hcs
    rw [List.length_append, ← Nat.add_assoc] at hindex hsealed hts
    rw [wordTokens_append hne hword hrest]
    refine ⟨?_, ?_⟩
    · exact
        { low_le := hle
          start_lt := Nat.lt_add_of_pos_right hpos
          stop_le := by
            dsimp only
            omega
          gap := hgap
          value := fun _ => by
            rw [String.toList_ofList]
            exact slice_of_drop hcs
          sealed := fun _ => by
            cases rest with
            | nil => exact hsealed
            | cons d ds => exact sealed_of_space (drop_of_drop hcs) (hrest d rfl) }
    · refine ih (Nat.le_refl _) hindex (drop_of_drop hcs) ?_ hsealed hts
      rw [slice_self]
      exact isGap_of_isSpace (by simp)

/-! ## Lexemes that are skipped -/

/-- If the rule yields skipped lexemes then these are gaps. -/
def LexicalRule.SkipsGaps (rule : LexicalRule) : Prop :=
  ∀ cs, (rule.kind cs).isSkipped = true →
    ∀ s xs t, Pattern.Ends rule.pattern s t → Pattern.Consumes s xs t → IsGap xs

/-- A rule of a kind that is kept skips no gap. -/
theorem skipsGaps_always {kind : LexemeKind} (h : kind.isSkipped = false) (p : Pattern) :
    (always kind p).SkipsGaps := by
  intro cs hk
  exact absurd hk (by simp [always, h])

/-- A line comment begins with two hyphens or a hash, which belong to no word. -/
theorem isGap_of_lineComment {p : Pattern} {s t : Cursor} {xs : List Char}
    (h : Pattern.Ends (lineCommentStart ++ p) s t) (hxs : Pattern.Consumes s xs t) :
    IsGap xs := by
  obtain ⟨m, hstart, hp⟩ := h
  obtain ⟨ys, hys⟩ := hp.exists_consumes
  rcases hstart with hstart | hstart
  · have hmarks := Pattern.consumes_of_ends_text (by decide) hstart
    rw [hxs.unique (hmarks.append hys)]
    exact isGap_cons (c := '-') (by decide) (by decide) _
  · have hmarks := Pattern.consumes_of_ends_text (by decide) hstart
    rw [hxs.unique (hmarks.append hys)]
    exact isGap_cons (c := '#') (by decide) (by decide) _

/-- What a line break covers is a gap. -/
theorem isGap_of_lineBreak {s t : Cursor} {xs : List Char} (h : Pattern.Ends lineBreak s t)
    (hxs : Pattern.Consumes s xs t) : IsGap xs := by
  rcases h with h | h | h
  all_goals
    have hmarks := Pattern.consumes_of_ends_text (by decide) h
    rw [hxs.unique hmarks]
    exact isGap_of_isSpace (by decide)

/-- The rules skip nothing but gaps. -/
theorem skipsGaps_rules : ∀ rule ∈ rules, rule.SkipsGaps := by
  unfold rules
  simp only [List.forall_mem_cons]
  repeat' first
    | apply And.intro
    | exact skipsGaps_always rfl _
  · rintro - - s xs t ⟨m, ⟨l, hstart, hplus⟩, hrest⟩ hxs
    have hcomment : Pattern.Ends (lineCommentStart ++ (Pattern.letter '+' ++ restOfLine)) s t :=
      ⟨l, hstart, m, hplus, hrest⟩
    exact isGap_of_lineComment hcomment hxs
  · exact fun _ _ _ _ _ h hxs => isGap_of_lineComment h hxs
  · exact fun _ _ _ _ _ h hxs => isGap_of_lineBreak h hxs
  · rintro - - s xs t h hxs
    obtain ⟨c, hc, hone⟩ := Pattern.takes_iff.mp h
    rw [hxs.unique hone]
    exact isGap_of_isSpace (by simpa using hc)
  · intro cs hk
    change (wordKind cs).isSkipped = true at hk
    rcases wordKind_cases cs with hkind | hkind | hkind <;> rw [hkind] at hk <;> cases hk
  · exact fun _ h => absurd h List.not_mem_nil

/-- A lexeme that is skipped is a gap. -/
theorem isGap_of_isSkipped {s : Cursor} (h : (lexeme s).1.isSkipped = true) :
    IsGap (s.rest.take (lexeme s).2) := by
  rcases lexeme_cases s with hkind | hkind | ⟨-, hcomment⟩ | ⟨rule, hrule, n, hn, hlexeme⟩
  · rw [hkind] at h
    cases h
  · rw [hkind] at h
    cases h
  · obtain ⟨cs, hcs⟩ := List.head?_eq_some_iff.mp (blockComment?_eq_some hcomment).2.1
    obtain ⟨m, hm⟩ := Nat.exists_eq_succ_of_ne_zero (lexeme_pos s).ne'
    rw [hcs, hm, List.take_succ_cons]
    exact isGap_cons (by decide) (by decide) _
  · rw [hlexeme] at h ⊢
    obtain ⟨hends, hle⟩ := Pattern.ends_of_length? hn
    exact skipsGaps_rules rule hrule _ h _ _ _ hends (Pattern.consumes_advance hle)

/-! ## The tokens of a text -/

/-- The tokens from a place of a text on are laid out in the text. -/
theorem laidOut_tokensFrom {text : List Char} {low index : Nat} (hle : low ≤ index)
    (hindex : index ≤ text.length) (hgap : IsGap (slice text low index)) :
    LaidOut text low (tokensFrom index (lexemesAt ((Cursor.start text).advance index))) := by
  induction hn : text.length - index using Nat.strongRecOn generalizing low index with
  | ind n ih =>
    let s := (Cursor.start text).advance index
    have hrest : s.rest = text.drop index := Cursor.advance_rest index _
    by_cases hs : s.rest = []
    · rw [lexemesAt, hs]
      trivial
    · let cs := s.rest.take (lexeme s).2
      have hsplit : text.drop index = cs ++ s.rest.drop (lexeme s).2 := by
        rw [← hrest, List.take_append_drop]
      have hpos : 0 < cs.length := by
        rw [List.length_take]
        have := lexeme_pos s
        have := List.length_pos_iff.mpr hs
        omega
      have hlength := congrArg List.length hsplit
      rw [List.length_drop, List.length_append] at hlength
      have hnext : s.advance (lexeme s).2 = (Cursor.start text).advance (index + cs.length) := by
        rw [advance_lexeme, Cursor.advance_advance]
      have hslice : slice text index (index + cs.length) = cs := slice_of_drop hsplit
      have hafter {low' : Nat} (hle' : low' ≤ index + cs.length)
          (hgap' : IsGap (slice text low' (index + cs.length))) :=
        ih (text.length - (index + cs.length)) (by omega) hle' (by omega) hgap' rfl
      have hempty : IsGap (slice text (index + cs.length) (index + cs.length)) := by
        rw [slice_self]
        exact isGap_of_isSpace (by simp)
      rw [lexemesAt_cons hs, hnext, tokensFrom]
      change LaidOut text low (Lexeme.tokens index ⟨(lexeme s).1, cs⟩ ++
        tokensFrom (index + cs.length) _)
      have whole {t : Token} (hkind : t.kind ≠ .word) (hstart : t.start = index)
          (hstop : t.stop = index + cs.length) : StandsIn text low t :=
        { low_le := by omega
          start_lt := by omega
          stop_le := by omega
          gap := hstart ▸ hgap
          value := fun hword => absurd hword hkind
          sealed := fun hword => absurd hword hkind }
      rcases Lexeme.tokens_cases index ⟨(lexeme s).1, cs⟩ with
        ⟨hskipped, h⟩ | ⟨kind, hkind, -, h⟩ | ⟨opening, closing, -, -, -, h⟩ | ⟨hword, h⟩
      · rw [h, List.nil_append]
        refine hafter (by omega) ?_
        rw [slice_append hle (Nat.le_add_right index _), hslice]
        exact hgap.append (isGap_of_isSkipped hskipped)
      · rw [h, List.singleton_append]
        exact ⟨whole hkind rfl rfl, hafter (Nat.le_refl _) hempty⟩
      · rw [h, List.singleton_append]
        exact ⟨whole (by simp) rfl rfl, hafter (Nat.le_refl _) hempty⟩
      · rw [h]
        have hend : index + cs.length ≤ text.length := by omega
        exact laidOut_wordTokens hle hend hsplit hgap (hnext ▸ sealed_of_isWordLike hword)
          fun low' => hafter

/-- The tokens of a text are laid out in it. -/
theorem laidOut_tokenize (sql : String) : LaidOut sql.toList 0 (tokenize sql) :=
  laidOut_tokensFrom (Nat.le_refl 0) (Nat.zero_le _) (by rw [slice_self]; rfl)

end EntityMapper.Sql
