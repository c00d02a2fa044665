import EntityMapper.Proofs.Sql.FirstWords
import EntityMapper.Proofs.Sql.Known

/-!
# Fronts with the same tokens in two texts

A front is steady if its tokens are the same in the text that it stands in and in every text that
goes on behind it with a given beginning. What a front settles by itself is steady, so only what
stands behind the last mark between items is left to look at.
-/

namespace EntityMapper.Sql

open Text

/-! ## Words that are read at a place -/

/-- Whether a word that stands in front of the given text is read as one, where the kind and length
of the lexeme are given. -/
def isReadAsWord (word rest : List Char) (found : LexemeKind × Nat) : Bool :=
  !word.isEmpty && !rest.head?.any isWord && found.1.isWordLike &&
    (found.2 == word.length ||
      (word.head?.any isLetter && !isOneOf specialWords word && isUnmarked (word ++ rest)))

/-- A word that a text begins with is read as one if its lexeme passes the check. -/
theorem readsWord_of_isReadAsWord [DelimiterForm] {before : Option Char} {front rest : List Char}
    (h : isReadAsWord (front.takeWhile isWord) (front.dropWhile isWord ++ rest)
      (lexeme ⟨before, front ++ rest⟩) = true) :
    ReadsWord before (front.takeWhile isWord) (front.dropWhile isWord ++ rest) := by
  have hword : ∀ c ∈ front.takeWhile isWord, isWord c = true := fun c hc =>
    List.mem_takeWhile_imp hc
  have hsplit : front.takeWhile isWord ++ (front.dropWhile isWord ++ rest) = front ++ rest := by
    rw [← List.append_assoc, List.takeWhile_append_dropWhile]
  rw [← hsplit] at h
  simp only [isReadAsWord, Bool.and_eq_true, Bool.or_eq_true, Bool.not_eq_true', beq_iff_eq,
    List.isEmpty_eq_false_iff] at h
  obtain ⟨⟨⟨hne, hnext⟩, hkind⟩, halone⟩ := h
  exact ⟨hne, hword, hnext, hkind, halone.imp id fun h => ⟨h.1.1, h.1.2, h.2⟩⟩

/-- What a text goes on with does not matter behind a mark. -/
theorem isUnmarked_extend {cs : List Char} (hmark : ∃ c ∈ cs, isSpace c = false ∧ isWord c = false)
    (more : List Char) : isUnmarked (cs ++ more) = isUnmarked cs := by
  have hrest : cs.dropWhile (fun c => isSpace c || isWord c) ≠ [] := by
    rw [Ne, List.dropWhile_eq_nil_iff]
    obtain ⟨c, hc, hspace, hword⟩ := hmark
    intro hall
    have hboth := hall c hc
    simp [hspace, hword] at hboth
  rw [isUnmarked, isUnmarked, List.dropWhile_append, List.isEmpty_eq_false_iff.mpr hrest]
  obtain ⟨d, ds, hd⟩ := List.exists_cons_of_ne_nil hrest
  rw [hd]
  rfl

/-- The check stays passed in a longer text if a mark ends all words of the shorter one. -/
theorem isReadAsWord_extend {word rest : List Char} {found : LexemeKind × Nat}
    (hmark : ∃ c ∈ rest, isSpace c = false ∧ isWord c = false)
    (h : isReadAsWord word rest found = true) (more : List Char) :
    isReadAsWord word (rest ++ more) found = true := by
  have hhead : (rest ++ more).head? = rest.head? := by
    obtain ⟨c, hc, -⟩ := hmark
    cases rest with
    | nil => cases hc
    | cons d ds => rfl
  have hunmarked : isUnmarked (word ++ (rest ++ more)) = isUnmarked (word ++ rest) := by
    rw [← List.append_assoc, isUnmarked_extend]
    obtain ⟨c, hc, hboth⟩ := hmark
    exact ⟨c, List.mem_append_right word hc, hboth⟩
  rwa [isReadAsWord, hhead, hunmarked]

/-! ## Tokens in front of a place -/

/-- Two texts with the same front have the same tokens in it, and then those from the place behind
it. -/
def SharesTokens [DelimiterForm] (before : Option Char) (front rest rest' : List Char) : Prop :=
  ∀ index, ∃ ts : List Token, Spanned index (index + front.length) ts ∧
    ∀ more ∈ [rest, rest'], tokensAt index ⟨before, front ++ more⟩ =
      ts ++ tokensAt (index + front.length) ⟨front.getLast?.or before, more⟩

namespace SharesTokens

variable {before : Option Char} {xs ys rest rest' : List Char}

/-- The empty text shares its tokens in front of all texts. -/
theorem nil [DelimiterForm] : SharesTokens before [] rest rest' := fun index =>
  ⟨[], Nat.le_refl index, fun _ _ => rfl⟩

/-- Texts that share their tokens one behind the other share them together. -/
theorem append [DelimiterForm] (h : SharesTokens before xs (ys ++ rest) (ys ++ rest'))
    (hys : SharesTokens (xs.getLast?.or before) ys rest rest') :
    SharesTokens before (xs ++ ys) rest rest' := by
  intro index
  obtain ⟨ts, hts, hfirst⟩ := h index
  obtain ⟨us, hus, hsecond⟩ := hys (index + xs.length)
  refine ⟨ts ++ us, ?_, fun more hmore => ?_⟩
  · rw [List.length_append, ← Nat.add_assoc]
    exact hts.append hus
  · have hmember : ys ++ more ∈ [ys ++ rest, ys ++ rest'] := List.mem_map_of_mem hmore
    rw [List.append_assoc, hfirst _ hmember, hsecond _ hmore, List.append_assoc,
      List.length_append, Nat.add_assoc, List.getLast?_append, Option.or_assoc]

/-- A white space shares its tokens in front of all texts. -/
theorem space [DelimiterForm] {c : Char} (hc : isSpace c = true) :
    SharesTokens before [c] rest rest' := fun index =>
  ⟨[], Nat.le_succ index, fun more _ => tokensAt_space hc index before more⟩

/-- A lexeme in front of both texts shares its tokens. -/
theorem lexeme [DelimiterForm] {kind : LexemeKind} (hne : xs ≠ [])
    (h : Sql.lexeme ⟨before, xs ++ rest⟩ = (kind, xs.length))
    (h' : Sql.lexeme ⟨before, xs ++ rest'⟩ = (kind, xs.length)) :
    SharesTokens before xs rest rest' := by
  intro index
  refine ⟨Lexeme.tokens index ⟨kind, xs⟩, spanned_tokens index (l := ⟨kind, xs⟩) hne, ?_⟩
  rw [List.forall_mem_cons, List.forall_mem_singleton]
  exact ⟨tokensAt_append hne h index, tokensAt_append hne h' index⟩

/-- A word that is read in front of both texts shares its tokens. -/
theorem word [DelimiterForm] (h : ReadsWord before xs rest) (h' : ReadsWord before xs rest') :
    SharesTokens before xs rest rest' := by
  intro index
  refine ⟨[⟨.word, String.ofList xs, index, index + xs.length⟩], ?_, ?_⟩
  · have hpos := List.length_pos_iff.mpr h.ne_nil
    exact ⟨Nat.le_refl _, Nat.lt_add_of_pos_right hpos, Nat.le_refl _⟩
  · rw [List.forall_mem_cons, List.forall_mem_singleton]
    exact ⟨h.splitsAt index, h'.splitsAt index⟩

/-- A front shares its tokens if both texts begin with the same lexeme inside it and share the
tokens behind this lexeme. -/
theorem of_lexeme [DelimiterForm] {kind : LexemeKind} {n : Nat} {front : List Char}
    (hle : n ≤ front.length) (h : Sql.lexeme ⟨before, front ++ rest⟩ = (kind, n))
    (h' : Sql.lexeme ⟨before, front ++ rest'⟩ = (kind, n))
    (hbehind : SharesTokens (Cursor.advance n ⟨before, front⟩).before
      (Cursor.advance n ⟨before, front⟩).rest rest rest') :
    SharesTokens before front rest rest' := by
  obtain ⟨xs, ys, rfl, rfl⟩ : ∃ xs ys, front = xs ++ ys ∧ xs.length = n :=
    ⟨_, _, (List.take_append_drop n front).symm, by rw [List.length_take, Nat.min_eq_left hle]⟩
  rw [List.append_assoc] at h h'
  rw [Cursor.advance_append] at hbehind
  have hne : xs ≠ [] := by
    rintro rfl
    have hpos := lexeme_pos ⟨before, [] ++ (ys ++ rest)⟩
    rw [h] at hpos
    exact absurd hpos (Nat.lt_irrefl 0)
  exact .append (.lexeme hne h h') hbehind

/-- A front shares its tokens if both texts begin with the same word and share the tokens behind
it. -/
theorem of_word [DelimiterForm] {front : List Char}
    (h : ReadsWord before (front.takeWhile isWord) (front.dropWhile isWord ++ rest))
    (h' : ReadsWord before (front.takeWhile isWord) (front.dropWhile isWord ++ rest'))
    (hbehind : SharesTokens
      (Cursor.advance (front.takeWhile isWord).length ⟨before, front⟩).before
      (Cursor.advance (front.takeWhile isWord).length ⟨before, front⟩).rest rest rest') :
    SharesTokens before front rest rest' := by
  have hsplit := List.takeWhile_append_dropWhile (p := isWord) (l := front)
  have hadvance := Cursor.advance_append before (front.takeWhile isWord) (front.dropWhile isWord)
  rw [hsplit] at hadvance
  rw [hadvance] at hbehind
  have hshared := append (word h h') hbehind
  rwa [hsplit] at hshared

end SharesTokens

/-! ## Steady fronts -/

/-- Whether the tokens of a text in the front that is given by a place are those of every text that
has the front and goes on behind it as given: the lexemes of the latter text are settled by the
front and the given beginning of what stands behind it, and each of them is a lexeme of the former
text too or is read as a word in both. The number bounds the lexemes. -/
def steadyFrom [DelimiterForm] (rest look : List Char) : Nat → Cursor → Bool
  | 0, s => s.rest.isEmpty
  | fuel + 1, s =>
    match s.rest with
    | [] => true
    | c :: cs =>
      if isSpace c then steadyFrom rest look fuel ⟨some c, cs⟩
      else
        match settled? ⟨s.before, (c :: cs) ++ look⟩ with
        | none => false
        | some (kind, n) =>
          let word := (c :: cs).takeWhile isWord
          let behind := (c :: cs).dropWhile isWord
          if n ≤ (c :: cs).length && lexeme ⟨s.before, (c :: cs) ++ rest⟩ == (kind, n) then
            steadyFrom rest look fuel (s.advance n)
          else
            isReadAsWord word (behind ++ look) (kind, n) &&
              isReadAsWord word (behind ++ rest) (lexeme ⟨s.before, (c :: cs) ++ rest⟩) &&
              steadyFrom rest look fuel (s.advance word.length)

/-- Whether the tokens in front of a place do not hang on whether the text goes on as given or as
another text that begins as given. -/
def isSteady [DelimiterForm] (front rest look : List Char) : Bool :=
  steadyFrom rest look front.length (Cursor.start front)

/-- A text shares the tokens of a steady front with the texts that go on behind it as given. -/
theorem sharesTokens_of_steadyFrom [DelimiterForm] {rest look : List Char}
    (hlook : ∃ c ∈ look, isSpace c = false ∧ isWord c = false) {fuel : Nat}
    {before : Option Char} {front : List Char}
    (h : steadyFrom rest look fuel ⟨before, front⟩ = true) (more : List Char) :
    SharesTokens before front rest (look ++ more) := by
  induction fuel generalizing before front with
  | zero =>
    rw [steadyFrom, List.isEmpty_iff] at h
    subst h
    exact .nil
  | succ fuel ih =>
    rw [steadyFrom] at h
    split at h
    · rename_i hnil
      subst hnil
      exact .nil
    · rename_i c cs hcons
      dsimp only at hcons h
      subst hcons
      split at h
      · rename_i hspace
        exact @SharesTokens.append before [c] cs rest (look ++ more) _ (.space hspace) (ih h)
      · split at h
        · cases h
        · rename_i kind n hsettled
          have hread := lexeme_of_settled hsettled more
          rw [List.append_assoc] at hread
          split at h
          · rename_i hsame
            rw [Bool.and_eq_true, decide_eq_true_eq, beq_iff_eq] at hsame
            exact .of_lexeme hsame.1 hsame.2 hread (ih h)
          · rw [Bool.and_eq_true, Bool.and_eq_true] at h
            obtain ⟨⟨hword, hword'⟩, hbehind⟩ := h
            have hmark : ∃ d ∈ (c :: cs).dropWhile isWord ++ look,
                isSpace d = false ∧ isWord d = false := by
              obtain ⟨d, hd, hboth⟩ := hlook
              exact ⟨d, List.mem_append_right _ hd, hboth⟩
            have hextend := isReadAsWord_extend hmark hword more
            rw [List.append_assoc, ← hread] at hextend
            exact .of_word (readsWord_of_isReadAsWord hword') (readsWord_of_isReadAsWord hextend)
              (ih hbehind)

example : isSteady "$x$ $X$ $x$ ".toList "'y'".toList ['\x27'] = true := by
  decide +kernel

example : @isSteady .anyCase "$x$ $X$ $x$ ".toList "'y'".toList ['\x27'] = false := by
  decide +kernel

/-! ## Fronts that are steady -/

section

variable [DelimiterForm] {rest look : List Char}

/-- A larger bound on the lexemes does no harm. -/
theorem steadyFrom_mono {fuel fuel' : Nat} (hle : fuel ≤ fuel') {s : Cursor}
    (h : steadyFrom rest look fuel s = true) : steadyFrom rest look fuel' s = true := by
  induction fuel generalizing fuel' s with
  | zero =>
    rw [steadyFrom, List.isEmpty_iff] at h
    cases fuel' <;> simp [steadyFrom, h]
  | succ fuel ih =>
    obtain ⟨fuel', rfl⟩ : ∃ m, fuel' = m + 1 := ⟨fuel' - 1, by omega⟩
    have hstep {s : Cursor} : steadyFrom rest look fuel s = true →
        steadyFrom rest look fuel' s = true := ih (Nat.le_of_succ_le_succ hle)
    rw [steadyFrom] at h ⊢
    split
    · rfl
    · rename_i c cs hs
      simp only [hs] at h
      split
      · rename_i hspace
        rw [if_pos hspace] at h
        exact hstep h
      · rename_i hspace
        rw [if_neg hspace] at h
        split
        · rename_i hopen
          simp only [hopen] at h
          cases h
        · rename_i kind n hsettled
          simp only [hsettled] at h
          split
          · rename_i hsame
            rw [if_pos hsame] at h
            exact hstep h
          · rename_i hother
            rw [if_neg hother] at h
            simp only [Bool.and_eq_true] at h ⊢
            exact ⟨h.1, hstep h.2⟩

/-- A lexeme that begins with white space holds nothing else. -/
theorem isSpace_of_lexeme {before : Option Char} {c : Char} {cs more : List Char}
    {kind : LexemeKind} (hc : isSpace c = true)
    (h : lexeme ⟨before, c :: cs ++ more⟩ = (kind, (c :: cs).length)) :
    ∀ d ∈ c :: cs, isSpace d = true := by
  rw [List.forall_mem_cons]
  refine ⟨hc, ?_⟩
  rw [List.cons_append] at h
  obtain ⟨kind', -, hone | ⟨-, others, hothers, htwo⟩⟩ := lexeme_of_isSpace hc (cs ++ more)
  · rw [hone before] at h
    obtain rfl : cs = [] :=
      List.eq_nil_of_length_eq_zero (Nat.succ.inj (congrArg Prod.snd h)).symm
    nofun
  · rw [htwo before] at h
    obtain ⟨d, rfl⟩ := List.length_eq_one_iff.mp (Nat.succ.inj (congrArg Prod.snd h)).symm
    rw [List.forall_mem_singleton, (List.cons_eq_cons.mp hothers).1]
    decide

/-- White space in front of a steady text is steady with it. -/
theorem steadyFrom_append_space {blank : List Char} (h : ∀ c ∈ blank, isSpace c = true)
    {before : Option Char} {ys : List Char}
    (hys : steadyFrom rest look ys.length ⟨blank.getLast?.or before, ys⟩ = true) :
    steadyFrom rest look (blank ++ ys).length ⟨before, blank ++ ys⟩ = true := by
  induction blank generalizing before with
  | nil => exact hys
  | cons c cs ih =>
    rw [List.forall_mem_cons] at h
    rw [List.cons_append, List.length_cons, steadyFrom]
    dsimp only
    rw [if_pos h.1]
    refine ih h.2 ?_
    rwa [← List.singleton_append, List.getLast?_append, List.getLast?_singleton,
      Option.or_assoc] at hys

/-- Steadiness behind a front that is known by itself is steadiness from the front on. -/
theorem steadyFrom_of_known {before : Option Char} {xs ys : List Char} {ls : List Lexeme}
    (h : Known [] before xs ls)
    (hys : steadyFrom rest look ys.length ⟨xs.getLast?.or before, ys⟩ = true) :
    steadyFrom rest look (xs ++ ys).length ⟨before, xs ++ ys⟩ = true := by
  induction h with
  | nil => exact hys
  | @next before xs zs kind ls hsettled _ ih =>
    rw [List.append_nil] at hsettled
    rw [List.getLast?_append, Option.or_assoc] at hys
    have hsteady := ih hys
    have hlexeme := lexeme_of_settled hsettled (ys ++ rest)
    have hextend := settled?_extend hsettled (ys ++ look)
    obtain ⟨c, cs, rfl⟩ := List.exists_cons_of_ne_nil
      (List.length_pos_iff.mp (settled?_pos hsettled))
    rw [List.append_assoc] at hlexeme hextend ⊢
    by_cases hspace : isSpace c = true
    · exact steadyFrom_append_space (isSpace_of_lexeme hspace hlexeme) hsteady
    · have hroom : (c :: cs).length ≤ (c :: (cs ++ (zs ++ ys))).length := by simp
      have hrest : (c :: (cs ++ (zs ++ ys))) ++ rest = c :: cs ++ (zs ++ (ys ++ rest)) := by simp
      have hlook : (c :: (cs ++ (zs ++ ys))) ++ look = c :: cs ++ (zs ++ (ys ++ look)) := by simp
      rw [List.cons_append, List.length_cons, steadyFrom]
      dsimp only
      rw [if_neg hspace, hlook, hextend, hrest, hlexeme]
      dsimp only
      rw [if_pos (by rw [beq_self_eq_true, Bool.and_true]; exact decide_eq_true hroom),
        ← List.cons_append, Cursor.advance_append]
      exact steadyFrom_mono (by simp) hsteady

/-- What a front settles by itself is steady, so only what stands behind it is left to look at. -/
theorem isSteady_append {xs ys : List Char} {ls : List Lexeme} (h : Known [] none xs ls)
    (hys : steadyFrom rest look ys.length ⟨xs.getLast?, ys⟩ = true) :
    isSteady (xs ++ ys) rest look = true := by
  refine steadyFrom_of_known h ?_
  rwa [Option.or_none]

/-- A front of letters, digits, underscores and white space is steady whatever the text goes on with
if a mark between items stands behind the last word. -/
theorem isSteady_of_plain {m : Char} (hm : m ∈ itemMarks) {xs blank : List Char}
    (hxs : ∀ c ∈ xs, c ∈ plainChars) (hblank : ∀ c ∈ blank, isSpace c = true) :
    isSteady (xs ++ [m] ++ blank) rest look = true := by
  obtain ⟨ls, hls⟩ := exists_known_of_plain hm hxs none
  refine isSteady_append hls ?_
  rw [← List.append_nil blank]
  exact steadyFrom_append_space hblank rfl

end

end EntityMapper.Sql
