import EntityMapper.Proofs.Sql.Edits
import EntityMapper.Proofs.Sql.Quoted

/-!
# Text inside string literals

A literal in single quotes is one token whatever is written in it, so another text in it leaves the
table that is read the same.
-/

namespace EntityMapper.Sql

open Pattern Schema Text

/-! ## The lexeme of a literal -/

/-- A text between single quotes. -/
def inQuotes (body : List Char) : List Char :=
  '\x27' :: (body ++ ['\x27'])

/-- Whether a text holds neither quotes nor backslashes. -/
def isPlainBody (body : List Char) : Bool :=
  body.all fun c => c != '\x27' && c != '\\'

theorem sameLetter_mark {q : Char} (hq : q ∈ ['\x27', '\\']) (c : Char) :
    sameLetter q c = (q == c) := by
  have hmarks : ∀ q ∈ ['\x27', '\\'], q.toNat < 128 ∧ q.isAlpha = false := by decide
  obtain ⟨hascii, halpha⟩ := hmarks q hq
  exact sameLetter_of_not_alpha hascii halpha c

/-- What a literal holds between its quotes. -/
private def insideQuotes : Pattern :=
  (letter '\x27' ++ letter '\x27') <|> (letter '\\' ++ letter '\x27') <|> one (· != '\x27')

/-- The rule of literals is the only one for lexemes of their kind. -/
theorem pattern_of_string : ∀ rule ∈ rules, ∀ cs, rule.kind cs = .string →
    rule.pattern = escapedQuotes '\x27' := by
  unfold rules
  simp only [List.forall_mem_cons]
  repeat' first
    | apply And.intro
    | (intro _ h; cases h; done)
    | exact fun _ _ => rfl
  intro cs h
  change wordKind cs = .string at h
  rcases wordKind_cases cs with hkind | hkind | hkind <;> rw [hkind] at h <;> cases h

/-- A quote behind a literal does not begin another one: both would be one literal. -/
theorem not_ends_of_lexeme [DelimiterForm] {before : Option Char} {body rest : List Char}
    (h : lexeme ⟨before, inQuotes body ++ rest⟩ = (.string, (inQuotes body).length))
    {u : Cursor} : ¬ Ends (escapedQuotes '\x27') ⟨some '\x27', rest⟩ u := by
  rintro ⟨m, ⟨l, hl, hm⟩, hu⟩
  have htext : inQuotes body ++ rest = '\x27' :: (body ++ '\x27' :: rest) := by simp [inQuotes]
  obtain ⟨rule, hrule, n, hn, hlexeme⟩ : ∃ rule ∈ rules, ∃ n,
      rule.pattern.length? ⟨before, inQuotes body ++ rest⟩ = some n ∧
        lexeme ⟨before, inQuotes body ++ rest⟩ =
          (rule.kind ((inQuotes body ++ rest).take n), n) := by
    rcases lexeme_cases ⟨before, inQuotes body ++ rest⟩ with hkind | hkind | ⟨hkind, -⟩ | hfound
    · rw [h] at hkind
      cases hkind
    · rw [h] at hkind
      cases hkind
    · rw [h] at hkind
      rcases hkind with hkind | hkind <;> cases hkind
    · exact hfound
  rw [h] at hlexeme
  obtain ⟨hkind, rfl⟩ := Prod.mk.injEq .. ▸ hlexeme
  rw [pattern_of_string rule hrule _ hkind.symm, length?, htext] at hn
  change (letter '\x27').run ⟨before, '\x27' :: (body ++ '\x27' :: rest)⟩
    (fun t => rounds .greedy (run insideQuotes) (fun t => (letter '\x27').run t fun t =>
      some (('\x27' :: (body ++ '\x27' :: rest)).length - t.rest.length)) t.rest.length t) = _ at hn
  rw [run_letter_self (sameLetter_mark (by simp))] at hn
  obtain ⟨last, hlast, hclosed, hfurther⟩ := exists_last_round (Ends insideQuotes)
    (fun _ _ _ hs => run_sound hs) (fun _ _ _ ht hk => run_complete ht hk) (Nat.le_refl _) hn
  obtain ⟨t, ⟨c, hc, hlastRest, -⟩, hlength⟩ := run_sound hclosed
  have hreach := (Ends.reaches (p := repeated .greedy insideQuotes) hlast).eq_advance.1
  have hplace : last.rest = '\x27' :: rest := by
    have hleft : last.rest.length = rest.length + 1 := by
      have htotal := Option.some.inj hlength
      have hshorter : t.rest.length ≤ body.length + rest.length + 1 := by
        have hle := (Ends.reaches (p := repeated .greedy insideQuotes) hlast).eq_advance.2
        rw [hlastRest] at hle
        simp only [List.length_append, List.length_cons] at hle
        omega
      simp only [inQuotes, List.length_append, List.length_cons, List.length_nil] at htotal
      rw [hlastRest, List.length_cons]
      omega
    rw [hreach, Cursor.advance_rest, hleft]
    simp only [List.length_append, List.length_cons, Nat.add_sub_cancel, List.drop_left]
  have hround : Round (Ends insideQuotes) last l := by
    obtain ⟨lastBefore, lastRest⟩ := last
    obtain rfl : lastRest = '\x27' :: rest := hplace
    refine ⟨.inl ⟨⟨some '\x27', rest⟩, takes_cons.mpr ⟨by simp [sameLetter_mark], rfl⟩, hl⟩, ?_⟩
    have hshorter := hl.reaches.eq_advance.2
    exact Nat.lt_succ_of_le hshorter
  have hnone := hfurther l m hround hm
  have hsome := run_complete (k := fun t : Cursor =>
    some (('\x27' :: (body ++ '\x27' :: rest)).length - t.rest.length)) hu rfl
  rw [hnone] at hsome
  cases hsome

variable {α : Type}

/-- A character that is neither a quote nor a backslash is taken as it is. -/
private theorem run_insideQuotes {c : Char} (hc : (c != '\x27' && c != '\\') = true)
    (before : Option Char) (rest : List Char) (k : Cursor → Option α) :
    insideQuotes.run ⟨before, c :: rest⟩ k = k ⟨some c, rest⟩ := by
  rw [Bool.and_eq_true, bne_iff_ne, bne_iff_ne] at hc
  have hquote : (letter '\x27' ++ letter '\x27').run ⟨before, c :: rest⟩ k = none := by
    change (if sameLetter '\x27' c = true then _ else none) = none
    rw [if_neg (by simpa [sameLetter_mark] using hc.1.symm)]
  have hslash : (letter '\\' ++ letter '\x27').run ⟨before, c :: rest⟩ k = none := by
    change (if sameLetter '\\' c = true then _ else none) = none
    rw [if_neg (by simpa [sameLetter_mark] using hc.2.symm)]
  change ((letter '\x27' ++ letter '\x27').run ⟨before, c :: rest⟩ k <|>
    (letter '\\' ++ letter '\x27').run ⟨before, c :: rest⟩ k <|>
      if (c != '\x27') = true then k ⟨some c, rest⟩ else none) = _
  rw [hquote, hslash, if_pos (by simpa using hc.1)]
  rfl

/-- A quote that begins no literal together with what follows is not taken between quotes. -/
private theorem run_insideQuotes_end {rest : List Char} {before : Option Char}
    (hrest : ∀ u, ¬ Ends (escapedQuotes '\x27') ⟨some '\x27', rest⟩ u) {k : Cursor → Option α}
    (hk : ∀ t, (k t).isSome → ∃ u, Ends (letter '\x27') t u) (n : Nat) :
    insideQuotes.run ⟨before, '\x27' :: rest⟩ (fun t =>
      if t.rest.length < ('\x27' :: rest).length then rounds .greedy (run insideQuotes) k n t
      else none) = none := by
  by_contra hsome
  obtain ⟨a, ha⟩ := Option.ne_none_iff_exists'.mp hsome
  obtain ⟨t, ht, hfurther⟩ := run_sound ha
  split at hfurther
  · obtain ⟨v, hv, hlast⟩ := rounds_sound (Ends insideQuotes) (fun _ _ _ hs => run_sound hs)
      hfurther
    obtain ⟨u, hu⟩ := hk v (by rw [hlast]; rfl)
    rcases ht with ⟨m, hm, ht⟩ | ⟨m, hm, -⟩ | ht
    · obtain ⟨-, rfl⟩ := takes_cons.mp hm
      exact hrest u ⟨v, ⟨t, ht, hv⟩, hu⟩
    · have hslash := (takes_cons.mp hm).1
      rw [sameLetter_mark (by simp)] at hslash
      cases hslash
    · have hother := (takes_cons.mp ht).1
      simp at hother
  · cases hfurther

/-- The rounds between the quotes end at the closing quote. -/
private theorem rounds_insideQuotes {rest : List Char}
    (hrest : ∀ u, ¬ Ends (escapedQuotes '\x27') ⟨some '\x27', rest⟩ u) {k : Cursor → Option α}
    (hk : ∀ t, (k t).isSome → ∃ u, Ends (letter '\x27') t u) {a : α}
    (hend : ∀ before, k ⟨before, '\x27' :: rest⟩ = some a) {body : List Char}
    (hbody : isPlainBody body = true) {n : Nat} (hn : body.length ≤ n) (before : Option Char) :
    rounds .greedy (run insideQuotes) k n ⟨before, body ++ '\x27' :: rest⟩ = some a := by
  induction body generalizing n before with
  | nil =>
    change rounds .greedy (run insideQuotes) k n ⟨before, '\x27' :: rest⟩ = some a
    cases n with
    | zero => exact hend before
    | succ n =>
      rw [rounds]
      dsimp only
      rw [run_insideQuotes_end hrest hk]
      exact hend before
  | cons c cs ih =>
    rw [isPlainBody, List.all_cons, Bool.and_eq_true] at hbody
    obtain ⟨n, rfl⟩ : ∃ m, n = m + 1 := ⟨n - 1, by simp at hn; omega⟩
    rw [rounds]
    dsimp only
    rw [List.cons_append, run_insideQuotes hbody.1,
      if_pos (by simp only [List.length_cons]; omega), ih hbody.2 (by simp at hn; omega)]
    rfl

/-- A text between single quotes is one lexeme, whatever the text is. -/
theorem lexeme_inQuotes [DelimiterForm] (before : Option Char) {body rest : List Char}
    (hbody : isPlainBody body = true)
    (hrest : ∀ u, ¬ Ends (escapedQuotes '\x27') ⟨some '\x27', rest⟩ u) :
    lexeme ⟨before, inQuotes body ++ rest⟩ = (.string, (inQuotes body).length) := by
  have htext : inQuotes body ++ rest = '\x27' :: (body ++ '\x27' :: rest) := by simp [inQuotes]
  have hlength : (escapedQuotes '\x27').length? ⟨before, inQuotes body ++ rest⟩ =
      some (inQuotes body).length := by
    rw [length?, htext]
    change (letter '\x27').run ⟨before, '\x27' :: (body ++ '\x27' :: rest)⟩
      (fun t => rounds .greedy (run insideQuotes) (fun t => (letter '\x27').run t fun t =>
        some (('\x27' :: (body ++ '\x27' :: rest)).length - t.rest.length)) t.rest.length t) = _
    rw [run_letter_self (sameLetter_mark (by simp))]
    dsimp only
    rw [rounds_insideQuotes hrest (fun t ht => ?_) (a := (inQuotes body).length) (fun before => ?_)
      hbody]
    · simp
    · obtain ⟨a, ha⟩ := Option.isSome_iff_exists.mp ht
      obtain ⟨u, hu, -⟩ := run_sound ha
      exact ⟨u, hu⟩
    · rw [run_letter_self (sameLetter_mark (by simp)), ← htext, List.length_append,
        Nat.add_sub_cancel]
  refine lexeme_of_ruled? (c := '\x27') (by decide) (by decide) (by simp [inQuotes]) ?_
  have hrule : rules[22]? = some (always .string (escapedQuotes '\x27')) := rfl
  exact ruled?_of_first hrule (by decide) hlength

/-! ## Another text in a literal -/

/-- The exchange of the text of a literal. -/
def literalEdit (front body body' back : List Char) : Edit :=
  ⟨front, inQuotes body, inQuotes body', back⟩

variable {front body body' back : List Char}

/-- A literal in quotes is the token of the lexeme. -/
theorem tokensAt_inQuotes [DelimiterForm] {before : Option Char}
    (h : lexeme ⟨before, inQuotes body ++ back⟩ = (.string, (inQuotes body).length)) (index : Nat) :
    tokensAt index ⟨before, inQuotes body ++ back⟩ =
      [⟨.string, String.ofList (inQuotes body), index, index + (inQuotes body).length⟩] ++
        tokensAt (index + (inQuotes body).length) ⟨some '\x27', back⟩ := by
  have hlast : (inQuotes body).getLast?.or before = some '\x27' := by
    rw [inQuotes, List.getLast?_cons, List.getLast?_concat]
    rfl
  have htokens :=
    @tokensAt_append _ before (inQuotes body) back .string (List.cons_ne_nil _ _) h index
  rw [hlast] at htokens
  exact htokens

/-- Neither quotes nor keywords go across the ends of a literal. -/
theorem isEnclosed_literalEdit (front body body' back : List Char) :
    (literalEdit front body body' back).IsEnclosed := by
  have hquote : ∀ keyword ∈ JavaType.keywords, '\x27' ∉ keyword.toList := by decide
  have hliteral : ∀ keyword ∈ JavaType.keywords, ∀ body xs ys,
      occurs keyword.toList (upper (xs ++ (inQuotes body ++ ys))) =
        (occurs keyword.toList (upper xs) || occurs keyword.toList (upper (inQuotes body)) ||
          occurs keyword.toList (upper ys)) := by
    intro keyword hkeyword body xs ys
    exact occurs_enclosed (hquote keyword hkeyword) (hquote keyword hkeyword) rfl rfl xs body ys
  intro keyword hkeyword part hpart xs ys _ _
  rcases List.mem_pair.mp hpart with rfl | rfl
  · exact hliteral keyword hkeyword body xs ys
  · exact hliteral keyword hkeyword body' xs ys

/-- Text inside string literals does not count: another text without quotes and backslashes in a
literal leaves the table the same, but for the declared types that hold the literal and, if a
keyword stands in either text, for their Java types.  The literal is a lexeme of the text, and the
lexemes in front of it are settled by what stands in front of it and by its first quote. -/
theorem tableOf?_literalEdit [DelimiterForm]
    (hfront : isSteady front (inQuotes body ++ back) ['\x27'] = true)
    (hliteral : lexeme ⟨front.getLast?, inQuotes body ++ back⟩ =
      (.string, (inQuotes body).length))
    (hbody : isPlainBody body' = true) :
    Option.Rel
      (fun found found' =>
        (literalEdit front body body' back).TablesSameBut found.1 found'.1)
      (tableOf? (literalEdit front body body' back).text)
      (tableOf? (literalEdit front body body' back).edited) := by
  refine Edit.tableOf?_of_allAlike (isEnclosed_literalEdit front body body' back) ?_
  have hshares := sharesTokens_of_steadyFrom (by decide) hfront (body' ++ '\x27' :: back)
  refine Edit.allAlike_tokenize ?_ ?_ (tokensAt_inQuotes hliteral front.length)
    (tokensAt_inQuotes (lexeme_inQuotes _ hbody fun _ => not_ends_of_lexeme hliteral) front.length)
  · have hedited : inQuotes body' ++ back = ['\x27'] ++ (body' ++ '\x27' :: back) := by
      simp [inQuotes]
    exact hedited ▸ hshares
  · exact List.forall₂_cons.mpr ⟨⟨rfl, nofun, nofun, .inl ⟨Nat.le_refl _, rfl⟩, .inr ⟨0, rfl, rfl⟩⟩,
      .nil⟩

/-- A default between quotes, and another one in its place. -/
def defaultEdit : Edit :=
  literalEdit "CREATE TABLE t (a INT DEFAULT ".toList "NOT NULL".toList "x".toList ")".toList

theorem tableOf?_literalEdit_default :
    isSteady defaultEdit.front (defaultEdit.old ++ defaultEdit.back) ['\x27'] = true ∧
      lexeme ⟨defaultEdit.front.getLast?, defaultEdit.old ++ defaultEdit.back⟩ = (.string, 10) ∧
      isPlainBody "x".toList = true ∧
      Option.Rel (fun found found' => defaultEdit.TablesSameBut found.1 found'.1)
        (tableOf? defaultEdit.text) (tableOf? defaultEdit.edited) := by
  have hfront : isSteady defaultEdit.front (defaultEdit.old ++ defaultEdit.back) ['\x27'] =
      true := by
    decide +kernel
  have hliteral : lexeme ⟨defaultEdit.front.getLast?, defaultEdit.old ++ defaultEdit.back⟩ =
      (.string, 10) := by
    decide +kernel
  exact ⟨hfront, hliteral, by decide, tableOf?_literalEdit hfront hliteral (by decide)⟩

/-- A literal that belongs to a time zone is read as words, and those in it count; a keyword in a
literal among the arguments of a type decides the Java type. -/
theorem not_silent_timeZone :
    (isPlainBody "x NOT NULL y".toList && isPlainBody "x".toList) = true ∧
      ((read "CREATE TABLE t (a TIMESTAMP AT TIME ZONE 'x NOT NULL y')").result.map
        fun t => t.columns.map Column.nullable) = .ok [false] ∧
      ((read "CREATE TABLE t (a TIMESTAMP AT TIME ZONE 'x')").result.map
        fun t => t.columns.map Column.nullable) = .ok [true] ∧
      ((read "CREATE TABLE t (a ENUM('point'))").result.map
        fun t => t.columns.map Column.type) = .ok [.integer] ∧
      ((read "CREATE TABLE t (a ENUM('x'))").result.map
        fun t => t.columns.map Column.type) = .ok [.string] := by
  refine ⟨by decide, ?_, ?_, ?_, ?_⟩
  · exact map_read_of_isStatement (by decide +kernel)
  · exact map_read_of_isStatement (by decide +kernel)
  · exact map_read_of_isStatement (by decide +kernel)
  · exact map_read_of_isStatement (by decide +kernel)

end EntityMapper.Sql
