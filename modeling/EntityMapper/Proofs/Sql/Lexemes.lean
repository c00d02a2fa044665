import EntityMapper.Proofs.Pattern.Beginnings
import EntityMapper.Proofs.Pattern.Glimpse
import EntityMapper.Sql.Statement

/-!
# The lexemes of a text, one after the other

The lexemes from a place on, without a bound on their number: the first one, and those from the
place behind it. They concatenate to the text. Which rule applies at a place is settled by the next
character where that rules out the earlier rules, or by a run on the beginning of the text.
-/

namespace EntityMapper.Sql

/-- The lexemes from a place on. -/
def lexemesAt [DelimiterForm] (s : Cursor) : List Lexeme :=
  lexemesFrom s.rest.length s

/-- A lexeme takes at least one character. -/
theorem lexeme_pos [DelimiterForm] (s : Cursor) : 0 < (lexeme s).2 := by
  rw [lexeme]
  split
  · exact Nat.lt_of_lt_of_le Nat.zero_lt_one (Nat.le_max_right _ _)
  · exact Nat.zero_lt_one

private theorem advance_lexeme_shorter [DelimiterForm] (s : Cursor) (c : Char) (cs : List Char)
    (hs : s.rest = c :: cs) : (s.advance (lexeme s).2).rest.length ≤ cs.length := by
  have hpos := lexeme_pos s
  rw [Cursor.advance_rest, List.length_drop, hs, List.length_cons]
  omega

/-- A bound that is large enough does not matter. -/
private theorem lexemesFrom_eq [DelimiterForm] {fuel fuel' : Nat} {s : Cursor}
    (h : s.rest.length ≤ fuel) (h' : s.rest.length ≤ fuel') :
    lexemesFrom fuel s = lexemesFrom fuel' s := by
  induction fuel generalizing fuel' s with
  | zero =>
    have hs : s.rest = [] := List.eq_nil_of_length_eq_zero (by omega)
    cases fuel' <;> simp [lexemesFrom, hs]
  | succ fuel ih =>
    cases hs : s.rest with
    | nil => cases fuel' <;> simp [lexemesFrom, hs]
    | cons c cs =>
      rw [hs, List.length_cons] at h h'
      obtain ⟨fuel', rfl⟩ : ∃ n, fuel' = n + 1 := ⟨fuel' - 1, by omega⟩
      have hle := advance_lexeme_shorter s c cs hs
      simp only [lexemesFrom, hs]
      rw [@ih fuel' _ (by omega) (by omega)]

/-- The lexemes of a text are those from its beginning on. -/
theorem lexemes_eq [DelimiterForm] (cs : List Char) :
    lexemes cs = lexemesAt (Cursor.start cs) := rfl

@[simp] theorem lexemesAt_nil [DelimiterForm] (before : Option Char) :
    lexemesAt ⟨before, []⟩ = [] := rfl

/-- The lexemes of a text that is not empty are the first one and those behind it. -/
theorem lexemesAt_cons [DelimiterForm] {s : Cursor} (h : s.rest ≠ []) :
    lexemesAt s =
      ⟨(lexeme s).1, s.rest.take (lexeme s).2⟩ :: lexemesAt (s.advance (lexeme s).2) := by
  obtain ⟨c, cs, hs⟩ := List.exists_cons_of_ne_nil h
  have hle := advance_lexeme_shorter s c cs hs
  rw [lexemesAt, hs, List.length_cons]
  simp only [lexemesFrom, hs]
  rw [lexemesFrom_eq hle (Nat.le_refl _)]
  rfl

/-- Induction over the lexemes from a place on: what holds of the end of a text, and of each place
if it holds of the place behind the lexeme there, holds of every place. -/
theorem lexemes_induction [DelimiterForm] {motive : Cursor → Prop}
    (nil : ∀ before, motive ⟨before, []⟩)
    (next : ∀ s : Cursor, s.rest ≠ [] → motive (s.advance (lexeme s).2) → motive s) (s : Cursor) :
    motive s := by
  induction hn : s.rest.length using Nat.strongRecOn generalizing s with
  | ind n ih =>
    by_cases hs : s.rest = []
    · obtain ⟨before, rest⟩ := s
      obtain rfl : rest = [] := hs
      exact nil before
    · have hpos := lexeme_pos s
      have hlen : 0 < s.rest.length := List.length_pos_iff.mpr hs
      refine next s hs (ih _ ?_ _ rfl)
      rw [Cursor.advance_rest, List.length_drop]
      omega

/-- A lexeme that is a given text stands in front of the lexemes of what follows. -/
theorem lexemesAt_append [DelimiterForm] {before : Option Char} {cs rest : List Char}
    {kind : LexemeKind} (hne : cs ≠ []) (h : lexeme ⟨before, cs ++ rest⟩ = (kind, cs.length)) :
    lexemesAt ⟨before, cs ++ rest⟩ =
      ⟨kind, cs⟩ :: lexemesAt ⟨cs.getLast?.or before, rest⟩ := by
  rw [lexemesAt_cons (by simp [hne]), h]
  simp only [List.take_left, Cursor.advance_append]

@[simp] theorem textOf_nil : textOf [] = [] := rfl

@[simp] theorem textOf_cons (l : Lexeme) (ls : List Lexeme) :
    textOf (l :: ls) = l.text ++ textOf ls := rfl

/-- The text of lexemes put together is their texts put together. -/
@[simp] theorem textOf_append (xs ys : List Lexeme) :
    textOf (xs ++ ys) = textOf xs ++ textOf ys := List.flatMap_append

/-- The lexemes of a text concatenate to it. -/
theorem textOf_lexemesAt [DelimiterForm] (s : Cursor) : textOf (lexemesAt s) = s.rest := by
  induction s using lexemes_induction with
  | nil before => rw [lexemesAt_nil, textOf_nil]
  | next s hs ih =>
    rw [lexemesAt_cons hs, textOf_cons, ih, Cursor.advance_rest, List.take_append_drop]

theorem textOf_lexemes [DelimiterForm] (cs : List Char) : textOf (lexemes cs) = cs :=
  textOf_lexemesAt (Cursor.start cs)

/-- The lexeme at a place is followed by the place behind its text. -/
theorem advance_lexeme [DelimiterForm] (s : Cursor) :
    s.advance (lexeme s).2 = s.advance (s.rest.take (lexeme s).2).length := by
  rw [List.length_take]
  exact Cursor.advance_min _ s

/-- Each lexeme is the one at some place. -/
theorem exists_place_of_mem [DelimiterForm] {s : Cursor} {l : Lexeme} (h : l ∈ lexemesAt s) :
    ∃ t : Cursor, t.rest ≠ [] ∧ l = ⟨(lexeme t).1, t.rest.take (lexeme t).2⟩ := by
  induction s using lexemes_induction with
  | nil before => cases h
  | next s hs ih =>
    rw [lexemesAt_cons hs] at h
    obtain rfl | h := List.mem_cons.mp h
    · exact ⟨s, hs, rfl⟩
    · exact ih h

/-- No lexeme is empty. -/
theorem text_ne_nil [DelimiterForm] {s : Cursor} {l : Lexeme} (h : l ∈ lexemesAt s) :
    l.text ≠ [] := by
  obtain ⟨t, ht, rfl⟩ := exists_place_of_mem h
  intro htake
  rw [List.take_eq_nil_iff] at htake
  exact htake.elim (Nat.ne_of_gt (lexeme_pos t)) ht

/-! ## Which rule applies -/

/-- No rule matches the empty text. -/
theorem maySkip_rules : ∀ rule ∈ rules, rule.pattern.maySkip = false := by
  decide

/-- A rule that matches takes some text. -/
theorem length?_pos {rule : LexicalRule} (hrule : rule ∈ rules) {s : Cursor} {n : Nat}
    (h : rule.pattern.length? s = some n) : 0 < n := by
  have hshorter := (Pattern.ends_of_length? h).1.shorter (maySkip_rules rule hrule)
  rcases Nat.eq_zero_or_pos n with rfl | hpos
  · rw [Cursor.advance_zero] at hshorter
    exact absurd hshorter (Nat.lt_irrefl _)
  · exact hpos

/-- A bare word is an operator, a word of a statement, or a keyword. -/
theorem wordKind_cases (word : List Char) :
    wordKind word = .operator ∨ wordKind word = .definition ∨ wordKind word = .keyword := by
  unfold wordKind
  dsimp only
  split
  · exact .inl rfl
  · split
    · exact .inr (.inl rfl)
    · exact .inr (.inr rfl)

/-- What a block comment begins with decides whether it is a hint. -/
theorem blockComment?_eq (cs : List Char) : blockComment? cs =
    if ['/', '*', '+'].isPrefixOf cs then
      (Text.throughFirst? ['*', '/'] (cs.drop 3)).map fun n => (.blockHint, n + 3)
    else if ['/', '*'].isPrefixOf cs then
      (Text.throughFirst? ['*', '/'] (cs.drop 2)).map fun n => (.blockComment, n + 2)
    else none := by
  unfold blockComment?
  split
  · simp
  · rename_i cs hhint
    have hplus : ['/', '*', '+'].isPrefixOf ('/' :: '*' :: cs) = false := by
      rw [Bool.eq_false_iff, ne_eq, List.isPrefixOf_iff_prefix]
      rintro ⟨more, hmore⟩
      have hcs : '+' :: more = cs := (List.cons.inj (List.cons.inj hmore).2).2
      exact hhint more hcs.symm
    have hstar : ['/', '*'].isPrefixOf ('/' :: '*' :: cs) = true := rfl
    rw [hplus, hstar]
    rfl
  · rename_i hhint hcomment
    have hstar : ['/', '*'].isPrefixOf cs = false := by
      rw [Bool.eq_false_iff, ne_eq, List.isPrefixOf_iff_prefix]
      rintro ⟨more, rfl⟩
      exact hcomment more rfl
    have hplus : ['/', '*', '+'].isPrefixOf cs = false := by
      rw [Bool.eq_false_iff, ne_eq, List.isPrefixOf_iff_prefix]
      rintro ⟨more, rfl⟩
      exact hhint more rfl
    rw [hstar, hplus]
    rfl

/-- A block comment begins with a slash. -/
theorem blockComment?_eq_some {cs : List Char} {kind : LexemeKind} {n : Nat}
    (h : blockComment? cs = some (kind, n)) :
    (kind = .blockHint ∨ kind = .blockComment) ∧ cs.head? = some '/' ∧ 0 < n := by
  unfold blockComment? at h
  split at h
  · obtain ⟨m, -, heq⟩ := Option.map_eq_some_iff.mp h
    obtain ⟨rfl, rfl⟩ := Prod.mk.injEq .. ▸ heq
    exact ⟨.inl rfl, rfl, Nat.succ_pos _⟩
  · obtain ⟨m, -, heq⟩ := Option.map_eq_some_iff.mp h
    obtain ⟨rfl, rfl⟩ := Prod.mk.injEq .. ▸ heq
    exact ⟨.inr rfl, rfl, Nat.succ_pos _⟩
  · cases h

/-- A lexeme is a delimited span, is of no kind, or comes from a rule that matches. -/
theorem lexeme_cases [DelimiterForm] (s : Cursor) :
    (lexeme s).1 = .dollarQuoted ∨ (lexeme s).1 = .unknown ∨
    (((lexeme s).1 = .blockHint ∨ (lexeme s).1 = .blockComment) ∧
      blockComment? s.rest = some (lexeme s)) ∨
    ∃ rule ∈ rules, ∃ n, rule.pattern.length? s = some n ∧
      lexeme s = (rule.kind (s.rest.take n), n) := by
  rw [lexeme]
  cases hdollar : dollarQuoted? s with
  | some n => exact .inl rfl
  | none =>
    cases hcomment : blockComment? s.rest with
    | some found =>
      obtain ⟨kind, n⟩ := found
      obtain ⟨hkind, -, hpos⟩ := blockComment?_eq_some hcomment
      have hlexeme : (kind, max n 1) = (kind, n) := Prod.ext rfl (Nat.max_eq_left hpos)
      exact .inr (.inr (.inl ⟨hkind, congrArg some hlexeme.symm⟩))
    | none =>
      cases hruled : ruled? s with
      | none => exact .inr (.inl rfl)
      | some found =>
        obtain ⟨rule, hrule, hmatch⟩ := List.exists_of_findSome?_eq_some hruled
        obtain ⟨n, hn, rfl⟩ := Option.map_eq_some_iff.mp hmatch
        exact .inr (.inr (.inr ⟨rule, hrule, n, hn,
          Prod.ext rfl (Nat.max_eq_left (length?_pos hrule hn))⟩))

/-- A place that begins neither dollar-quoted text nor a block comment is read by the rules. -/
theorem lexeme_of_ruled? [DelimiterForm] {before : Option Char} {c : Char} {cs : List Char}
    {kind : LexemeKind} {n : Nat} (hdollar : dollarDelimiter.mayTake c = false) (hslash : c ≠ '/')
    (hn : 0 < n) (h : ruled? ⟨before, c :: cs⟩ = some (kind, n)) :
    lexeme ⟨before, c :: cs⟩ = (kind, n) := by
  have hskip : dollarDelimiter.maySkip = false := by decide
  have hquoted : dollarQuoted? ⟨before, c :: cs⟩ = none := by
    rw [dollarQuoted?, Pattern.length?, Pattern.run_eq_none_of_first hskip hdollar]
    rfl
  have hcomment : blockComment? (c :: cs) = none := by
    unfold blockComment?
    split
    · rename_i heq
      exact absurd (List.cons_eq_cons.mp heq).1 hslash
    · rename_i heq
      exact absurd (List.cons_eq_cons.mp heq).1 hslash
    · rfl
  simp only [lexeme, hquoted, hcomment, h, Option.map_none]
  exact Prod.ext rfl (Nat.max_eq_left hn)

/-- The rules yield the same at two places where each of them matches alike. -/
theorem ruled?_congr {s s' : Cursor}
    (hlength : ∀ rule ∈ rules, rule.pattern.length? s = rule.pattern.length? s')
    (hkind : ∀ rule ∈ rules, ∀ n, rule.kind (s.rest.take n) = rule.kind (s'.rest.take n)) :
    ruled? s = ruled? s' := by
  rw [ruled?, ruled?]
  generalize rules = rs at hlength hkind
  induction rs with
  | nil => rfl
  | cons rule rs ih =>
    rw [List.forall_mem_cons] at hlength hkind
    rw [List.findSome?_cons, List.findSome?_cons, hlength.1, ih hlength.2 hkind.2]
    simp only [hkind.1]

/-- A rule applies where it matches and those before it do not. -/
theorem ruled?_of_split {i : Nat} {rule : LexicalRule} {s : Cursor} {n : Nat}
    (hi : rules[i]? = some rule) (hearlier : ∀ r ∈ rules.take i, r.pattern.length? s = none)
    (hrule : rule.pattern.length? s = some n) :
    ruled? s = some (rule.kind (s.rest.take n), n) := by
  obtain ⟨hlt, hget⟩ := List.getElem?_eq_some_iff.mp hi
  have hsplit : rules = rules.take i ++ rule :: rules.drop (i + 1) := by
    rw [← hget, ← List.drop_eq_getElem_cons hlt, List.take_append_drop]
  have hnone : (rules.take i).findSome? (fun r =>
      (r.pattern.length? s).map fun n => (r.kind (s.rest.take n), n)) = none := by
    rw [List.findSome?_eq_none_iff]
    intro r hr
    rw [hearlier r hr]
    rfl
  rw [ruled?, hsplit, List.findSome?_append, hnone, List.findSome?_cons, hrule]
  rfl

/-- A rule does not match before a character that it cannot begin with. -/
theorem length?_eq_none_of_first {rule : LexicalRule} (hrule : rule ∈ rules)
    (before : Option Char) {c : Char} (hc : rule.pattern.mayTake c = false) (cs : List Char) :
    rule.pattern.length? ⟨before, c :: cs⟩ = none :=
  Pattern.run_eq_none_of_first (maySkip_rules rule hrule) hc before cs _

/-- A rule applies where it matches and the next character rules out those before it. -/
theorem ruled?_of_first {i : Nat} {rule : LexicalRule} {before : Option Char} {c : Char}
    {cs : List Char} {n : Nat} (hi : rules[i]? = some rule)
    (hfirst : ∀ r ∈ rules.take i, r.pattern.mayTake c = false)
    (hrule : rule.pattern.length? ⟨before, c :: cs⟩ = some n) :
    ruled? ⟨before, c :: cs⟩ = some (rule.kind ((c :: cs).take n), n) :=
  ruled?_of_split hi
    (fun r hr => length?_eq_none_of_first (List.mem_of_mem_take hr) before (hfirst r hr) cs) hrule

/-- The kind and length of the lexeme that the first matching rule yields at a place, where only the
beginning of the text is known. -/
def glimpseRules (s : Cursor) : List LexicalRule → Pattern.Glimpse (LexemeKind × Nat)
  | [] => some none
  | rule :: rest =>
    match rule.pattern.glimpse s fun t => some (some (s.rest.length - t.rest.length)) with
    | none => none
    | some none => glimpseRules s rest
    | some (some n) =>
      if n ≤ s.rest.length then some (some (rule.kind (s.rest.take n), n)) else none

/-- What a row of rules yields on the beginning of a text it yields on the text. -/
private theorem findSome?_of_glimpseRules {s : Cursor} {rs : List LexicalRule}
    {a : Option (LexemeKind × Nat)} (h : glimpseRules s rs = some a) (more : List Char) :
    rs.findSome? (fun rule => (rule.pattern.length? (s.extend more)).map fun n =>
      (rule.kind ((s.extend more).rest.take n), n)) = a := by
  induction rs with
  | nil => exact Option.some.inj h
  | cons rule rest ih =>
    rw [glimpseRules] at h
    split at h
    · cases h
    · rename_i hb
      rw [List.findSome?_cons, Pattern.length?_of_glimpse hb]
      exact ih h
    · rename_i n hb
      split at h
      · rename_i hle
        rw [List.findSome?_cons, Pattern.length?_of_glimpse hb, ← Option.some.inj h]
        simp only [Option.map_some, Cursor.extend]
        rw [List.take_append_of_le_length hle]
      · cases h

/-- What the rules yield on the beginning of a text they yield on the text. -/
theorem ruled?_of_glimpse {before : Option Char} {known : List Char}
    {a : Option (LexemeKind × Nat)} (h : glimpseRules ⟨before, known⟩ rules = some a)
    (more : List Char) : ruled? ⟨before, known ++ more⟩ = a :=
  findSome?_of_glimpseRules h more

/-- What the rules are known to yield they yield when more of the text is known. -/
theorem glimpseRules_extend {s : Cursor} {rs : List LexicalRule}
    {a : Option (LexemeKind × Nat)} (h : glimpseRules s rs = some a) (more : List Char) :
    glimpseRules (s.extend more) rs = some a := by
  induction rs with
  | nil => exact h
  | cons rule rest ih =>
    rw [glimpseRules] at h ⊢
    split at h
    · cases h
    · rename_i hb
      rw [Pattern.glimpse_length_extend hb]
      exact ih h
    · rename_i n hb
      rw [Pattern.glimpse_length_extend hb]
      split at h
      · rename_i hle
        have hroom : n ≤ (s.extend more).rest.length := Nat.le_trans hle (by simp [Cursor.extend])
        dsimp only
        rw [if_pos hroom, Cursor.extend, List.take_append_of_le_length hle, h]
      · cases h

end EntityMapper.Sql
