import EntityMapper.Proofs.Sql.Lexemes

/-!
# Lexemes that the beginning of a text settles

What stands at a place of a text of which only the beginning is known. It is open where the outcome
hangs on what follows: inside a quoted span, a comment or a bracket that the beginning does not
close, and behind words that others may go on. A lexeme that is settled is that of every text with
the same beginning.
-/

namespace EntityMapper

namespace Text

/-- The way through the first place of a text is at least as long as the text sought. -/
theorem length_le_throughFirst? {sought cs : List Char} {n : Nat}
    (h : throughFirst? sought cs = some n) : sought.length ≤ n ∧ n ≤ cs.length := by
  induction cs generalizing n with
  | nil =>
    rw [throughFirst?] at h
    split at h
    · rename_i hsought
      obtain rfl := Option.some.inj h
      simp [hsought]
    · cases h
  | cons c cs ih =>
    rw [throughFirst?] at h
    split at h
    · rename_i hprefix
      obtain rfl := Option.some.inj h
      exact ⟨Nat.le_refl _, (List.isPrefixOf_iff_prefix.mp hprefix).length_le⟩
    · obtain ⟨m, hm, rfl⟩ := Option.map_eq_some_iff.mp h
      obtain ⟨hlow, hhigh⟩ := ih hm
      exact ⟨Nat.le_succ_of_le hlow, Nat.succ_le_succ hhigh⟩

/-- The first occurrence of a text stays the first one when the text around it goes on. -/
theorem throughFirst?_append {sought cs : List Char} {n : Nat}
    (h : throughFirst? sought cs = some n) (more : List Char) :
    throughFirst? sought (cs ++ more) = some n := by
  induction cs generalizing n with
  | nil =>
    rw [throughFirst?] at h
    split at h
    · rename_i hsought
      obtain rfl := Option.some.inj h
      cases more <;> simp [throughFirst?, hsought]
    · cases h
  | cons c cs ih =>
    rw [throughFirst?] at h
    rw [List.cons_append, throughFirst?]
    split at h
    · rename_i hprefix
      have hmore : sought <+: c :: (cs ++ more) :=
        (List.isPrefixOf_iff_prefix.mp hprefix).trans (List.prefix_append (c :: cs) more)
      rw [if_pos (List.isPrefixOf_iff_prefix.mpr hmore), h]
    · rename_i hprefix
      obtain ⟨m, hm, rfl⟩ := Option.map_eq_some_iff.mp h
      have hroom := length_le_throughFirst? hm
      have hmore : ¬ sought <+: c :: (cs ++ more) := by
        intro hpre
        refine hprefix (List.isPrefixOf_iff_prefix.mpr ?_)
        refine List.prefix_of_prefix_length_le hpre (List.prefix_append (c :: cs) more) ?_
        rw [List.length_cons]
        omega
      rw [if_neg (by rwa [List.isPrefixOf_iff_prefix]), ih hm, Option.map_some]

end Text

namespace Sql

open Pattern

/-- The kind and length of the block comment that the known beginning of a text begins with. -/
def glimpseComment (cs : List Char) : Glimpse (LexemeKind × Nat) :=
  match blockComment? cs with
  | some found => some (some found)
  | none => if ['/', '*'].isPrefixOf cs || cs.isPrefixOf ['/', '*'] then none else some none

/-- A block comment that is closed stays one when the text behind it goes on. -/
theorem blockComment?_append {cs : List Char} {found : LexemeKind × Nat}
    (h : blockComment? cs = some found) (more : List Char) :
    blockComment? (cs ++ more) = some found := by
  rw [blockComment?_eq] at h ⊢
  split at h
  · rename_i hhint
    rw [List.isPrefixOf_iff_prefix] at hhint
    rw [if_pos (List.isPrefixOf_iff_prefix.mpr (hhint.trans (List.prefix_append cs more))),
      List.drop_append_of_le_length (i := 3) hhint.length_le]
    obtain ⟨n, hn, rfl⟩ := Option.map_eq_some_iff.mp h
    rw [Text.throughFirst?_append hn, Option.map_some]
  · rename_i hhint
    split at h
    · rename_i hopening
      rw [List.isPrefixOf_iff_prefix] at hopening hhint
      obtain ⟨n, hn, rfl⟩ := Option.map_eq_some_iff.mp h
      have hroom := Text.length_le_throughFirst? hn
      rw [List.length_drop] at hroom
      have hhint' : ¬ ['/', '*', '+'] <+: cs ++ more := fun hpre => hhint <|
        List.prefix_of_prefix_length_le hpre (List.prefix_append cs more) (by
          simp only [List.length_cons, List.length_nil] at hroom ⊢
          omega)
      rw [if_neg (by rwa [List.isPrefixOf_iff_prefix]),
        if_pos (List.isPrefixOf_iff_prefix.mpr (hopening.trans (List.prefix_append cs more))),
        List.drop_append_of_le_length (i := 2) hopening.length_le, Text.throughFirst?_append hn,
        Option.map_some]
    · cases h

/-- A settled glimpse of a comment is right for every longer text. -/
theorem blockComment?_of_glimpse {cs : List Char} {a : Option (LexemeKind × Nat)}
    (h : glimpseComment cs = some a) (more : List Char) : blockComment? (cs ++ more) = a := by
  rw [glimpseComment] at h
  split at h
  · rename_i found hfound
    rw [← Option.some.inj h, blockComment?_append hfound]
  · split at h
    · cases h
    · rename_i hopen
      rw [Bool.or_eq_true, List.isPrefixOf_iff_prefix, List.isPrefixOf_iff_prefix, not_or] at hopen
      have hopening : ¬ ['/', '*'] <+: cs ++ more := fun hpre =>
        (List.prefix_or_prefix_of_prefix hpre (List.prefix_append cs more)).elim hopen.1 hopen.2
      have hhint : ¬ ['/', '*', '+'] <+: cs ++ more := fun hpre =>
        hopening (List.IsPrefix.trans ⟨['+'], rfl⟩ hpre)
      rw [blockComment?_eq, if_neg (by rwa [List.isPrefixOf_iff_prefix]),
        if_neg (by rwa [List.isPrefixOf_iff_prefix]), ← Option.some.inj h]

/-- A comment that is settled stays so when more of the text is known. -/
theorem glimpseComment_extend {cs : List Char} {a : Option (LexemeKind × Nat)}
    (h : glimpseComment cs = some a) (more : List Char) :
    glimpseComment (cs ++ more) = some a := by
  have hcomment := blockComment?_of_glimpse h more
  rw [glimpseComment] at h ⊢
  rw [hcomment]
  cases a with
  | some found => rfl
  | none =>
    split at h
    · cases h
    · split at h
      · cases h
      · rename_i hopen
        rw [Bool.or_eq_true, List.isPrefixOf_iff_prefix, List.isPrefixOf_iff_prefix,
          not_or] at hopen
        have hopening : ¬ ['/', '*'] <+: cs ++ more := fun hpre =>
          (List.prefix_or_prefix_of_prefix hpre (List.prefix_append cs more)).elim hopen.1 hopen.2
        have hshort : ¬ cs ++ more <+: ['/', '*'] := fun hpre =>
          hopen.2 ((List.prefix_append cs more).trans hpre)
        simp only [← List.isPrefixOf_iff_prefix, Bool.not_eq_true] at hopening hshort
        simp only [hopening, hshort, Bool.or_self, Bool.false_eq_true, if_false]

variable [DelimiterForm]

/-- Dollar-quoted text that is closed stays so when the text behind it goes on. -/
theorem throughClosing?_append {opening cs : List Char} {n : Nat}
    (h : throughClosing? opening cs = some n) (more : List Char) :
    throughClosing? opening (cs ++ more) = some n := by
  rw [throughClosing?, List.map_append]
  exact Text.throughFirst?_append h _

/-- The length of the dollar-quoted text at a place, where only the beginning of the text is
known. -/
def glimpseDollar (s : Cursor) : Glimpse Nat :=
  match dollarDelimiter.glimpse s fun t => some (some (s.rest.length - t.rest.length)) with
  | none => none
  | some none => some none
  | some (some n) =>
    if n ≤ s.rest.length then
      (throughClosing? (s.rest.take n) (s.rest.drop n)).map fun body => some (n + body)
    else none

/-- A settled glimpse of a dollar quote is right for every longer text. -/
theorem dollarQuoted?_of_glimpse {s : Cursor} {a : Option Nat} (h : glimpseDollar s = some a)
    (more : List Char) : dollarQuoted? (s.extend more) = a := by
  rw [glimpseDollar] at h
  split at h
  · cases h
  · rename_i hdelimiter
    rw [dollarQuoted?, length?_of_glimpse hdelimiter, ← Option.some.inj h]
    rfl
  · rename_i n hdelimiter
    split at h
    · rename_i hle
      obtain ⟨body, hbody, rfl⟩ := Option.map_eq_some_iff.mp h
      have hthrough := throughClosing?_append hbody more
      rw [← List.drop_append_of_le_length hle] at hthrough
      rw [dollarQuoted?, length?_of_glimpse hdelimiter, Option.bind_eq_bind, Option.bind_some,
        Cursor.extend, List.take_append_of_le_length hle, hthrough]
      rfl
    · cases h

/-- Dollar-quoted text that is settled stays so when more of the text is known. -/
theorem glimpseDollar_extend {s : Cursor} {a : Option Nat} (h : glimpseDollar s = some a)
    (more : List Char) : glimpseDollar (s.extend more) = some a := by
  rw [glimpseDollar] at h ⊢
  split at h
  · cases h
  · rename_i hdelimiter
    rw [glimpse_length_extend hdelimiter]
    exact h
  · rename_i n hdelimiter
    rw [glimpse_length_extend hdelimiter]
    split at h
    · rename_i hle
      obtain ⟨body, hbody, rfl⟩ := Option.map_eq_some_iff.mp h
      have hroom : n ≤ (s.extend more).rest.length := Nat.le_trans hle (by simp [Cursor.extend])
      dsimp only
      rw [if_pos hroom, Cursor.extend, List.take_append_of_le_length hle,
        List.drop_append_of_le_length hle, throughClosing?_append hbody, Option.map_some]
    · cases h

/-- The kind and length of the lexeme at a place, if the known beginning of the text settles them.
-/
def settled? (s : Cursor) : Option (LexemeKind × Nat) :=
  let dollar : Glimpse (LexemeKind × Nat) := (glimpseDollar s).map (·.map ((.dollarQuoted, ·)))
  let found := dollar.orTry ((glimpseComment s.rest).orTry (glimpseRules s rules))
  found.map fun
    | some (kind, n) => (kind, max n 1)
    | none => (.unknown, 1)

/-- A settled lexeme is the lexeme of every text with that beginning. -/
theorem lexeme_of_settled {before : Option Char} {known : List Char} {found : LexemeKind × Nat}
    (h : settled? ⟨before, known⟩ = some found) (more : List Char) :
    lexeme ⟨before, known ++ more⟩ = found := by
  obtain ⟨a, ha, rfl⟩ := Option.map_eq_some_iff.mp h
  have hlexeme : ((dollarQuoted? ⟨before, known ++ more⟩).map ((LexemeKind.dollarQuoted, ·)) <|>
      (blockComment? (known ++ more) <|> ruled? ⟨before, known ++ more⟩)) = a := by
    refine orTry_eq_some ha (fun b hb => ?_) fun b hb => ?_
    · obtain ⟨length?, hlength, rfl⟩ := Option.map_eq_some_iff.mp hb
      have hdollar := dollarQuoted?_of_glimpse hlength more
      rw [Cursor.extend] at hdollar
      rw [hdollar]
    · exact orTry_eq_some hb (fun c hc => blockComment?_of_glimpse hc more)
        fun c hc => ruled?_of_glimpse hc more
  rcases a with _ | ⟨kind, n⟩
  · simp only [lexeme, hlexeme]
  · simp only [lexeme, hlexeme]

/-- A lexeme that is settled stays so when more of the text is known. -/
theorem settled?_extend {before : Option Char} {known : List Char} {found : LexemeKind × Nat}
    (h : settled? ⟨before, known⟩ = some found) (more : List Char) :
    settled? ⟨before, known ++ more⟩ = some found := by
  obtain ⟨a, ha, rfl⟩ := Option.map_eq_some_iff.mp h
  refine Option.map_eq_some_iff.mpr ⟨a, Glimpse.orTry_mono ha (fun b hb => ?_) fun b hb => ?_, rfl⟩
  · obtain ⟨length?, hlength, rfl⟩ := Option.map_eq_some_iff.mp hb
    exact Option.map_eq_some_iff.mpr ⟨length?, glimpseDollar_extend hlength more, rfl⟩
  · exact Glimpse.orTry_mono hb (fun c hc => glimpseComment_extend hc more)
      fun c hc => glimpseRules_extend hc more

end Sql

end EntityMapper
