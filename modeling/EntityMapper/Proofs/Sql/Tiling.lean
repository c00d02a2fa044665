import EntityMapper.Proofs.Sql.Layout

/-!
# The tokens tile their text

Nothing of a text is lost but white space and comments. The tokens stand in it one after the other,
each is read off its own span, and what lies in front of the first, between two neighbours and
behind the last is white space and comments only. So is every stretch of tokens tiled, from the
start of its first token to the stop of its last.
-/

namespace EntityMapper

namespace Text

/-- The characters that end a line of a comment. -/
def endsLine (c : Char) : Bool :=
  c == '\r' || c == '\n'

/-- The characters that end lines are white space. -/
theorem isSpace_of_endsLine {c : Char} (h : endsLine c = true) : isSpace c = true := by
  rw [endsLine, Bool.or_eq_true, beq_iff_eq, beq_iff_eq] at h
  obtain rfl | rfl := h <;> decide

/-- A text that is found does not occur in what stands before it. -/
theorem throughFirst?_eq_some {sought cs : List Char} {n : Nat} (hne : sought ≠ [])
    (h : throughFirst? sought cs = some n) :
    ∃ before after, cs = before ++ sought ++ after ∧ n = (before ++ sought).length ∧
      ¬ sought <:+: before := by
  induction cs generalizing n with
  | nil =>
    rw [throughFirst?, if_neg hne] at h
    cases h
  | cons c cs ih =>
    rw [throughFirst?] at h
    split at h
    · rename_i hprefix
      obtain ⟨after, hafter⟩ := List.isPrefixOf_iff_prefix.mp hprefix
      refine ⟨[], after, hafter.symm, (Option.some.inj h).symm, ?_⟩
      rwa [List.infix_nil]
    · rename_i hprefix
      obtain ⟨m, hm, rfl⟩ := Option.map_eq_some_iff.mp h
      obtain ⟨before, after, rfl, rfl, hbefore⟩ := ih hm
      refine ⟨c :: before, after, rfl, rfl, fun hinfix => ?_⟩
      rcases List.infix_cons_iff.mp hinfix with hhere | hlater
      · refine hprefix (List.isPrefixOf_iff_prefix.mpr (hhere.trans ?_))
        rw [List.append_assoc]
        exact List.prefix_append (c :: before) _
      · exact hbefore hlater

end Text

namespace Sql

open Pattern

/-! ## What is skipped -/

/-- From one place of a text to another, both given by what follows them, there is only white space
and comments. A line comment goes on to the end of its line, a block comment to the first mark that
closes it. -/
inductive SkipsTo : List Char → List Char → Prop
  | refl (cs : List Char) : SkipsTo cs cs
  | blank {c : Char} {cs ds : List Char} (hc : Text.isSpace c = true) (h : SkipsTo cs ds) :
      SkipsTo (c :: cs) ds
  | lineComment {mark body cs ds : List Char} (hmark : mark ∈ ["--".toList, "# ".toList])
      (hbody : ∀ c ∈ body, Text.endsLine c = false) (hcs : cs.head?.all Text.endsLine = true)
      (h : SkipsTo cs ds) : SkipsTo (mark ++ body ++ cs) ds
  | blockComment {body cs ds : List Char} (hbody : ¬ ['*', '/'] <:+: body) (h : SkipsTo cs ds) :
      SkipsTo (['/', '*'] ++ body ++ ['*', '/'] ++ cs) ds

namespace SkipsTo

/-- What is skipped piece by piece is skipped. -/
theorem trans {cs ds es : List Char} (h : SkipsTo cs ds) (h' : SkipsTo ds es) : SkipsTo cs es := by
  induction h with
  | refl => exact h'
  | blank hc _ ih => exact .blank hc (ih h')
  | lineComment hmark hbody hcs _ ih => exact .lineComment hmark hbody hcs (ih h')
  | blockComment hbody _ ih => exact .blockComment hbody (ih h')

/-- White space is skipped. -/
theorem of_isSpace {blanks : List Char} (h : ∀ c ∈ blanks, Text.isSpace c = true)
    (cs : List Char) : SkipsTo (blanks ++ cs) cs := by
  induction blanks with
  | nil => exact .refl cs
  | cons c blanks ih =>
    obtain ⟨hc, hblanks⟩ := List.forall_mem_cons.mp h
    exact .blank hc (ih hblanks)

end SkipsTo

/-- Behind the pattern's preferred end only white space and comments have been passed. -/
def Skips (p : Pattern) : Prop :=
  ∀ s t, p.run s some = some t → SkipsTo s.rest t.rest

/-- A pattern that consumes nothing but white space skips. -/
theorem skips_of_consumes {p : Pattern}
    (h : ∀ s t, Ends p s t → ∃ cs, Consumes s cs t ∧ ∀ c ∈ cs, Text.isSpace c = true) :
    Skips p := by
  intro s t ht
  obtain ⟨u, hu, hk⟩ := run_sound ht
  obtain rfl := Option.some.inj hk
  obtain ⟨cs, hcs, hspace⟩ := h s u hu
  rw [hcs.1]
  exact .of_isSpace hspace u.rest

/-- The end of a line consists of characters that end lines. -/
theorem exists_consumes_lineBreak {s t : Cursor} (h : Ends lineBreak s t) :
    ∃ c cs, Consumes s (c :: cs) t ∧ ∀ d ∈ c :: cs, Text.endsLine d = true := by
  rcases h with h | h | h
  · exact ⟨'\r', ['\n'], consumes_of_ends_text (by decide) h, by decide⟩
  · exact ⟨'\r', [], consumes_of_ends_text (by decide) h, by decide⟩
  · exact ⟨'\n', [], consumes_of_ends_text (by decide) h, by decide⟩

/-- Each character that ends lines is the end of one. -/
theorem ends_lineBreak {c : Char} (hc : Text.endsLine c = true) (before : Option Char)
    (cs : List Char) : Ends lineBreak ⟨before, c :: cs⟩ ⟨some c, cs⟩ := by
  rw [Text.endsLine, Bool.or_eq_true, beq_iff_eq, beq_iff_eq] at hc
  rcases hc with rfl | rfl
  · exact .inr (.inl (ends_text.mpr ⟨['\r'], .cons (by decide) .nil, rfl, rfl⟩))
  · exact .inr (.inr (ends_text.mpr ⟨['\n'], .cons (by decide) .nil, rfl, rfl⟩))

/-- The end of a line is where the text ends or a line break stands, which is white space. -/
theorem endsLine_of_ends {s t : Cursor} (h : Ends (lineBreak <|> lineEnd) s t) :
    s.rest.head?.all Text.endsLine = true ∧ SkipsTo s.rest t.rest := by
  rcases h with hbreak | ⟨rfl, hend⟩
  · obtain ⟨c, cs, hconsumes, hcs⟩ := exists_consumes_lineBreak hbreak
    rw [hconsumes.1]
    exact ⟨by simpa using hcs c List.mem_cons_self,
      .of_isSpace (fun d hd => Text.isSpace_of_endsLine (hcs d hd)) t.rest⟩
  · refine ⟨?_, .refl _⟩
    rw [Cursor.isLineEnd, Bool.or_eq_true, beq_iff_eq, beq_iff_eq] at hend
    obtain hrest | hrest := hend <;> rw [hrest] <;> rfl

/-- The rest of a line has no line break in it and goes on to the end of the line. -/
theorem exists_body_of_restOfLine {s t : Cursor} (h : restOfLine.run s some = some t) :
    ∃ body cs, s.rest = body ++ cs ∧ (∀ c ∈ body, Text.endsLine c = false) ∧
      cs.head?.all Text.endsLine = true ∧ SkipsTo cs t.rest := by
  obtain ⟨before, rest⟩ := s
  let k := fun u : Cursor => (lineBreak <|> lineEnd).run u some
  change manyReluctant (· != '\n') k before rest = some t at h
  have here {u : Cursor} (hu : k u = some t) :
      u.rest.head?.all Text.endsLine = true ∧ SkipsTo u.rest t.rest := by
    obtain ⟨v, hv, hk⟩ := run_sound hu
    exact endsLine_of_ends (Option.some.inj hk ▸ hv)
  induction rest generalizing before with
  | nil => exact ⟨[], [], rfl, by simp, (here h).1, (here h).2⟩
  | cons c cs ih =>
    rw [manyReluctant] at h
    cases hk : k ⟨before, c :: cs⟩ with
    | some u =>
      rw [hk] at h
      have hu := here (hk.trans h)
      exact ⟨[], c :: cs, rfl, by simp, hu.1, hu.2⟩
    | none =>
      rw [hk] at h
      have hlater : (if (c != '\n') = true then manyReluctant (· != '\n') k (some c) cs else none) =
        some t := h
      split at hlater
      · obtain ⟨body, after, hcs, hbody, hafter⟩ := ih (some c) hlater
        refine ⟨c :: body, after, congrArg (c :: ·) hcs, List.forall_mem_cons.mpr ⟨?_, hbody⟩,
          hafter⟩
        by_contra hbreak
        have hends := ends_lineBreak (Bool.not_eq_false _ ▸ hbreak) before cs
        have hsome : (k ⟨before, c :: cs⟩).isSome := run_complete (.inl hends) rfl
        rw [hk] at hsome
        cases hsome
      · cases hlater

/-- A mark, text that is taken up to its end, and the rest of the line are a comment. -/
theorem skips_comment {p : Pattern}
    (hp : ∀ s m, Ends p s m → ∃ mark ∈ ["--".toList, "# ".toList], ∃ more,
      (∀ c ∈ more, Text.endsLine c = false) ∧ Consumes s (mark ++ more) m) :
    Skips (p ++ restOfLine) := by
  intro s t h
  obtain ⟨m, hm, hline⟩ := run_sound (p := p) (k := fun u => restOfLine.run u some) h
  obtain ⟨mark, hmark, more, hmore, hconsumes⟩ := hp s m hm
  obtain ⟨body, cs, hrest, hbody, hcs, hskips⟩ := exists_body_of_restOfLine hline
  rw [hconsumes.1, hrest, ← List.append_assoc, List.append_assoc mark]
  refine .lineComment hmark (fun c hc => ?_) hcs hskips
  exact (List.mem_append.mp hc).elim (hmore c) (hbody c)

/-- A line comment begins with one of two marks. -/
theorem exists_mark_of_lineCommentStart {s t : Cursor} (h : Ends lineCommentStart s t) :
    ∃ mark ∈ ["--".toList, "# ".toList], Consumes s mark t := by
  rcases h with h | h
  · exact ⟨_, List.mem_cons_self, consumes_of_ends_text (by decide) h⟩
  · exact ⟨_, List.mem_cons_of_mem _ List.mem_cons_self, consumes_of_ends_text (by decide) h⟩

/-- Line comments are skipped. -/
theorem skips_lineComment : Skips (lineCommentStart ++ restOfLine) := by
  refine skips_comment fun s m hm => ?_
  obtain ⟨mark, hmark, hconsumes⟩ := exists_mark_of_lineCommentStart hm
  exact ⟨mark, hmark, [], by simp, by rwa [List.append_nil]⟩

/-- Line hints are skipped. -/
theorem skips_lineHint : Skips (lineCommentStart ++ letter '+' ++ restOfLine) := by
  refine skips_comment fun s m hm => ?_
  obtain ⟨l, hstart, hplus⟩ := hm
  obtain ⟨mark, hmark, hconsumes⟩ := exists_mark_of_lineCommentStart hstart
  obtain ⟨c, hc, hlast⟩ := takes_iff.mp hplus
  rw [Text.sameLetter_of_not_alpha (by decide) rfl, beq_iff_eq] at hc
  exact ⟨mark, hmark, [c], by rw [← hc]; decide, hconsumes.append hlast⟩

/-- The rules skip nothing but white space and comments. -/
theorem skips_rules : ∀ rule ∈ rules, ∀ cs, (rule.kind cs).isSkipped = true →
    Skips rule.pattern := by
  have tokens {kind : LexemeKind} {p : Pattern} (hkind : kind.isSkipped = false) :
      ∀ cs, ((always kind p).kind cs).isSkipped = true → Skips p := by
    intro cs h
    rw [always, hkind] at h
    cases h
  unfold rules
  simp only [List.forall_mem_cons]
  repeat' first
    | apply And.intro
    | exact tokens rfl
  · exact fun _ _ => skips_lineHint
  · exact fun _ _ => skips_lineComment
  · refine fun _ _ => skips_of_consumes fun s t h => ?_
    obtain ⟨c, cs, hconsumes, hcs⟩ := exists_consumes_lineBreak h
    exact ⟨c :: cs, hconsumes, fun d hd => Text.isSpace_of_endsLine (hcs d hd)⟩
  · refine fun _ _ => skips_of_consumes fun s t h => ?_
    obtain ⟨c, hc, hconsumes⟩ := takes_iff.mp h
    exact ⟨[c], hconsumes, by simpa using hc⟩
  · intro cs h
    change (wordKind cs).isSkipped = true at h
    rcases wordKind_cases cs with hkind | hkind | hkind <;> rw [hkind] at h <;> cases h
  · exact fun _ h => absurd h List.not_mem_nil

/-- Block comments are skipped. -/
theorem skipsTo_of_blockComment? {cs : List Char} {kind : LexemeKind} {n : Nat}
    (h : blockComment? cs = some (kind, n)) : SkipsTo cs (cs.drop n) := by
  have closed (mark : List Char) {cs : List Char} {m : Nat} (hmark : ∀ body : List Char,
      ¬ ['*', '/'] <:+: body → ¬ ['*', '/'] <:+: mark ++ body)
      (hm : Text.throughFirst? ['*', '/'] cs = some m) :
      SkipsTo (['/', '*'] ++ mark ++ cs)
        ((['/', '*'] ++ mark ++ cs).drop (m + (mark.length + 2))) := by
    obtain ⟨body, after, rfl, rfl, hbody⟩ := Text.throughFirst?_eq_some (by decide) hm
    have hcs : ['/', '*'] ++ mark ++ (body ++ ['*', '/'] ++ after) =
        ['/', '*'] ++ (mark ++ body) ++ ['*', '/'] ++ after := by simp
    have hn : (body ++ ['*', '/']).length + (mark.length + 2) =
        (['/', '*'] ++ (mark ++ body) ++ ['*', '/']).length := by
      simp only [List.length_append, List.length_cons, List.length_nil]
      omega
    rw [hcs, hn, List.drop_left]
    exact .blockComment (hmark body hbody) (.refl after)
  unfold blockComment? at h
  split at h
  · obtain ⟨m, hm, heq⟩ := Option.map_eq_some_iff.mp h
    obtain ⟨-, rfl⟩ := Prod.mk.injEq .. ▸ heq
    refine closed ['+'] (fun body hbody hinfix => ?_) hm
    rcases List.infix_cons_iff.mp hinfix with hhere | hlater
    · exact absurd (List.cons_prefix_cons.mp hhere).1 (by decide)
    · exact hbody hlater
  · obtain ⟨m, hm, heq⟩ := Option.map_eq_some_iff.mp h
    obtain ⟨-, rfl⟩ := Prod.mk.injEq .. ▸ heq
    exact closed [] (fun _ hbody => hbody) hm
  · cases h

/-- A lexeme that is skipped is white space or a comment. -/
theorem skipsTo_of_isSkipped {s : Cursor} (h : (lexeme s).1.isSkipped = true) :
    SkipsTo s.rest (s.advance (lexeme s).2).rest := by
  rcases lexeme_cases s with hkind | hkind | ⟨-, hcomment⟩ | ⟨rule, hrule, n, hn, hlexeme⟩
  · rw [hkind] at h
    cases h
  · rw [hkind] at h
    cases h
  · rw [Cursor.advance_rest]
    exact skipsTo_of_blockComment? hcomment
  · rw [hlexeme] at h ⊢
    exact skips_rules rule hrule _ h _ _ (exists_end_of_length? hn)

/-! ## The tokens of a lexeme -/

/-- A token is read off a part of a text: it is the part as it stands, which has no white space in
it if the token is a word, or the name that the quotes chosen by the first character enclose. -/
structure Token.IsReadFrom (t : Token) (source : List Char) : Prop where
  value : t.kind ≠ .quoted → t.value.toList = source
  word : t.kind = .word → ∀ c ∈ source, Text.isSpace c = false
  quoted : t.kind = .quoted → ∃ opening closing, source.head? = some opening ∧
    closingQuote? opening = some closing ∧ t.value.toList = unquote source opening closing

/-- Tokens tile the part of a text between two indices: they follow each other, each is read off
its span, and all else in the part is white space and comments. -/
def Tiles (text : List Char) : Nat → Nat → List Token → Prop
  | low, high, [] => low ≤ high ∧ SkipsTo (text.drop low) (text.drop high)
  | low, high, t :: ts =>
    low ≤ t.start ∧ t.start < t.stop ∧ SkipsTo (text.drop low) (text.drop t.start) ∧
      t.IsReadFrom (slice text t.start t.stop) ∧ Tiles text t.stop high ts

namespace Tiles

variable {text : List Char} {low mid high : Nat} {xs ys : List Token}

/-- Text that is skipped in front of a tiling belongs to its gaps. -/
theorem of_skipsTo (hle : low ≤ mid) (hskips : SkipsTo (text.drop low) (text.drop mid))
    (h : Tiles text mid high ys) : Tiles text low high ys := by
  cases ys with
  | nil => exact ⟨hle.trans h.1, hskips.trans h.2⟩
  | cons t ts => exact ⟨hle.trans h.1, h.2.1, hskips.trans h.2.2.1, h.2.2.2⟩

/-- Tilings of stretches that meet can be put together. -/
theorem append (hxs : Tiles text low mid xs) (hys : Tiles text mid high ys) :
    Tiles text low high (xs ++ ys) := by
  induction xs generalizing low with
  | nil => exact hys.of_skipsTo hxs.1 hxs.2
  | cons t ts ih =>
    obtain ⟨hlow, hlt, hskips, hread, hts⟩ := hxs
    exact ⟨hlow, hlt, hskips, hread, ih hts⟩

/-- The first tokens of several tile the text up to where the last of them stops. -/
theorem left (h : Tiles text low high (xs ++ ys)) : Tiles text low (stopAfter low xs) xs := by
  induction xs generalizing low with
  | nil => exact ⟨Nat.le_refl low, .refl _⟩
  | cons t ts ih =>
    obtain ⟨hlow, hlt, hskips, hread, hts⟩ := h
    exact ⟨hlow, hlt, hskips, hread, ih hts⟩

/-- The end of a tiling tiles the stretch behind its beginning. -/
theorem right (h : Tiles text low high (xs ++ ys)) : Tiles text (stopAfter low xs) high ys := by
  induction xs generalizing low with
  | nil => exact h
  | cons t ts ih => exact ih h.2.2.2.2

/-- Nothing in front of the first token belongs to what the tokens tile. -/
theorem of_head {t : Token} (h : Tiles text low high (t :: ys)) :
    Tiles text t.start high (t :: ys) :=
  ⟨Nat.le_refl _, h.2.1, .refl _, h.2.2.2⟩

end Tiles

/-- The stretch of tokens ends where the last one does. -/
theorem stopAfter_of_getLast? {ts : List Token} {last : Token} (h : ts.getLast? = some last)
    (low : Nat) : stopAfter low ts = last.stop := by
  induction ts generalizing low with
  | nil => cases h
  | cons t ts ih =>
    cases ts with
    | nil =>
      obtain rfl := Option.some.inj h
      rfl
    | cons u us => exact ih h t.stop

/-- The end of two rows is that of the second behind the end of the first. -/
theorem stopAfter_append (low : Nat) (xs ys : List Token) :
    stopAfter low (xs ++ ys) = stopAfter (stopAfter low xs) ys := by
  induction xs generalizing low with
  | nil => rfl
  | cons t ts ih => exact ih t.stop

/-- A token that is a lexeme as a whole tiles it. -/
theorem tiles_singleton {text : List Char} {t : Token} {source after : List Char}
    (htext : text.drop t.start = source ++ after) (hne : source ≠ [])
    (hstop : t.stop = t.start + source.length) (hread : t.IsReadFrom source) :
    Tiles text t.start t.stop [t] := by
  have hpos := List.length_pos_iff.mpr hne
  have hslice : slice text t.start t.stop = source := by
    rw [hstop]
    exact slice_of_drop htext
  exact ⟨Nat.le_refl _, by omega, .refl _, hslice ▸ hread, Nat.le_refl _, .refl _⟩

/-- The words of a lexeme tile it. -/
theorem tiles_wordTokens {text after : List Char} (index : Nat) (cs : List Char)
    (htext : text.drop index = cs ++ after) :
    Tiles text index (index + cs.length) (wordTokens index cs) := by
  induction cs using words_induction generalizing index with
  | nil => exact ⟨Nat.le_refl _, .refl _⟩
  | space c cs hc ih =>
    have hnext : text.drop (index + 1) = cs ++ after := @drop_of_drop _ [c] _ _ htext
    rw [wordTokens_space index hc, List.length_cons, ← Nat.add_assoc, Nat.add_right_comm]
    refine (ih (index + 1) hnext).of_skipsTo (Nat.le_succ index) ?_
    rw [htext, hnext]
    exact .blank hc (.refl _)
  | word word rest hne hword hrest ih =>
    rw [List.append_assoc] at htext
    rw [wordTokens_append hne hword hrest, List.length_append, ← Nat.add_assoc]
    have hread : Token.IsReadFrom ⟨.word, String.ofList word, index, index + word.length⟩ word :=
      { value := fun _ => String.toList_ofList
        word := fun _ => hword
        quoted := nofun }
    exact (tiles_singleton htext hne rfl hread).append (ih _ (drop_of_drop htext))

/-- The tokens of a lexeme tile it, if it is white space or a comment where it is skipped. -/
theorem tiles_tokens {text after : List Char} {index : Nat} {l : Lexeme}
    (htext : text.drop index = l.text ++ after) (hne : l.text ≠ [])
    (hskips : l.kind.isSkipped = true → SkipsTo (l.text ++ after) after) :
    Tiles text index (index + l.text.length) (l.tokens index) := by
  rcases l.tokens_cases index with ⟨hkind, h⟩ | ⟨kind, hword, hquoted, h⟩ |
    ⟨opening, closing, -, hopening, hclosing, h⟩ | ⟨-, h⟩
  · rw [h]
    refine ⟨Nat.le_add_right _ _, ?_⟩
    rw [htext, drop_of_drop htext]
    exact hskips hkind
  · have hread : Token.IsReadFrom
        ⟨kind, String.ofList l.text, index, index + l.text.length⟩ l.text :=
      { value := fun _ => String.toList_ofList
        word := fun hkind => absurd hkind hword
        quoted := fun hkind => absurd hkind hquoted }
    rw [h]
    exact tiles_singleton htext hne rfl hread
  · have hread : Token.IsReadFrom ⟨.quoted, String.ofList (unquote l.text opening closing), index,
        index + l.text.length⟩ l.text :=
      { value := fun hkind => absurd rfl hkind
        word := nofun
        quoted := fun _ => ⟨opening, closing, hopening, hclosing, String.toList_ofList⟩ }
    rw [h]
    exact tiles_singleton htext hne rfl hread
  · rw [h]
    exact tiles_wordTokens index l.text htext

/-! ## The tokens of a text -/

/-- The tokens of the lexemes from a place on tile the rest of the text. -/
theorem tiles_tokensFrom {text : List Char} {index : Nat} {s : Cursor}
    (hs : text.drop index = s.rest) (hindex : index ≤ text.length) :
    Tiles text index text.length (tokensFrom index (lexemesAt s)) := by
  induction s using lexemes_induction generalizing index with
  | nil before =>
    have hlength := congrArg List.length hs
    rw [List.length_drop] at hlength
    obtain rfl : index = text.length := Nat.le_antisymm hindex (Nat.sub_eq_zero_iff_le.mp hlength)
    exact ⟨Nat.le_refl _, .refl _⟩
  | next s hempty ih =>
    let l : Lexeme := ⟨(lexeme s).1, s.rest.take (lexeme s).2⟩
    have hafter : s.rest = l.text ++ (s.advance (lexeme s).2).rest := by
      rw [Cursor.advance_rest, List.take_append_drop]
    have htext : text.drop index = l.text ++ (s.advance (lexeme s).2).rest := hs.trans hafter
    have hl : l ∈ lexemesAt s := by
      rw [lexemesAt_cons hempty]
      exact List.mem_cons_self
    have hne := text_ne_nil hl
    have hpos := List.length_pos_iff.mpr hne
    have hlength := congrArg List.length htext
    rw [List.length_drop, List.length_append] at hlength
    rw [lexemesAt_cons hempty, tokensFrom]
    refine (tiles_tokens htext hne fun hkind => ?_).append (ih (drop_of_drop htext) (by omega))
    rw [← hafter]
    exact skipsTo_of_isSkipped hkind

/-- A pattern that must take some text begins every sequence that it comes first in. -/
theorem mayTake_append {p : Pattern} (hskip : p.maySkip = false) (q : Pattern) (c : Char) :
    (p ++ q).mayTake c = p.mayTake c := by
  change (p.mayTake c || (p.maySkip && q.mayTake c)) = p.mayTake c
  rw [hskip, Bool.false_and, Bool.or_false]

/-- The rules for quoted names begin with the quote. -/
theorem first_of_quotedName : ∀ rule ∈ rules, ∀ cs, rule.kind cs = .quotedName →
    ∀ c, rule.pattern.mayTake c = true → c = '"' := by
  have other {kind : LexemeKind} {p : Pattern} (hkind : (kind == .quotedName) = false) :
      ∀ cs, (always kind p).kind cs = .quotedName → ∀ c, p.mayTake c = true → c = '"' := by
    intro cs h
    have heq : kind = .quotedName := h
    rw [heq] at hkind
    cases hkind
  have hquote {c : Char} (hc : (letter '"').mayTake c = true) : c = '"' := by
    have hsame : Text.sameLetter '"' c = true := hc
    rw [Text.sameLetter_of_not_alpha (by decide) rfl, beq_iff_eq] at hsame
    exact hsame.symm
  unfold rules
  simp only [List.forall_mem_cons]
  repeat' first
    | apply And.intro
    | exact other rfl
  · intro _ _ c hc
    change (escapedQuotes '"').mayTake c = true at hc
    rw [escapedQuotes, mayTake_append rfl, mayTake_append rfl] at hc
    exact hquote hc
  · intro _ _ c hc
    rcases Bool.or_eq_true_iff.mp hc with hc | hc
    · change (letter '"' ++ (letter '"' ++ empty)).mayTake c = true at hc
      rw [mayTake_append rfl] at hc
      exact hquote hc
    · rw [mayTake_append rfl, mayTake_append rfl, mayTake_append rfl] at hc
      exact hquote hc
  · intro cs h
    change wordKind cs = .quotedName at h
    rcases wordKind_cases cs with hkind | hkind | hkind <;> rw [hkind] at h <;> cases h
  · exact fun _ h => absurd h List.not_mem_nil

/-- A quoted name begins with the quote. -/
theorem head?_of_quotedName {s : Cursor} {l : Lexeme} (h : l ∈ lexemesAt s)
    (hkind : l.kind = .quotedName) : l.text.head? = some '"' := by
  obtain ⟨t, ht, rfl⟩ := exists_place_of_mem h
  change (lexeme t).1 = .quotedName at hkind
  rcases lexeme_cases t with h | h | ⟨h, -⟩ | ⟨rule, hrule, n, hn, hlexeme⟩
  · rw [hkind] at h
    cases h
  · rw [hkind] at h
    cases h
  · rw [hkind] at h
    rcases h with h | h <;> cases h
  · rw [hlexeme] at hkind ⊢
    obtain ⟨hends, -⟩ := ends_of_length? hn
    obtain ⟨-, hskip⟩ | ⟨c, cs, hrest, hc⟩ := hends.beginning
    · rw [maySkip_rules rule hrule] at hskip
      cases hskip
    · obtain rfl := first_of_quotedName rule hrule _ hkind c hc
      obtain ⟨m, rfl⟩ := Nat.exists_eq_succ_of_ne_zero (Nat.ne_of_gt (length?_pos hrule hn))
      dsimp only
      rw [hrest, List.take_succ_cons, List.head?_cons]

/-- The tokens of a text tile it, and so does each stretch of them the part from the start of its
first token to the stop of its last one. The quotes of a quoted name are always found. -/
theorem tiles_tokenize (sql : String) :
    Tiles sql.toList 0 sql.toList.length (tokenize sql) ∧
    (∀ xs ms ys first last, tokenize sql = xs ++ ms ++ ys → ms.head? = some first →
      ms.getLast? = some last → Tiles sql.toList first.start last.stop ms) ∧
    ∀ l ∈ lexemes sql.toList, l.kind = .quotedName →
      ∃ opening closing, l.text.head? = some opening ∧ closingQuote? opening = some closing := by
  have htiles : Tiles sql.toList 0 sql.toList.length (tokenize sql) :=
    tiles_tokensFrom (s := Cursor.start sql.toList) rfl (Nat.zero_le _)
  refine ⟨htiles, ?_, fun l hl hkind => ?_⟩
  · intro xs ms ys first last hsplit hfirst hlast
    obtain ⟨ms, rfl⟩ := List.head?_eq_some_iff.mp hfirst
    rw [hsplit] at htiles
    have hstretch := htiles.left.right.of_head
    rwa [stopAfter_append, stopAfter_of_getLast? hlast] at hstretch
  · have hplace : l ∈ lexemesAt (Cursor.start sql.toList) := hl
    exact ⟨'"', '"', head?_of_quotedName hplace hkind, rfl⟩

end Sql

end EntityMapper
