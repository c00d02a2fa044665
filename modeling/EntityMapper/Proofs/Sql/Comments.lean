import EntityMapper.Proofs.Naming.Identifiers
import EntityMapper.Proofs.Pattern.Lookbehind
import EntityMapper.Proofs.Sql.Edits

/-!
# Comments between tokens

A block comment next to white space leaves the tokens as they are, so the table that is read is the
same but for the declared types that the comment stands in.
-/

namespace EntityMapper.Sql

open Pattern Schema Text

/-! ## Characters that no rule looks back for -/

/-- Whether no lexical rule tells a character from others like it when it stands in front of the
place where the rule is tried. -/
def isUnheeded (c : Char) : Bool :=
  !(isWord c || ['.', ']', ')', '"', '$'].contains c)

/-- White space is not heeded by any rule that looks back. -/
theorem isUnheeded_of_isSpace {c : Char} (h : isSpace c = true) : isUnheeded c = true := by
  have hmarks : ∀ d ∈ ['.', ']', ')', '"', '$'], isSpace d = false := by decide
  rw [isUnheeded, isWord_of_isSpace h, Bool.false_or, Bool.not_eq_true', List.contains_eq_mem,
    decide_eq_false_iff_not]
  intro hc
  rw [hmarks c hc] at h
  cases h

section

variable {before before' : Option Char}

/-- Characters that rules look back for do not stand in front of a place where no such one does. -/
theorem any_of_unheeded {accepts : Char → Bool} (h : before.all isUnheeded = true)
    (haccepts : ∀ c, accepts c = true → isUnheeded c = false) : before.any accepts = false := by
  cases before with
  | none => rfl
  | some c =>
    have hc : isUnheeded c = true := h
    rw [Option.any_some, Bool.eq_false_iff]
    intro hmember
    rw [haccepts c hmember] at hc
    cases hc

/-- A character of a word is heeded. -/
private theorem heeded_of_isWord : ∀ c, isWord c = true → isUnheeded c = false := fun c hc => by
  simp [isUnheeded, hc]

/-- A dot is heeded. -/
private theorem heeded_dot : ∀ c, (c == '.') = true → isUnheeded c = false := fun c hc => by
  rw [beq_iff_eq.mp hc]
  decide

/-- What may not stand in front of a name in brackets is heeded. -/
private theorem heeded_bracket :
    ∀ c, (isWord c || c == ']' || c == ')') = true → isUnheeded c = false := fun c hc => by
  simp only [Bool.or_eq_true, beq_iff_eq] at hc
  rcases hc with (hc | rfl) | rfl
  · exact heeded_of_isWord c hc
  · decide
  · decide

/-- What may not stand in front of a dollar quote is heeded. -/
private theorem heeded_dollar :
    ∀ c, (isWord c || c == '"' || c == '$') = true → isUnheeded c = false := fun c hc => by
  simp only [Bool.or_eq_true, beq_iff_eq] at hc
  rcases hc with (hc | rfl) | rfl
  · exact heeded_of_isWord c hc
  · decide
  · decide

/-- No rule tells two characters apart that are not heeded. -/
theorem testsAlike_rules (h : before.all isUnheeded = true)
    (h' : before'.all isUnheeded = true) :
    ∀ rule ∈ rules, rule.pattern.testsAlike before before' = true := by
  have hplaceholder : (notBehind isWord ++ oneOf "$:?" ++ oneOrMore isWord).testsAlike before
      before' = true := by
    change ((((!before.any isWord) == (!before'.any isWord)) && true) && true) = true
    rw [any_of_unheeded h heeded_of_isWord, any_of_unheeded h' heeded_of_isWord]
    rfl
  have hmember : (behind (·.any (· == '.')) ++ one isNameStart ++ zeroOrMore isWord).testsAlike
      before before' = true := by
    change (((before.any (· == '.') == before'.any (· == '.')) && true) && true) = true
    rw [any_of_unheeded h heeded_dot, any_of_unheeded h' heeded_dot]
    rfl
  have hbracketed : (notBehind (fun c => isWord c || c == ']' || c == ')') ++ letter '[' ++
      oneOrMore (fun c => c != ']' && c != '[') ++ letter ']').testsAlike before before' =
        true := by
    change (((((!before.any fun c => isWord c || c == ']' || c == ')') ==
      (!before'.any fun c => isWord c || c == ']' || c == ')')) && true) && true) && true) = true
    rw [any_of_unheeded h heeded_bracket, any_of_unheeded h' heeded_bracket]
    rfl
  unfold rules
  simp only [List.forall_mem_cons]
  repeat' first
    | apply And.intro
    | exact rfl
    | assumption
  exact List.forall_mem_nil _

/-- The delimiter of a dollar quote does not tell them apart either. -/
private theorem testsAlike_dollarDelimiter (h : before.all isUnheeded = true)
    (h' : before'.all isUnheeded = true) :
    dollarDelimiter.testsAlike before before' = true := by
  change (((((!before.any fun c => isWord c || c == '"' || c == '$') ==
    (!before'.any fun c => isWord c || c == '"' || c == '$')) && true) && true) && true) = true
  rw [any_of_unheeded h heeded_dollar, any_of_unheeded h' heeded_dollar]
  rfl

/-- The lexeme at a place does not hang on what stands in front of it that is not looked for. -/
theorem lexeme_of_unheeded [DelimiterForm] (h : before.all isUnheeded = true)
    (h' : before'.all isUnheeded = true) (cs : List Char) :
    lexeme ⟨before, cs⟩ = lexeme ⟨before', cs⟩ := by
  have hdollar : dollarQuoted? ⟨before, cs⟩ = dollarQuoted? ⟨before', cs⟩ := by
    rw [dollarQuoted?, dollarQuoted?, length?_of_testsAlike (testsAlike_dollarDelimiter h h')]
  have hruled : ruled? ⟨before, cs⟩ = ruled? ⟨before', cs⟩ :=
    ruled?_congr (fun rule hrule => length?_of_testsAlike (testsAlike_rules h h' rule hrule) cs)
      fun _ _ _ => rfl
  rw [lexeme, lexeme, hdollar, hruled]

/-- The lexemes from a place on are the same behind two characters if the first one is. -/
theorem lexemesAt_congr [DelimiterForm] {cs : List Char}
    (h : lexeme ⟨before, cs⟩ = lexeme ⟨before', cs⟩) :
    lexemesAt ⟨before, cs⟩ = lexemesAt ⟨before', cs⟩ := by
  rcases cs with _ | ⟨e, cs⟩
  · rfl
  · rw [@lexemesAt_cons _ ⟨before, e :: cs⟩ (List.cons_ne_nil e cs),
      @lexemesAt_cons _ ⟨before', e :: cs⟩ (List.cons_ne_nil e cs), h]
    have hpos := lexeme_pos ⟨before', e :: cs⟩
    obtain ⟨n, hn⟩ := Nat.exists_eq_succ_of_ne_zero (Nat.ne_of_gt hpos)
    rw [hn, Cursor.advance_cons, Cursor.advance_cons]

/-- The tokens from a place on do not hang on what stands in front of it that is not looked for. -/
theorem tokensAt_of_unheeded [DelimiterForm] (h : before.all isUnheeded = true)
    (h' : before'.all isUnheeded = true) (index : Nat) (cs : List Char) :
    tokensAt index ⟨before, cs⟩ = tokensAt index ⟨before', cs⟩ := by
  rw [tokensAt, tokensAt, lexemesAt_congr (lexeme_of_unheeded h h' cs)]

end

/-! ## The lexeme of a comment -/

/-- A text between the marks of a block comment. -/
def inComment (body : List Char) : List Char :=
  ['/', '*'] ++ body ++ ['*', '/']

/-- A comment ends with a slash, whatever stands in front of it. -/
theorem getLast?_inComment (body : List Char) (before : Option Char) :
    (inComment body).getLast?.or before = some '/' := by
  rw [inComment, List.getLast?_append]
  rfl

/-- Whether a text can stand in a block comment that is no hint: it does not close the comment. -/
def isCommentBody (body : List Char) : Bool :=
  !occurs ['*', '/'] body && body.head? != some '+'

/-- A body without the closing mark is left right behind the first one. -/
theorem throughFirst?_closing {body : List Char} (h : occurs ['*', '/'] body = false)
    (rest : List Char) :
    throughFirst? ['*', '/'] (body ++ ['*', '/'] ++ rest) = some (body.length + 2) := by
  induction body with
  | nil => rfl
  | cons c body ih =>
    rw [occurs, throughFirst?] at h
    have hnone : ¬ ['*', '/'].isPrefixOf (c :: body) = true := by
      intro hprefix
      rw [if_pos hprefix] at h
      cases h
    rw [if_neg hnone, Option.isSome_map] at h
    have hnone' : ¬ ['*', '/'].isPrefixOf (c :: (body ++ ['*', '/'] ++ rest)) = true := by
      cases body with
      | nil => simp [List.isPrefixOf]
      | cons d body => simpa [List.isPrefixOf] using hnone
    rw [List.cons_append, List.cons_append, throughFirst?, if_neg hnone', ih h]
    rfl

/-- A block comment is one lexeme, whatever stands in it and around it. -/
theorem lexeme_inComment [DelimiterForm] {body : List Char} (hbody : isCommentBody body = true)
    (before : Option Char) (rest : List Char) :
    lexeme ⟨before, inComment body ++ rest⟩ = (.blockComment, (inComment body).length) := by
  rw [isCommentBody, Bool.and_eq_true, Bool.not_eq_true', bne_iff_ne] at hbody
  obtain ⟨hclosed, hhint⟩ := hbody
  have htext : inComment body ++ rest = '/' :: '*' :: (body ++ ['*', '/'] ++ rest) := by
    simp [inComment]
  have hdollar : dollarQuoted? ⟨before, inComment body ++ rest⟩ = none := by
    rw [htext, dollarQuoted?, Pattern.length?,
      Pattern.run_eq_none_of_first (by decide) (by decide)]
    rfl
  have hcomment : blockComment? (inComment body ++ rest) =
      some (.blockComment, (inComment body).length) := by
    have hplus : ['/', '*', '+'].isPrefixOf ('/' :: '*' :: (body ++ ['*', '/'] ++ rest)) =
        false := by
      cases body with
      | nil => rfl
      | cons c body =>
        have hc : ('+' == c) = false := by
          rw [beq_eq_false_iff_ne]
          rintro rfl
          exact hhint rfl
        simp [List.isPrefixOf, hc]
    have hstar : ['/', '*'].isPrefixOf ('/' :: '*' :: (body ++ ['*', '/'] ++ rest)) = true := rfl
    rw [htext, blockComment?_eq, hplus, hstar, if_neg Bool.false_ne_true, if_pos rfl]
    change (throughFirst? ['*', '/'] (body ++ ['*', '/'] ++ rest)).map _ = _
    rw [throughFirst?_closing hclosed, inComment]
    simp
  rw [lexeme, hdollar, hcomment]
  exact Prod.ext rfl (Nat.max_eq_left (by simp [inComment]))

/-! ## A comment next to white space -/

/-- A comment put between two parts of a text. -/
def commentEdit (front body back : List Char) : Edit :=
  ⟨front, [], inComment body, back⟩

/-- Whether white space stands at the place between two parts of a text. -/
def isSpaced (front back : List Char) : Bool :=
  front.getLast?.any isSpace || back.head?.any isSpace

variable {front body back : List Char}

/-- A comment yields no tokens. -/
theorem tokensAt_inComment [DelimiterForm] (hbody : isCommentBody body = true) (index : Nat)
    (before : Option Char) (rest : List Char) :
    tokensAt index ⟨before, inComment body ++ rest⟩ =
      tokensAt (index + (inComment body).length) ⟨some '/', rest⟩ := by
  rw [tokensAt_append (by simp [inComment]) (lexeme_inComment hbody _ rest) index,
    tokens_of_isSkipped rfl, List.nil_append, getLast?_inComment]

/-- The lexemes behind a place next to white space are those behind a comment. -/
theorem lexemesAt_of_isSpaced [DelimiterForm] (hplace : isSpaced front back = true) :
    lexemesAt ⟨some '/', back⟩ = lexemesAt ⟨front.getLast?, back⟩ := by
  rw [isSpaced, Bool.or_eq_true, Option.any_eq_true, Option.any_eq_true] at hplace
  refine lexemesAt_congr ?_
  obtain ⟨c, hc, hspace⟩ | ⟨c, hc, hspace⟩ := hplace
  · have hslash : (some '/').all isUnheeded = true := by decide
    have hc' : (some c).all isUnheeded = true := isUnheeded_of_isSpace hspace
    rw [hc, lexeme_of_unheeded hslash hc']
  · obtain ⟨cs, rfl⟩ := List.head?_eq_some_iff.mp hc
    obtain ⟨kind, -, h | ⟨-, -, -, h⟩⟩ := lexeme_of_isSpace hspace cs
    · rw [h, h]
    · rw [h, h]

/-- The tokens of what stands behind white space are the same with a comment in front of it. -/
theorem tokensAt_of_isSpaced [DelimiterForm] (hbody : isCommentBody body = true)
    (hplace : isSpaced front back = true) (index : Nat) :
    tokensAt index ⟨front.getLast?, inComment body ++ back⟩ =
      tokensAt (index + (inComment body).length) ⟨front.getLast?, back⟩ := by
  rw [tokensAt_inComment hbody, tokensAt, lexemesAt_of_isSpaced hplace, tokensAt]

/-- White space is a barrier for keywords in upper case too. -/
theorem exists_upperChar_of_isSpace {c : Char} (hc : isSpace c = true) {keyword : String}
    (hkeyword : keyword ∈ JavaType.keywords) :
    ∃ d, upperChar c = [d] ∧ d ∉ keyword.toList := by
  have hletters : ∀ keyword ∈ JavaType.keywords, ∀ d ∈ keyword.toList,
      isSpace d = false ∧ d.toNat < 128 := by decide
  have hword := isWord_of_isSpace hc
  rw [isWord, Bool.or_eq_false_iff] at hword
  obtain ⟨d, hupper, -, hd⟩ := Naming.upperChar_of_not_alphanumeric hword.2
  refine ⟨d, hupper, fun hmem => ?_⟩
  obtain ⟨hspace, hascii⟩ := hletters keyword hkeyword d hmem
  rcases hd with rfl | ⟨-, hnot⟩
  · rw [hc] at hspace
    cases hspace
  · exact hnot hascii

/-- No type keyword occurs in the empty text. -/
theorem not_occurs_nil : ∀ keyword ∈ JavaType.keywords, occurs keyword.toList [] = false := by
  decide

/-- No keyword goes across a place where white space stands. -/
theorem occurs_of_isSpaced {keyword : String} (hkeyword : keyword ∈ JavaType.keywords)
    {xs ys : List Char} (hxs : xs <:+ front) (hys : ys <+: back)
    (hplace : isSpaced front back = true) :
    occurs keyword.toList (upper (xs ++ ys)) =
      (occurs keyword.toList (upper xs) || occurs keyword.toList (upper ys)) := by
  have hnone := not_occurs_nil keyword hkeyword
  rw [isSpaced, Bool.or_eq_true, Option.any_eq_true, Option.any_eq_true] at hplace
  rw [upper_append]
  obtain ⟨c, hc, hspace⟩ | ⟨c, hc, hspace⟩ := hplace
  · obtain ⟨d, hupper, hd⟩ := exists_upperChar_of_isSpace hspace hkeyword
    rcases List.eq_nil_or_concat xs with rfl | ⟨xs, e, rfl⟩
    · rw [upper_nil, hnone, List.nil_append, Bool.false_or]
    · obtain rfl : e = c := by
        obtain ⟨before, hbefore⟩ := hxs
        rw [← hbefore, List.concat_eq_append, ← List.append_assoc, List.getLast?_concat] at hc
        exact Option.some.inj hc
      have hlast : upper [e] = [d] := by rw [upper_cons, hupper, upper_nil, List.append_nil]
      rw [List.concat_eq_append, upper_append, hlast, List.append_assoc, List.singleton_append,
        occurs_barrier hd, occurs_barrier hd, hnone, Bool.or_false]
  · obtain ⟨d, hupper, hd⟩ := exists_upperChar_of_isSpace hspace hkeyword
    rcases ys with _ | ⟨e, ys⟩
    · rw [upper_nil, hnone, List.append_nil, Bool.or_false]
    · obtain rfl : e = c := by
        obtain ⟨after, hafter⟩ := hys
        rw [← hafter] at hc
        exact Option.some.inj hc
      have hback : occurs keyword.toList (d :: upper ys) = occurs keyword.toList (upper ys) := by
        rw [← List.nil_append (d :: upper ys), occurs_barrier hd, hnone, Bool.false_or]
      rw [upper_cons, hupper, List.singleton_append, occurs_barrier hd, hback]

/-- No keyword goes across the ends of a comment next to white space, and none across the place
where it is put. -/
theorem isEnclosed_commentEdit (hplace : isSpaced front back = true) :
    (commentEdit front body back).IsEnclosed := by
  have hslash : ∀ keyword ∈ JavaType.keywords, '/' ∉ keyword.toList := by decide
  intro keyword hkeyword part hpart xs ys hxs hys
  rcases List.mem_pair.mp hpart with rfl | rfl
  · rw [commentEdit, List.nil_append, upper_nil, not_occurs_nil keyword hkeyword, Bool.or_false]
    exact occurs_of_isSpaced hkeyword hxs hys hplace
  · have hcomment : (commentEdit front body back).new =
        '/' :: (('*' :: (body ++ ['*'])) ++ ['/']) := by
      simp [commentEdit, inComment]
    rw [hcomment]
    exact occurs_enclosed (hslash keyword hkeyword) (hslash keyword hkeyword) rfl rfl xs _ ys

/-! ## What is read from a statement with a comment -/

/-- Comments do not count: a comment next to white space leaves the table that a statement declares
the same, but for the declared types that it stands in and, if a keyword stands in it, for their
Java types.  The lexemes in front of it are settled by what stands there and by its first two
characters, or are words in both texts. -/
theorem tableOf?_commentEdit [DelimiterForm] (hplace : isSpaced front back = true)
    (hbody : isCommentBody body = true) (hfront : isSteady front back ['/', '*'] = true) :
    Option.Rel (fun found found' => (commentEdit front body back).TablesSameBut found.1 found'.1)
      (tableOf? (commentEdit front body back).text)
      (tableOf? (commentEdit front body back).edited) := by
  refine Edit.tableOf?_of_allAlike (isEnclosed_commentEdit hplace) ?_
  have hshares := sharesTokens_of_steadyFrom (by decide) hfront (body ++ ['*', '/'] ++ back)
  refine @Edit.allAlike_tokenize _ _ ?_ [] [] .nil front.getLast? rfl
    (tokensAt_of_isSpaced hbody hplace front.length)
  have hedited : inComment body ++ back = ['/', '*'] ++ (body ++ ['*', '/'] ++ back) := by
    simp [inComment]
  exact hedited ▸ hshares

end EntityMapper.Sql
