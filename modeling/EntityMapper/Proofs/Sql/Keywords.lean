import EntityMapper.Proofs.Pattern.Phrases
import EntityMapper.Proofs.Pattern.Sealing
import EntityMapper.Proofs.Text.CodePoints
import EntityMapper.Sql.Token

/-!
# How the rules read a letter

Where a letter comes next, a rule does not match, or it reads a word, or it reads a phrase of
keywords. The phrases are listed: behind the first word stand only words that no rule reads as
anything but words, wherever they stand.
-/

namespace EntityMapper.Sql

open Pattern Text

/-! ## Letters -/

/-- Whether a character counts as a letter from A to Z when case is ignored. -/
def isLetter (c : Char) : Bool :=
  'a' ≤ fold c && fold c ≤ 'z'

/-- The characters that count as letters from A to Z. -/
def letters : List Char :=
  ['a', 'b', 'c', 'd', 'e', 'f', 'g', 'h', 'i', 'j', 'k', 'l', 'm', 'n', 'o', 'p', 'q', 'r', 's',
   't', 'u', 'v', 'w', 'x', 'y', 'z', 'A', 'B', 'C', 'D', 'E', 'F', 'G', 'H', 'I', 'J', 'K', 'L',
   'M', 'N', 'O', 'P', 'Q', 'R', 'S', 'T', 'U', 'V', 'W', 'X', 'Y', 'Z', 'ı', 'İ', 'ſ', '\u212a']

/-- The list of letters has every letter. -/
theorem mem_letters {c : Char} (h : isLetter c = true) : c ∈ letters := by
  by_cases hascii : c.toNat < 128
  · exact forall_below (P := fun c => isLetter c = true → c ∈ letters) (by decide) hascii h
  · by_cases hlatin : c.toNat < 256
    · exact forall_below (P := fun c => ¬ c.toNat < 128 → isLetter c = true → c ∈ letters)
        (by decide +kernel) hlatin hascii h
    · have hge : ∀ d : Char, d.toNat < 256 → ¬ c ≤ d := fun d hd hle => by
        have : c.toNat ≤ d.toNat := hle
        omega
      rw [isLetter, fold, if_neg hascii, if_neg (by simp [hge])] at h
      split at h
      · rename_i hi
        have : c = 'ı' ∨ c = 'İ' := by simpa using hi
        rcases this with rfl | rfl <;> decide
      · split at h
        · rename_i hs
          subst hs
          decide
        · split at h
          · rename_i hk
            subst hk
            decide
          · split at h
            · exact absurd h (by decide)
            · exact absurd h (by simp [hge])

/-- Whether a word is spelled with letters and underscores, a letter first. -/
def isSpelling (word : String) : Bool :=
  word.toList.head?.any isLetter && word.toList.all fun d => isLetter d || d == '_'

/-- Letters that agree without case are letters alike. -/
theorem isLetter_of_sameLetter {d c : Char} (h : sameLetter d c = true) :
    isLetter c = isLetter d := by
  rw [isLetter, isLetter, ← beq_iff_eq.mp h]

/-- A letter is a character of a word. -/
theorem isWord_of_isLetter {c : Char} (h : isLetter c = true) : isWord c = true := by
  have hletters : ∀ c ∈ letters, isWord c = true := by decide +kernel
  exact hletters c (mem_letters h)

/-- A spelled word is made of word characters, the first of which is a letter. -/
theorem isWord_of_spelling {word : String} (hword : isSpelling word = true) {cs : List Char}
    (h : List.Forall₂ (fun d c => sameLetter d c = true) word.toList cs) :
    cs.head?.any isLetter = true ∧ ∀ c ∈ cs, isWord c = true := by
  rw [isSpelling, Bool.and_eq_true, List.all_eq_true] at hword
  obtain ⟨hfirst, hall⟩ := hword
  revert hfirst hall h
  generalize word.toList = ds
  intro h hfirst hall
  constructor
  · cases h with
    | nil => exact hfirst
    | cons hdc _ => exact (isLetter_of_sameLetter hdc).trans hfirst
  · clear hfirst
    induction h with
    | nil => exact fun c hc => absurd hc List.not_mem_nil
    | @cons d c ds cs hdc _ ih =>
      refine List.forall_mem_cons.mpr ⟨?_, ih fun e he => hall e (List.mem_cons_of_mem d he)⟩
      have hd := hall d List.mem_cons_self
      rw [Bool.or_eq_true, beq_iff_eq] at hd
      rcases hd with hd | rfl
      · exact isWord_of_isLetter ((isLetter_of_sameLetter hdc).trans hd)
      · rw [sameLetter_of_not_alpha (by decide) rfl] at hdc
        exact beq_iff_eq.mp hdc ▸ by decide

/-- Texts that agree without case fold alike. -/
theorem map_fold_of_sameLetters {ds cs : List Char}
    (h : List.Forall₂ (fun d c => sameLetter d c = true) ds cs) : ds.map fold = cs.map fold := by
  induction h with
  | nil => rfl
  | cons hdc _ ih => rw [List.map_cons, List.map_cons, beq_iff_eq.mp hdc, ih]

/-! ## Phrases of keywords -/

/-- The words that begin a lexeme of another sort: an operator, a time zone, the end of a batch. -/
def specialWords : List String :=
  ["AT", "WITH", "GO", "LIKE", "ILIKE", "RLIKE", "REGEXP"]

/-- Whether a text is one of the words without regard to case. -/
def isOneOf (words : List String) (cs : List Char) : Bool :=
  words.any fun word => word.toList.map fold == cs.map fold

/-- Texts that agree without case are among the same words. -/
theorem isOneOf_eq_of_sameLetters {ds cs : List Char}
    (h : List.Forall₂ (fun d c => sameLetter d c = true) ds cs) (words : List String) :
    isOneOf words cs = isOneOf words ds := by
  rw [isOneOf, isOneOf, map_fold_of_sameLetters h]

/-- A spelling of a word of the list is among its words. -/
theorem isOneOf_of_mem {words : List String} {word : String} (hmem : word ∈ words) {cs : List Char}
    (h : List.Forall₂ (fun d c => sameLetter d c = true) word.toList cs) :
    isOneOf words cs = true := by
  rw [isOneOf_eq_of_sameLetters h, isOneOf, List.any_eq_true]
  exact ⟨word, hmem, beq_self_eq_true _⟩

/-- Whether a word begins no lexeme of another sort, unless it is the word NOT. -/
def isPlainWord (word : String) : Bool :=
  isSpelling word && word.toList.head?.all (fold · != 'd') && !isOneOf specialWords word.toList

/-- Whether pieces go on a phrase with words that are read as words where they stand: the word NOT
is one in front of EXISTS. -/
def isTail : List Piece → Bool
  | [] => true
  | .gap :: .word word :: ps =>
    isPlainWord word && (!isOneOf ["NOT"] word.toList || ps == [.gap, .word "EXISTS"]) && isTail ps
  | _ => false

/-- Whether pieces are a phrase of keywords. -/
def isKeywords : List Piece → Bool
  | .word word :: ps => isSpelling word && isTail ps
  | _ => false

/-- The words that operators are made of. -/
def operatorWords : List String :=
  ["LIKE", "ILIKE", "RLIKE", "REGEXP"]

/-- Whether pieces are an operator, negated perhaps. -/
def isOperator : List Piece → Bool
  | .word "NOT" :: .gap :: .word word :: _ => operatorWords.contains word
  | [.word word] => operatorWords.contains word
  | .word word :: .gap :: _ => operatorWords.contains word
  | _ => false

/-- The words in front of another one, each with the gap behind it. -/
theorem speaks_leading (words : List String) :
    Speaks (leading words) (words.map fun word => [.word word, .gap]) := by
  fun_induction leading words with
  | case1 =>
    rintro s t ⟨c, hc, -⟩
    cases hc
  | case2 word => exact (speaks_text word).append speaks_blanks
  | case3 word words _ ih => exact ((speaks_text word).append speaks_blanks).orElse ih

/-- The words behind another one, each with the gap in front of it. -/
theorem speaks_trailing (words : List String) :
    Speaks (trailing words) (words.map fun word => [.gap, .word word]) := by
  fun_induction trailing words with
  | case1 =>
    rintro s t ⟨c, hc, -⟩
    cases hc
  | case2 word => exact speaks_blanks.append (speaks_text word)
  | case3 word words _ ih => exact (speaks_blanks.append (speaks_text word)).orElse ih

/-- How a rule reads a text that begins with a letter. -/
inductive LexicalRule.ReadsLetter (rule : LexicalRule) : Prop where
  /-- It does not match. -/
  | never (first : ∀ c ∈ letters, rule.pattern.mayTake c = false)
  /-- It reads a name, of word characters behind the first one. -/
  | name (kind : ∀ cs, (rule.kind cs).isWordLike = true)
      (takes : ∀ s t, Ends rule.pattern s t →
        ∃ cs, Consumes s cs t ∧ ∀ c ∈ cs.tail, isWord c = true)
  /-- It reads a phrase of keywords. -/
  | keywords (kind : ∀ cs, (rule.kind cs).isWordLike = true) (phrases : List (List Piece))
      (speaks : Speaks rule.pattern phrases) (spelled : phrases.all isKeywords = true)
  /-- It reads an operator. -/
  | operator (kind : ∀ cs, rule.kind cs = .operator) (phrases : List (List Piece))
      (speaks : Speaks rule.pattern phrases) (spelled : phrases.all isOperator = true)
      (seals : Seals rule.pattern)
  /-- It reads a lexeme that begins with a special word and no further letter. -/
  | special (begins : ∀ s t, Ends rule.pattern s t → ∃ word ∈ specialWords, ∃ m,
      Ends (text word) s m ∧ m.rest.head?.any isWord = false)
  /-- It reads a bare word. -/
  | bare (rule_eq : rule =
      ⟨one isWord ++ zeroOrMore fun c => c == '$' || c == '#' || isWord c, wordKind⟩)

/-- A character and a row of characters behind it are taken. -/
theorem exists_consumes_of_row {own accepts : Char → Bool} {s t : Cursor}
    (h : Ends (one own ++ zeroOrMore accepts) s t) :
    ∃ cs, Consumes s cs t ∧ ∀ c ∈ cs.tail, accepts c = true := by
  obtain ⟨m, hm, ht⟩ := h
  obtain ⟨c, -, hfirst⟩ := takes_iff.mp hm
  obtain ⟨cs, hcs, hrest⟩ := manyEnds_iff.mp ht
  exact ⟨c :: cs, hfirst.append hrest, hcs⟩

/-- How each rule reads a letter, by the form of its pattern. -/
theorem readsLetter_rules : ∀ rule ∈ rules, rule.ReadsLetter := by
  unfold rules
  simp only [List.forall_mem_cons]
  repeat' first
    | apply And.intro
    | exact .bare rfl
    | exact .keywords (fun _ => rfl) _ (speaks_phrase _) (by decide +kernel)
    | exact .keywords (fun _ => rfl) _ ((speaks_anyOf _).append speaks_wordEdge) (by decide +kernel)
    | (apply LexicalRule.ReadsLetter.never; decide +kernel)
  · refine .name (fun _ => rfl) fun s t ⟨m, hm, ht⟩ => ?_
    obtain rfl : t = m := ht.1
    exact exists_consumes_of_row hm
  · refine .name (fun _ => rfl) fun s t ⟨m, ⟨l, ⟨hl, _⟩, hm⟩, ht⟩ => ?_
    obtain rfl : l = s := hl
    exact exists_consumes_of_row ⟨m, hm, ht⟩
  · refine .name (fun _ => rfl) fun s t ⟨m, hm, ht⟩ => ?_
    obtain rfl : t = m := ht.1
    exact exists_consumes_of_row hm
  · exact .keywords (fun _ => rfl) _ ((((((speaks_leading _).optional.append
      (speaks_leading _).optional).orElse (speaks_leading _).optional).optional).append
        (speaks_text _)).append speaks_wordEdge) (by decide +kernel)
  · exact .keywords (fun _ => rfl) _ (((speaks_text _).append
      (speaks_trailing _).optional).append speaks_wordEdge) (by decide +kernel)
  · exact .keywords (fun _ => rfl) _ (((((speaks_text _).append speaks_blanks).append
      (speaks_leading _).optional).append (speaks_text _)).append speaks_wordEdge)
        (by decide +kernel)
  · exact .keywords (fun _ => rfl) _ (((speaks_anyOf _).append (((speaks_blanks.append
      (speaks_text _)).append speaks_blanks).append (speaks_anyOf _)).optional).append
        speaks_wordEdge) (by decide +kernel)
  · exact .keywords (fun _ => rfl) _ ((((speaks_text _).append speaks_blanks).append
      (speaks_anyOf _)).append speaks_wordEdge) (by decide +kernel)
  · exact .keywords (fun _ => rfl) _ (((speaks_text _).append (((speaks_blanks.append
      (speaks_text _)).append speaks_blanks).append (speaks_text _)).optional).append
        speaks_wordEdge) (by decide +kernel)
  · refine .special fun s t h => ?_
    obtain ⟨l, ⟨k, ⟨m, hm, hspace⟩, -⟩, -⟩ := h
    refine ⟨"GO", by decide, m, hm, ?_⟩
    obtain ⟨c, hc, hrest, -⟩ := hspace
    rw [hrest]
    exact isWord_of_isSpace hc
  · exact .keywords (fun _ => rfl) _ ((((((speaks_text _).append speaks_blanks).append
      (speaks_text _)).append speaks_blanks).append (speaks_anyOf _)).append speaks_wordEdge)
        (by decide +kernel)
  · refine .special fun s t h => ?_
    obtain ⟨q, ⟨p, ⟨o, ⟨n, ⟨l, ⟨k, ⟨j, ⟨m, hm, hblank⟩, -⟩, -⟩, -⟩, -⟩, -⟩, -⟩, -⟩ := h
    rcases hm with hm | ⟨m₁, h₁, m₂, h₂, m₃, h₃, m₄, h₄, m₅, ⟨c, hc, hrest, -⟩, -⟩
    · refine ⟨"AT", by decide, m, hm, ?_⟩
      obtain ⟨blank, hne, hblank, hrest, -⟩ := ends_oneOrMore.mp hblank
      obtain ⟨c, cs, rfl⟩ := List.exists_cons_of_ne_nil hne
      rw [hrest]
      exact isWord_of_isSpace (hblank c List.mem_cons_self)
    · refine ⟨"WITH", by decide, m₄, ⟨m₁, h₁, m₂, h₂, m₃, h₃, m₄, h₄, rfl⟩, ?_⟩
      have hquote : sameLetter '\x27' c = true := hc
      rw [sameLetter_of_not_alpha (by decide) rfl] at hquote
      rw [hrest, ← beq_iff_eq.mp hquote]
      rfl
  · exact .operator (fun _ => rfl) _ (((speaks_leading _).optional.append
      (speaks_anyOf _)).append speaks_wordEdge) (by decide +kernel) (seals_wordEdge.append _)
  · exact .operator (fun _ => rfl) _ ((((speaks_leading _).optional.append
      (speaks_text _)).append (speaks_trailing _).optional).append speaks_wordEdge)
        (by decide +kernel) (seals_wordEdge.append _)
  · exact fun _ h => absurd h List.not_mem_nil

end EntityMapper.Sql
