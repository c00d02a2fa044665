import EntityMapper.Proofs.Naming.Words
import EntityMapper.Proofs.Pattern.Consumption
import EntityMapper.Proofs.Sql.ColumnsAhead
import EntityMapper.Proofs.Text.CodePoints

/-!
# Names that begin with digits

A bare name that begins with one digit is one word, and a column item that begins with it is a
column of that name.  Of a name that begins with more digits all of them but the last are read as a
number, so an item that begins with it names no column and is passed over.
-/

namespace EntityMapper.Sql

open Pattern Text Schema

/-- A character of a bare name in ASCII. -/
def isBare (c : Char) : Bool :=
  c.isAlphanum || c == '_'

/-- A bare name that begins with digits and is not the beginning of a number in another notation. -/
structure DigitName where
  /-- The digits in front of the last one. -/
  leading : List Char
  /-- The last digit in front of the first letter or underscore. -/
  digit : Char
  /-- The first letter or underscore. -/
  head : Char
  tail : List Char
  leading_digits : ∀ d ∈ leading, d.isDigit = true
  digit_isDigit : digit.isDigit = true
  head_isBare : isBare head = true
  head_not_digit : head.isDigit = false
  head_not_exponent : head ∉ ['e', 'E']
  tail_isBare : ∀ c ∈ tail, isBare c = true
  not_hex : leading = [] → digit = '0' → head ∉ ['x', 'X']

namespace DigitName

variable (n : DigitName)

/-- The name from its last leading digit on. -/
def own : List Char :=
  n.digit :: n.head :: n.tail

/-- The characters of the name. -/
def text : List Char :=
  n.leading ++ n.own

/-- The name. -/
def name : String :=
  String.ofList n.text

end DigitName

/-! ## Characters of names -/

/-- What holds of the bare characters of ASCII holds of every bare character. -/
theorem forall_isBare {P : Char → Prop} (h : ∀ n : Fin 128, isBare (Char.ofNat n) = true →
    P (Char.ofNat n)) {c : Char} (hc : isBare c = true) : P c := by
  have hascii : c.toNat < 128 := by
    by_contra hnot
    have hscore : c ≠ '_' := by
      rintro rfl
      exact hnot (by decide)
    rw [isBare, isAlphanum_of_not_ascii hnot] at hc
    exact hscore (by simpa using hc)
  exact forall_below (P := fun c => isBare c = true → P c) h hascii hc

/-- A character of a bare name is a word character and no white space. -/
theorem isWord_of_isBare {c : Char} (hc : isBare c = true) : isWord c = true ∧ isSpace c = false :=
  forall_isBare (P := fun c => isWord c = true ∧ isSpace c = false) (by decide) hc

/-- A digit is a bare character. -/
theorem isBare_of_isDigit {d : Char} (hd : d.isDigit = true) : isBare d = true := by
  simp [isBare, Char.isAlphanum, hd]

namespace DigitName

variable (n : DigitName)

/-- A name goes on behind its digits with a character that ends them and may begin a name. -/
theorem endsRow_head : EndsRow n.head ∧ isNameHead n.head = true := by
  have hhead : n.head.isDigit = false → n.head ∉ ['e', 'E'] → (isDecimal n.head = false ∧
      ∀ q ∈ numberMarks, q ≠ 'x' → sameLetter q n.head = false) ∧ isNameHead n.head = true :=
    forall_isBare (P := fun c => c.isDigit = false → c ∉ ['e', 'E'] → (isDecimal c = false ∧
      ∀ q ∈ numberMarks, q ≠ 'x' → sameLetter q c = false) ∧ isNameHead c = true)
      (by decide +kernel) n.head_isBare
  obtain ⟨⟨hdecimal, hmark⟩, hname⟩ := hhead n.head_not_digit n.head_not_exponent
  exact ⟨⟨hdecimal, hmark⟩, hname⟩

/-- A first character that is `x` without case is `x` or `X`. -/
theorem head_of_sameLetter (h : sameLetter 'x' n.head = true) : n.head ∈ ['x', 'X'] :=
  forall_isBare (P := fun c => sameLetter 'x' c = true → c ∈ ['x', 'X']) (by decide +kernel)
    n.head_isBare h

theorem own_ne_nil : n.own ≠ [] :=
  List.cons_ne_nil _ _

/-- All characters of the own part are bare. -/
theorem isBare_of_mem_own : ∀ c ∈ n.own, isBare c = true := by
  rw [own, List.forall_mem_cons, List.forall_mem_cons]
  exact ⟨isBare_of_isDigit n.digit_isDigit, n.head_isBare, n.tail_isBare⟩

/-! ## Lexemes of names -/

/-- Whether a character goes on with a word that stands in front of it. -/
def continuesWord (c : Char) : Bool :=
  c == '$' || c == '#' || isWord c

/-- The pattern of bare words takes a name up to a character that ends it. -/
theorem length?_bareWord {rest : List Char} (hrest : rest.head?.any continuesWord = false)
    (before : Option Char) :
    (one isWord ++ zeroOrMore continuesWord).length? ⟨before, n.own ++ rest⟩ =
      some n.own.length := by
  have hdigit : isWord n.digit = true := (isWord_of_isBare (isBare_of_isDigit n.digit_isDigit)).1
  have hword : ∀ c ∈ n.head :: n.tail, continuesWord c = true := by
    intro c hc
    have hbare := n.isBare_of_mem_own c (List.mem_cons_of_mem _ hc)
    simp [continuesWord, (isWord_of_isBare hbare).1]
  rw [length?, own, List.cons_append]
  change (if isWord n.digit = true then manyGreedy continuesWord (fun t =>
    some ((n.digit :: (n.head :: n.tail ++ rest)).length - t.rest.length)) (some n.digit)
      (n.head :: n.tail ++ rest) else none) = _
  rw [if_pos hdigit]
  refine manyGreedy_append _ hword (fun before => ?_) _
  cases rest with
  | nil =>
    rw [manyGreedy]
    simp
  | cons c rest =>
    have hc : continuesWord c = false := hrest
    rw [manyGreedy, if_neg (by simp [hc])]
    simp
    omega

/-- In upper case a name is no word that begins with a letter. -/
theorem upper_own_ne {word : String} (h : word.toList.head?.any Char.isDigit = false) :
    String.ofList (upper n.own) ≠ word := by
  have hdigit : upperChar n.digit = [n.digit] :=
    forall_digit (P := fun d => upperChar d = [d]) (by decide) n.digit_isDigit
  rintro rfl
  rw [String.toList_ofList, own, upper_cons, hdigit, List.singleton_append, List.head?_cons,
    Option.any_some, n.digit_isDigit] at h
  cases h

/-- The own part is no word of a list in which no word begins with a digit. -/
theorem upper_own_not_mem {words : List String}
    (h : ∀ word ∈ words, word.toList.head?.any Char.isDigit = false) :
    String.ofList (upper n.own) ∉ words :=
  fun hmem => n.upper_own_ne (h _ hmem) rfl

/-- A name that begins with a digit is no statement word. -/
theorem wordKind_own : wordKind n.own = .keyword := by
  have hdiv : String.ofList (upper n.own) ≠ "DIV" := n.upper_own_ne (by decide)
  have hdefinition : String.ofList (upper n.own) ∉ ["DROP", "CREATE", "ALTER", "TRUNCATE"] :=
    n.upper_own_not_mem (by decide)
  rw [wordKind, if_neg hdiv, if_neg hdefinition]

/-- One digit and the name behind it are one word, unless they begin a hexadecimal number. -/
theorem lexeme_own {before : Option Char} {rest : List Char}
    (hrest : rest.head?.any continuesWord = false)
    (hhex : hexNumber.length? ⟨before, n.own ++ rest⟩ = none) :
    lexeme ⟨before, n.own ++ rest⟩ = (.keyword, n.own.length) := by
  obtain ⟨hrow, hname⟩ := n.endsRow_head
  obtain ⟨hdollar, hslash⟩ := not_dollar_of_isDigit n.digit_isDigit
  have hdigit : ∀ e ∈ [n.digit], e.isDigit = true := by simpa using n.digit_isDigit
  have hearlier : ∀ r ∈ rules.take 45, r.pattern.length? ⟨before, n.own ++ rest⟩ = none := by
    have hlater : ∀ r ∈ (rules.take 45).drop 22, r.pattern.mayTake n.digit = false :=
      forall_digit (P := fun d => ∀ r ∈ (rules.take 45).drop 22, r.pattern.mayTake d = false)
        (by decide) n.digit_isDigit
    have hsplit : rules.take 45 =
        rules.take 21 ++ always .number wholeNumber :: (rules.take 45).drop 22 := rfl
    intro r hr
    rw [hsplit, List.mem_append, List.mem_cons] at hr
    rcases hr with hr | rfl | hr
    · exact length?_eq_none_of_row hdigit hrow hhex r hr
    · exact length?_digit_name n.digit_isDigit hrow.not_decimal hname before
    · exact length?_eq_none_of_first (List.mem_of_mem_take (List.mem_of_mem_drop hr)) before
        (hlater r hr) _
  have hrule : rules[45]? = some ⟨one isWord ++ zeroOrMore continuesWord, wordKind⟩ := rfl
  refine lexeme_of_ruled? hdollar hslash (Nat.succ_pos _) ?_
  refine (ruled?_of_split hrule hearlier (n.length?_bareWord hrest before)).trans ?_
  rw [List.take_left]
  exact congrArg (fun kind => some (kind, n.own.length)) n.wordKind_own

/-- All digits but the last are a number. -/
theorem lexeme_leading (hne : n.leading ≠ []) (before : Option Char) (rest : List Char) :
    lexeme ⟨before, n.leading ++ n.digit :: n.head :: rest⟩ = (.number, n.leading.length) := by
  obtain ⟨hrow, hname⟩ := n.endsRow_head
  obtain ⟨d, ds, hleading⟩ := List.exists_cons_of_ne_nil hne
  have hds : ∀ e ∈ d :: ds, e.isDigit = true := hleading ▸ n.leading_digits
  have hall : ∀ e ∈ d :: (ds ++ [n.digit]), e.isDigit = true := by
    rw [← List.cons_append, List.forall_mem_append]
    exact ⟨hds, by simpa using n.digit_isDigit⟩
  have htext : n.leading ++ n.digit :: n.head :: rest =
      d :: (ds ++ [n.digit]) ++ n.head :: rest := by simp [hleading]
  have hlength : wholeNumber.length? ⟨before, d :: ds ++ n.digit :: n.head :: rest⟩ =
      some (d :: ds).length :=
    length?_digits_name hds n.digit_isDigit hrow.not_decimal hname before
  rw [htext, hleading]
  refine lexeme_of_wholeNumber hall hrow (fun _ => by simp) (Nat.succ_pos _) ?_
  rw [← hlength]
  simp

/-- A hexadecimal number at the last digit stays within the name and holds its first letter. -/
theorem exists_hexNumber {before : Option Char} {rest : List Char} {m : Nat}
    (h : hexNumber.length? ⟨before, n.own ++ ' ' :: rest⟩ = some m) :
    lexeme ⟨before, n.own ++ ' ' :: rest⟩ = (.number, m) ∧
      ∃ ys, ys <+: n.tail ∧ m = (n.digit :: n.head :: ys).length := by
  have hdigit : ∀ e ∈ [n.digit], e.isDigit = true := by simpa using n.digit_isDigit
  obtain ⟨hdollar, hslash⟩ := not_dollar_of_isDigit n.digit_isDigit
  have hrule : rules[18]? = some (always .number hexNumber) := rfl
  have hfirst : ∀ r ∈ rules.take 18, r.pattern.mayTake n.digit = false :=
    forall_digit (P := fun d => ∀ r ∈ rules.take 18, r.pattern.mayTake d = false)
      (by decide) n.digit_isDigit
  have hpos : 0 < m := length?_pos (List.mem_of_getElem? hrule) h
  refine ⟨lexeme_of_ruled? hdollar hslash hpos (ruled?_of_first hrule hfirst h), ?_⟩
  obtain ⟨hends, hle⟩ := ends_of_length? h
  have hin : InDigits n.head (n.tail ++ ' ' :: rest) ⟨before, n.own ++ ' ' :: rest⟩ :=
    ⟨[n.digit], hdigit, rfl⟩
  obtain ⟨u, ⟨v, hsign, hzero⟩, hrow⟩ := hends
  obtain rfl := hin.sign n.endsRow_head.1 hsign
  obtain ⟨xs, hxs, hfront⟩ := ends_text.mp hzero
  obtain ⟨ys, -, hys, hback⟩ := ends_oneOrMore.mp hrow
  have htake := (consumes_advance hle).unique (hfront.append hback)
  have hlength : xs.length = 2 := hxs.length_eq.symm
  have hm : m = xs.length + ys.length := by
    rw [← List.length_append, ← htake, List.length_take_of_le hle]
  refine ⟨ys, ?_, by simp only [List.length_cons]; omega⟩
  have htext := (hfront.append hback).1
  obtain ⟨a, b, rfl⟩ := List.length_eq_two.mp hlength
  have hprefix : ys <+: n.tail ++ ' ' :: rest := by
    rw [own, List.cons_append, List.cons_append, List.cons_append, List.cons_append,
      List.cons_append, List.cons_append] at htext
    exact ⟨_, (List.cons.inj (List.cons.inj htext).2).2.symm⟩
  rcases List.prefix_or_prefix_of_prefix hprefix (List.prefix_append n.tail _) with
    hshort | ⟨zs, rfl⟩
  · exact hshort
  · rw [List.prefix_append_right_inj] at hprefix
    cases zs with
    | nil => simp
    | cons c zs =>
      obtain rfl := (List.cons_prefix_cons.mp hprefix).1
      have hblank := hys ' ' (by simp)
      exact absurd hblank (by decide)

/-- The word that begins with the last digit ends no statement. -/
theorem isCalm_own (kind : LexemeKind) {ys : List Char} (hys : ys <+: n.tail) :
    Lexeme.IsCalm ⟨kind, n.digit :: n.head :: ys⟩ := by
  have hspace : ∀ c ∈ n.digit :: n.head :: ys, isSpace c = false := by
    intro c hc
    have hbegins : n.digit :: n.head :: ys <+: n.own :=
      (List.prefix_cons_inj _).mpr ((List.prefix_cons_inj _).mpr hys)
    exact (isWord_of_isBare (n.isBare_of_mem_own c (hbegins.subset hc))).2
  constructor
  · simp [Lexeme.isSemicolon]
  · rintro ⟨-, hgo⟩
    rw [pieces_of_no_separator (List.cons_ne_nil _ _) hspace] at hgo
    have hdigit := n.digit_isDigit
    rw [(List.cons.inj (Option.some.inj hgo)).1] at hdigit
    exact absurd hdigit (by decide)

/-- In front of a blank the lexeme at the last digit holds the first letter and ends no
statement. -/
theorem exists_lexeme_own (before : Option Char) (rest : List Char) : ∃ kind ys, ys <+: n.tail ∧
    lexeme ⟨before, n.own ++ ' ' :: rest⟩ = (kind, (n.digit :: n.head :: ys).length) ∧
      Lexeme.IsCalm ⟨kind, n.digit :: n.head :: ys⟩ := by
  cases hhex : hexNumber.length? ⟨before, n.own ++ ' ' :: rest⟩ with
  | none =>
    have hblank : continuesWord ' ' = false := by decide
    exact ⟨.keyword, n.tail, List.prefix_rfl, n.lexeme_own hblank hhex,
      n.isCalm_own .keyword List.prefix_rfl⟩
  | some m =>
    obtain ⟨hlexeme, ys, hys, rfl⟩ := n.exists_hexNumber hhex
    exact ⟨.number, ys, hys, hlexeme, n.isCalm_own .number hys⟩

/-- A name with a single digit begins no hexadecimal number. -/
theorem length?_hexNumber_own (h : n.leading = []) (before : Option Char) (rest : List Char) :
    hexNumber.length? ⟨before, n.own ++ rest⟩ = none := by
  have hdigit : ∀ e ∈ [n.digit], e.isDigit = true := by simpa using n.digit_isDigit
  refine length?_hexNumber_eq_none hdigit n.endsRow_head.1 fun hx hzero => ?_
  exact n.not_hex h (List.cons.inj hzero).1 (n.head_of_sameLetter hx)

/-! ## Tokens of names -/

/-- The own part is one word token. -/
theorem tokens_own (index : Nat) :
    Lexeme.tokens index ⟨.keyword, n.own⟩ = [word (String.ofList n.own) index] := by
  have hquote : n.own.head?.all (fun c => closingQuote? c == none) = true :=
    forall_digit (P := fun d => (closingQuote? d == none) = true) (by decide) n.digit_isDigit
  have hspace : ∀ c ∈ n.own, isSpace c = false :=
    fun c hc => (isWord_of_isBare (n.isBare_of_mem_own c hc)).2
  rw [tokens_of_isWordLike rfl hquote, wordTokens_of_no_space n.own_ne_nil hspace, word,
    String.length_ofList]

/-- A name is one word exactly if it begins with a single digit. -/
theorem tokenize_name_iff : tokenize n.name = [word n.name 0] ↔ n.leading = [] := by
  constructor
  · intro htokens
    by_contra hne
    have hlexeme := n.lexeme_leading hne none n.tail
    rw [name, tokenize_eq, Cursor.start, text, own, tokensAt_append hne hlexeme] at htokens
    have hkind := congrArg (fun t => t.head?.map Token.kind) htokens
    cases hkind
  · intro hleading
    have hlexeme : lexeme ⟨none, n.own ++ []⟩ = (.keyword, n.own.length) :=
      n.lexeme_own rfl (n.length?_hexNumber_own hleading none [])
    rw [name, text, hleading, List.nil_append, tokenize_eq, Cursor.start, ← List.append_nil n.own,
      tokensAt_append n.own_ne_nil hlexeme, tokensAt_nil, n.tokens_own]
    simp

/-- A name with a single digit yields itself. -/
theorem yields_own (h : n.leading = []) (before : Option Char) {rest : List Char}
    (hrest : rest.head?.any continuesWord = false) :
    Yields before n.own rest fun index => [word (String.ofList n.own) index] :=
  (yields_lexeme .keyword n.own_ne_nil (n.lexeme_own hrest (n.length?_hexNumber_own h before rest))
    (n.isCalm_own .keyword List.prefix_rfl)).congr n.tokens_own

/-- The digits in front of the last one yield a number. -/
theorem yields_leading (h : n.leading ≠ []) (before : Option Char) (rest : List Char) :
    Yields before n.leading (n.digit :: n.head :: rest) fun index => [number n.leading index] :=
  yields_lexeme .number h (n.lexeme_leading h before rest) ⟨rfl, by simp⟩

/-- In front of a blank a name with more digits begins with calm lexemes, which hold its digits and
its first letter. -/
theorem exists_calm (h : n.leading ≠ []) (before : Option Char) (rest : List Char) :
    ∃ ys more last, n.text ++ ' ' :: rest = n.leading ++ n.digit :: n.head :: ys ++ more ∧
      (∃ ls others,
        lexemesAt ⟨before, n.leading ++ n.digit :: n.head :: ys ++ more⟩ = ls ++ others ∧
        textOf ls = n.leading ++ n.digit :: n.head :: ys ∧ ∀ l ∈ ls, l.IsCalm) ∧
      (n.leading ++ n.digit :: n.head :: ys).getLast? = some last ∧ isSpace last = false := by
  obtain ⟨kind, ys, ⟨zs, hzs⟩, hown, hcalm⟩ :=
    n.exists_lexeme_own (n.leading.getLast?.or before) rest
  have htext : n.own ++ ' ' :: rest = n.digit :: n.head :: ys ++ (zs ++ ' ' :: rest) := by
    rw [own, ← hzs]
    simp
  rw [htext] at hown
  obtain ⟨ls, hls, hlsCalm, -⟩ := n.yields_leading h before (ys ++ (zs ++ ' ' :: rest))
  obtain ⟨last, hlast⟩ : ∃ last, (n.digit :: n.head :: ys).getLast? = some last :=
    ⟨_, List.getLast?_eq_some_getLast (List.cons_ne_nil _ _)⟩
  have hbare : isBare last = true := by
    apply n.isBare_of_mem_own last
    rw [own, ← hzs]
    exact List.mem_append_left zs (List.mem_of_getLast? hlast)
  refine ⟨ys, zs ++ ' ' :: rest, last, by rw [text, List.append_assoc, htext, List.append_assoc],
    ⟨ls ++ [⟨kind, n.digit :: n.head :: ys⟩], lexemesAt
      ⟨(n.digit :: n.head :: ys).getLast?.or (n.leading.getLast?.or before), zs ++ ' ' :: rest⟩,
      ?_, ?_, ?_⟩, by rw [List.getLast?_append, hlast, Option.some_or], (isWord_of_isBare hbare).2⟩
  · rw [List.append_assoc, List.append_assoc, List.singleton_append,
      ← lexemesAt_append (List.cons_ne_nil _ _) hown]
    exact hls
  · rw [textOf_append, textOf_of_lexemesAt hls]
    simp
  · rw [List.forall_mem_append]
    exact ⟨hlsCalm, by simpa using hcalm⟩

end DigitName

/-! ## Items that begin with a name -/

/-- A name with a single digit and a type in front of it are read as a column of that name. -/
theorem DigitName.exists_column (n : DigitName) (text : List Char) (i j : Nat) :
    ∃ c, ItemReading.ofItem? text [word (String.ofList n.own) i, word "INT" j] =
      some (.column c) ∧ c.name = String.ofList n.own := by
  have hupper : (word (String.ofList n.own) i).upper = String.ofList (upper n.own) := by
    rw [Token.upper, word, String.toList_ofList]
  have hclause : beginsClause (word (String.ofList n.own) i) = false := by
    have hnot : String.ofList (upper n.own) ∉ clauseWords ++ bareClauseWords :=
      n.upper_own_not_mem (by decide)
    rw [List.mem_append, not_or] at hnot
    simp [beginsClause, Token.isWordIn, hupper, hnot]
  have hne : String.ofList n.own ≠ "" := by
    intro hempty
    exact n.own_ne_nil (by simpa using congrArg String.toList hempty)
  have hdefinition : Definition.ofItem? [word (String.ofList n.own) i, word "INT" j] =
      some ⟨word (String.ofList n.own) i, word "INT" j, (word "INT" j).stop, []⟩ := by
    rw [Definition.ofItem?, if_pos (by simpa [word] using hne)]
    rfl
  refine ⟨Definition.column text
    ⟨word (String.ofList n.own) i, word "INT" j, (word "INT" j).stop, []⟩, ?_, rfl⟩
  rw [ItemReading.ofItem?, if_neg (by simp [Token.isIdentifier]), hclause, hdefinition]
  rfl

/-! ## Declarations with such an item -/

/-- An item of a name with a single digit yields its words and the mark behind it. -/
theorem DigitName.yields_item (n : DigitName) (h : n.leading = []) {last : Char}
    (hlast : last ∈ argumentEnds) (before : Option Char) (rest : List Char) :
    Yields before (n.own ++ (" INT".toList ++ [last])) rest fun index =>
      [word (String.ofList n.own) index, word "INT" (index + n.own.length + 1),
        mark last (index + n.own.length + 4)] := by
  have hmark : last ∈ sectionMarks := by
    have hmarks : ∀ last ∈ argumentEnds, last ∈ sectionMarks := by decide
    exact hmarks last hlast
  obtain ⟨next, hnext, hprefix⟩ := exists_typeFollower [] hlast rest
  have htype before : Yields before (' ' :: "INT".toList) ([last] ++ rest) _ :=
    yields_blank_words next.toList
      (readsWords_keyword "INT" (by decide) next (List.mem_of_mem_tail hnext)) hprefix before
  have hbehind before := (htype before).append (yields_mark hmark _ rest)
  have hblank : ((' ' :: "INT".toList ++ [last]) ++ rest).head?.any continuesWord = false := by
    have hnot : continuesWord ' ' = false := by decide
    exact hnot
  refine ((n.yields_own h before hblank).append (hbehind _)).congr fun index => ?_
  rw [wordTokens_eq_word (by decide) (by decide)]
  rfl

/-- A declaration with an item that begins with a name behind other columns. -/
def digitNameText (ifNotExists : Bool) (name : String) (columns : List WrittenColumn)
    (n : DigitName) (last : Char) (tail : List Char) : String :=
  String.ofList (frontText ifNotExists name columns ++
    (n.text ++ (" INT".toList ++ last :: tail)))

section Declarations

variable (n : DigitName) (ifNotExists : Bool) {name : String} (hname : name ≠ "")
  {columns : List WrittenColumn} (hnodup : (columns.map fun c => comparable c.name).Nodup)
  {last : Char} (tail : List Char)
include hname hnodup

/-- An item that begins with a name with a single digit is a column of that name. -/
theorem exists_column_of_digit (hlast : last ∈ argumentEnds) (h : n.leading = [])
    (hfresh : comparable n.name ∉ columns.map fun c => comparable c.name) :
    ∃ table, (read (digitNameText ifNotExists name columns n last tail)).result = .ok table ∧
      (table.columns[columns.length]?).map (·.name) = some n.name := by
  have htext : n.text = n.own := by rw [DigitName.text, h, List.nil_append]
  have hyields before rest := n.yields_item h hlast before rest
  obtain ⟨ls, hls, hcalm, -⟩ := hyields (frontText ifNotExists name columns).getLast? tail
  have hend : (n.own ++ (" INT".toList ++ [last])).getLast? = some last := by simp
  have hspace : isSpace last = false := by
    have hspaces : ∀ last ∈ argumentEnds, isSpace last = false := by decide
    exact hspaces last hlast
  obtain ⟨text, parts, after, index, before, hread, hparts⟩ := read_frontText ifNotExists hname
    columns ⟨ls, _, hls, textOf_of_lexemesAt hls, hcalm⟩ hend hspace
  obtain ⟨others, hothers⟩ := items_of_words (kind_word _ _) (kind_word _ _) hlast
    (index + n.own.length + 4) (tokensAt (index + (n.own ++ (" INT".toList ++ [last])).length)
      ⟨(n.own ++ (" INT".toList ++ [last])).getLast?.or before, after⟩)
  obtain ⟨c, hc, hcname⟩ := n.exists_column text index (index + n.own.length + 1)
  rw [tokensAt_of_yields (hyields before after), hothers, List.filterMap_cons, hc] at hparts
  have hnames : ((columns.map WrittenColumn.column).map fun c => comparable c.name).Nodup := by
    rw [List.map_map]
    exact hnodup
  have hown : c.name = n.name := by rw [hcname, DigitName.name, htext]
  have hnot : comparable c.name ∉
      (columns.map WrittenColumn.column).map fun c => comparable c.name := by
    rw [List.map_map, hown]
    exact hfresh
  have hcolumn : ((assemble text name parts).1.columns[columns.length]?).map (·.name) =
      some n.name := by
    rw [← hown, ← name_assemble hnames hparts hnot, List.length_map]
  refine ⟨(assemble text name parts).1, ?_, hcolumn⟩
  rw [digitNameText, htext, show n.own ++ (" INT".toList ++ last :: tail) =
    n.own ++ (" INT".toList ++ [last]) ++ tail by simp, hread]

/-- An item that begins with a name with more digits is passed over. -/
theorem notAName_of_digits (h : n.leading ≠ []) :
    ∃ table, (read (digitNameText ifNotExists name columns n last tail)).result = .ok table ∧
      (read (digitNameText ifNotExists name columns n last tail)).remarks.head? =
        some (.notAName (String.ofList n.leading) name) := by
  obtain ⟨ys, rest, last', htext, hcalm, hend, hspace⟩ := n.exists_calm h
    (frontText ifNotExists name columns).getLast? ("INT".toList ++ last :: tail)
  obtain ⟨text, parts, after, index, before, hread, hparts⟩ := read_frontText ifNotExists hname
    columns hcalm hend hspace
  have htokens := tokensAt_of_yields (n.yields_leading h before (ys ++ after)) index
  obtain ⟨xs, others, hothers⟩ := items_of_number n.leading index
    (tokensAt (index + n.leading.length)
      ⟨n.leading.getLast?.or before, n.digit :: n.head :: (ys ++ after)⟩)
  have hreading : ItemReading.ofItem? text (number n.leading index :: xs) =
      some (.notAName (number n.leading index)) := rfl
  rw [List.append_assoc, List.cons_append, List.cons_append, htokens, List.singleton_append,
    hothers, List.filterMap_cons, hreading] at hparts
  have hnames : ((columns.map WrittenColumn.column).map fun c => comparable c.name).Nodup := by
    rw [List.map_map]
    exact hnodup
  have hremark : (assemble text name parts).2.head? =
      some (.notAName (String.ofList n.leading) name) := by
    refine head?_remarks_assemble hnames hparts fun c hc => ?_
    obtain ⟨w, -, rfl⟩ := List.mem_map.mp hc
    rfl
  rw [digitNameText, show n.text ++ (" INT".toList ++ last :: tail) =
    n.text ++ ' ' :: ("INT".toList ++ last :: tail) from rfl, htext, hread]
  exact ⟨(assemble text name parts).1, rfl, hremark⟩

end Declarations

/-- A name that begins with digits is one word, and an item that begins with it and a type is a
column of that name, if it begins with a single digit.  Of more digits all but the last are a
number, and the item is passed over with the remark that it begins with the number. -/
theorem read_digitName (n : DigitName) (ifNotExists : Bool) {name : String} (hname : name ≠ "")
    {columns : List WrittenColumn} (hnodup : (columns.map fun c => comparable c.name).Nodup)
    (hfresh : comparable n.name ∉ columns.map fun c => comparable c.name)
    {last : Char} (hlast : last ∈ argumentEnds) (tail : List Char) :
    (tokenize n.name = [word n.name 0] ↔ n.leading = []) ∧
    ∃ table, (read (digitNameText ifNotExists name columns n last tail)).result = .ok table ∧
      (n.leading = [] → (table.columns[columns.length]?).map (·.name) = some n.name) ∧
      (n.leading ≠ [] →
        (read (digitNameText ifNotExists name columns n last tail)).remarks.head? =
          some (.notAName (String.ofList n.leading) name)) := by
  refine ⟨n.tokenize_name_iff, ?_⟩
  by_cases h : n.leading = []
  · obtain ⟨table, hread, hcolumn⟩ :=
      exists_column_of_digit n ifNotExists hname hnodup tail hlast h hfresh
    exact ⟨table, hread, fun _ => hcolumn, fun hne => absurd h hne⟩
  · obtain ⟨table, hread, hremark⟩ := notAName_of_digits n ifNotExists hname hnodup tail h
    exact ⟨table, hread, fun hnil => absurd hnil h, fun _ => hremark⟩

/-- A name with a single digit in front. -/
def firstName : DigitName where
  leading := []
  digit := '1'
  head := 's'
  tail := "t_col".toList
  leading_digits := by decide
  digit_isDigit := by decide
  head_isBare := by decide
  head_not_digit := by decide
  head_not_exponent := by decide
  tail_isBare := by decide
  not_hex := by decide

theorem read_digitName_firstName :
    "t" ≠ "" ∧ ([priceColumn].map fun c => comparable c.name).Nodup ∧
    (comparable firstName.name ∉ [priceColumn].map fun c => comparable c.name) ∧
    ',' ∈ argumentEnds ∧ tokenize firstName.name = [word "1st_col" 0] ∧
    ∃ table, (read (digitNameText false "t" [priceColumn] firstName ',' " 2nd".toList)).result =
      .ok table ∧ (table.columns[1]?).map (·.name) = some "1st_col" := by
  have hname : "t" ≠ "" := by decide
  have hnodup : ([priceColumn].map fun c => comparable c.name).Nodup := by simp
  have hfresh : comparable firstName.name ∉ [priceColumn].map fun c => comparable c.name := by
    decide +kernel
  have hlast : ',' ∈ argumentEnds := by decide
  obtain ⟨hword, table, hread, hcolumn, -⟩ :=
    read_digitName firstName false hname hnodup hfresh hlast " 2nd".toList
  exact ⟨hname, hnodup, hfresh, hlast, hword.mpr rfl, table, hread, hcolumn rfl⟩

/-- Of two digits in front of a name the first one is a number. -/
theorem not_word_of_digits :
    tokenize "12ab" = [number ['1'] 0, word "2ab" 1] ∧ tokenize "12ab" ≠ [word "12ab" 0] ∧
    (read "CREATE TABLE t (12ab INT)").result.toOption = some ⟨"t", "T", []⟩ ∧
    (read "CREATE TABLE t (12ab INT)").remarks = [.notAName "1" "t", .noColumns "t"] := by
  have htokens : tokenize "12ab" = [number ['1'] 0, word "2ab" 1] := by decide +kernel
  have hread : read "CREATE TABLE t (12ab INT)" =
      ⟨.ok ⟨"t", "T", []⟩, [.notAName "1" "t", .noColumns "t"]⟩ :=
    read_of_isStatement (by decide +kernel)
  rw [htokens, hread]
  exact ⟨rfl, by decide, rfl, rfl⟩

end EntityMapper.Sql
