import EntityMapper.Proofs.Naming.Capitals
import Mathlib.Data.List.Chain

/-!
# Spellings of ASCII names

In camel case and in Pascal case an ASCII name keeps its letters and digits in their order, in
another case, and nothing else. A name in snake case becomes the same name if it is spelled in
capitals, where no letter follows a digit: then neither spelling has a word inside a piece.
-/

namespace EntityMapper.Text

variable {separates : Char → Bool} {cs piece : List Char}

/-- Every piece of a text stands in it as it is. -/
theorem isInfix_of_mem_pieces (h : piece ∈ pieces separates cs) : piece <:+: cs := by
  suffices key : ∀ index front, piece ∈ (piecesFrom separates index front cs).map (·.2) →
      piece <:+: front.reverse ++ cs from key 0 [] h
  clear h
  induction cs with
  | nil =>
    intro index front hmem
    rw [piecesFrom] at hmem
    split at hmem
    · cases hmem
    · obtain rfl : piece = front.reverse := by simpa using hmem
      exact (List.prefix_append _ _).isInfix
  | cons c cs ih =>
    intro index front hmem
    rw [piecesFrom] at hmem
    split at hmem
    · rw [List.map_append, List.mem_append] at hmem
      rcases hmem with hmem | hmem
      · by_cases hfront : front = []
        · simp [hfront] at hmem
        · obtain rfl : piece = front.reverse := by simpa [hfront] using hmem
          exact (List.prefix_append _ _).isInfix
      · have hrest : piece <:+: cs := ih _ _ hmem
        exact hrest.trans ((List.suffix_cons c cs).trans (List.suffix_append _ _)).isInfix
    · have hrest : piece <:+: (c :: front).reverse ++ cs := ih _ _ hmem
      simpa using hrest

/-- A text is cut into the same pieces if its characters are replaced and separators stay apart
from the rest. -/
theorem pieces_map {f : Char → Char} (h : ∀ c ∈ cs, separates (f c) = separates c) :
    pieces separates (cs.map f) = (pieces separates cs).map (List.map f) := by
  suffices key : ∀ index front, (piecesFrom separates index (front.map f) (cs.map f)).map (·.2) =
      ((piecesFrom separates index front cs).map (·.2)).map (List.map f) from key 0 []
  induction cs with
  | nil =>
    intro index front
    rw [List.map_nil, piecesFrom, piecesFrom]
    by_cases hfront : front = [] <;> simp [hfront]
  | cons c cs ih =>
    intro index front
    obtain ⟨hc, hcs⟩ := List.forall_mem_cons.mp h
    rw [List.map_cons, piecesFrom, piecesFrom, hc]
    split
    · have hrest := ih hcs (index + 1) []
      rw [List.map_nil] at hrest
      rw [List.map_append, List.map_append, List.map_append, hrest]
      by_cases hfront : front = [] <;> simp [hfront]
    · exact ih hcs (index + 1) (c :: front)

end EntityMapper.Text

namespace EntityMapper.Naming

open Text

/-! ## Letters and digits -/

/-- A text of ASCII letters and digits that are those of a name, perhaps in another case. -/
structure HasLettersOf (name cs : List Char) : Prop where
  alphanumeric : ∀ c ∈ cs, c.isAlphanum = true
  lower_eq : lower cs = lower (letters name)

section Words

variable {w : List Char} (hw : ∀ c ∈ w, c.toNat < 128 ∧ isAlphanumeric c = true)
include hw

/-- Lower case leaves lower case as it is. -/
theorem map_toLower_twice : (w.map Char.toLower).map Char.toLower = w.map Char.toLower := by
  rw [List.map_map]
  exact List.map_congr_left fun c hc =>
    forall_below (P := fun c => c.toLower.toLower = c.toLower) (by decide) (hw c hc).1

/-- A word in lower case has its letters and digits. -/
theorem lower_word : lower w = w.map Char.toLower ∧
    ∀ c ∈ w.map Char.toLower, c.toNat < 128 ∧ isAlphanumeric c = true := by
  refine ⟨lower_of_ascii fun c hc => (hw c hc).1, List.forall_mem_map.mpr fun c hc => ?_⟩
  exact forall_below (P := fun c => isAlphanumeric c = true →
    c.toLower.toNat < 128 ∧ isAlphanumeric c.toLower = true) (by decide) (hw c hc).1 (hw c hc).2

/-- A word with a capital in front has its letters and digits. -/
theorem titled_word : (titled w).map Char.toLower = w.map Char.toLower ∧
    ∀ c ∈ titled w, c.toNat < 128 ∧ isAlphanumeric c = true := by
  cases w with
  | nil => exact ⟨rfl, fun c hc => absurd hc List.not_mem_nil⟩
  | cons c cs =>
    obtain ⟨⟨hascii, hletter⟩, hcs⟩ := List.forall_mem_cons.mp hw
    obtain ⟨hlower, hmem⟩ := lower_word hcs
    obtain ⟨hsame, hupper⟩ := forall_below (P := fun c => isAlphanumeric c = true →
      c.toUpper.toLower = c.toLower ∧ c.toUpper.toNat < 128 ∧ isAlphanumeric c.toUpper = true)
      (by decide) hascii hletter
    rw [titled, upperChar_of_ascii hascii, List.singleton_append, hlower, List.map_cons,
      List.map_cons, hsame, map_toLower_twice hcs, List.forall_mem_cons]
    exact ⟨rfl, hupper, hmem⟩

end Words

/-- Words with capitals in front have their letters and digits. -/
theorem titled_words {ws : List (List Char)}
    (hws : ∀ w ∈ ws, ∀ c ∈ w, c.toNat < 128 ∧ isAlphanumeric c = true) :
    (ws.flatMap titled).map Char.toLower = ws.flatten.map Char.toLower ∧
      ∀ c ∈ ws.flatMap titled, c.toNat < 128 ∧ isAlphanumeric c = true := by
  constructor
  · rw [List.map_flatMap, List.map_flatten, ← List.flatMap_def]
    exact List.flatMap_congr fun w hw => (titled_word (hws w hw)).1
  · intro c hc
    obtain ⟨w, hw, hc⟩ := List.mem_flatMap.mp hc
    exact (titled_word (hws w hw)).2 c hc

/-- A word whose first letter becomes a capital has its letters and digits. -/
theorem capitalize_word {w : List Char} (hw : ∀ c ∈ w, c.toNat < 128 ∧ isAlphanumeric c = true) :
    (capitalize w).map Char.toLower = w.map Char.toLower ∧
      (∀ c ∈ capitalize w, c.toNat < 128 ∧ isAlphanumeric c = true) ∧
      (capitalize w).head?.any isLower = false := by
  cases w with
  | nil => exact ⟨rfl, fun c hc => absurd hc List.not_mem_nil, rfl⟩
  | cons c cs =>
    obtain ⟨⟨hascii, hletter⟩, hcs⟩ := List.forall_mem_cons.mp hw
    obtain ⟨hsame, hupper, hlower⟩ := forall_below (P := fun c => isAlphanumeric c = true →
      c.toUpper.toLower = c.toLower ∧ (c.toUpper.toNat < 128 ∧ isAlphanumeric c.toUpper = true) ∧
        isLower c.toUpper = false) (by decide) hascii hletter
    rw [capitalize, upperChar_of_ascii hascii, List.singleton_append, List.map_cons, List.map_cons,
      hsame]
    exact ⟨rfl, List.forall_mem_cons.mpr ⟨hupper, hcs⟩, hlower⟩

theorem hasLettersOf_of_map {name cs : List Char} (hname : ∀ c ∈ name, c.toNat < 128)
    (hcs : ∀ c ∈ cs, c.toNat < 128 ∧ isAlphanumeric c = true)
    (h : cs.map Char.toLower = (letters name).map Char.toLower) : HasLettersOf name cs where
  alphanumeric c hc :=
    forall_below (P := fun c => isAlphanumeric c = true → c.isAlphanum = true) (by decide)
      (hcs c hc).1 (hcs c hc).2
  lower_eq := by
    rw [lower_of_ascii fun c hc => (hcs c hc).1,
      lower_of_ascii fun c hc => hname c (mem_letters.mp hc).1, h]

/-- An ASCII name in camel case holds its letters and digits and does not begin with a capital. -/
theorem camelCase_of_ascii {name : List Char} (hname : ∀ c ∈ name, c.toNat < 128)
    (hletters : letters name ≠ []) :
    (camelCase name).map Char.toLower = (letters name).map Char.toLower ∧
      (∀ c ∈ camelCase name, c.toNat < 128 ∧ isAlphanumeric c = true) ∧
      (camelCase name).head?.any isUpper = false := by
  have hall : ∀ c ∈ letters name, c.toNat < 128 ∧ isAlphanumeric c = true :=
    fun c hc => ⟨hname c (mem_letters.mp hc).1, (mem_letters.mp hc).2⟩
  cases hcamel : isCamelCase name with
  | true =>
    have hkept : camelCase name = name := by rw [camelCase, if_pos hcamel]
    rw [isCamelCase, Bool.and_eq_true, Bool.not_eq_true', List.any_eq_false] at hcamel
    have hsame : letters name = name :=
      letters_eq_self_iff.mpr fun c hc => by simpa using hcamel.2 c hc
    rw [hsame] at hall ⊢
    rw [hkept]
    refine ⟨rfl, hall, ?_⟩
    cases name with
    | nil => rfl
    | cons c cs =>
      exact forall_below (P := fun c => isLower c = true → isUpper c = false) (by decide)
        (hall c List.mem_cons_self).1 hcamel.1
  | false =>
    obtain ⟨first, others, hwords, hflatten, hcase⟩ := exists_words hletters hcamel
    rw [hflatten, List.forall_mem_append] at hall
    obtain ⟨hfirst, hothers⟩ := hall
    obtain ⟨htitled, htitledMem⟩ := titled_words fun w hw c hc =>
      hothers c (List.mem_flatten.mpr ⟨w, hw, hc⟩)
    obtain ⟨hlower, hmem⟩ := lower_word hfirst
    have hne : first ≠ [] := words_ne_nil (hwords ▸ List.mem_cons_self)
    obtain ⟨c, cs, rfl⟩ := List.exists_cons_of_ne_nil hne
    rw [hcase, hflatten, hlower, List.map_append, List.map_append, htitled,
      map_toLower_twice hfirst, List.forall_mem_append]
    refine ⟨rfl, ⟨hmem, htitledMem⟩, ?_⟩
    exact forall_below (P := fun c => isUpper c.toLower = false) (by decide)
      (hfirst c List.mem_cons_self).1

/-- An ASCII name with a letter or a digit holds in camel case and in Pascal case its letters and
digits and nothing else, with no capital in front in camel case and no small letter in Pascal
case. -/
theorem hasLettersOf_camelCase_and_pascalCase {name : List Char}
    (hname : ∀ c ∈ name, c.toNat < 128) (hletters : ∃ c ∈ name, c.isAlphanum = true) :
    HasLettersOf name (camelCase name) ∧ (camelCase name).head?.any isUpper = false ∧
      HasLettersOf name (pascalCase name) ∧ (pascalCase name).head?.any isLower = false := by
  obtain ⟨c, hc, hletter⟩ := hletters
  have hne : letters name ≠ [] := by
    refine List.ne_nil_of_mem (mem_letters.mpr ⟨hc, ?_⟩)
    rw [isAlphanumeric, hletter, Bool.true_or]
  obtain ⟨hcamel, hall, hhead⟩ := camelCase_of_ascii hname hne
  obtain ⟨hpascal, hall', hhead'⟩ := capitalize_word hall
  exact ⟨hasLettersOf_of_map hname hall hcamel, hhead,
    hasLettersOf_of_map hname hall' (hpascal.trans hcamel), hhead'⟩

theorem hasLettersOf_camelCase_and_pascalCase_acronym :
    (∀ c ∈ "HTTPServer_2nd-id".toList, c.toNat < 128) ∧
    (∃ c ∈ "HTTPServer_2nd-id".toList, c.isAlphanum = true) ∧
    camelCase "HTTPServer_2nd-id".toList = "httpServer2ndId".toList ∧
    HasLettersOf "HTTPServer_2nd-id".toList "httpServer2ndId".toList ∧
    HasLettersOf "HTTPServer_2nd-id".toList "HttpServer2ndId".toList := by
  have hascii : ∀ c ∈ "HTTPServer_2nd-id".toList, c.toNat < 128 := by decide
  have hletters : ∃ c ∈ "HTTPServer_2nd-id".toList, c.isAlphanum = true := by decide
  have hcamel : camelCase "HTTPServer_2nd-id".toList = "httpServer2ndId".toList := by
    decide +kernel
  have hpascal : pascalCase "HTTPServer_2nd-id".toList = "HttpServer2ndId".toList := by
    decide +kernel
  obtain ⟨hsame, -, hsame', -⟩ := hasLettersOf_camelCase_and_pascalCase hascii hletters
  rw [hcamel] at hsame
  rw [hpascal] at hsame'
  exact ⟨hascii, hletters, hcamel, hsame, hsame'⟩

/-! ## Words that no capital cuts -/

/-- No word begins inside a text. -/
def isUnbroken : List Char → Bool
  | previous :: c :: cs => !beginsWord previous c cs.head? && isUnbroken (c :: cs)
  | _ => true

/-- A text inside which no word begins is one word. -/
theorem camelWords_of_isUnbroken {chunk : List Char} (hne : chunk ≠ [])
    (h : isUnbroken chunk = true) : camelWords chunk = [chunk] := by
  obtain ⟨c, cs, rfl⟩ := List.exists_cons_of_ne_nil hne
  suffices key : ∀ word previous, isUnbroken (previous :: cs) = true →
      wordsAfter (previous :: word) cs = [(previous :: word).reverse ++ cs] from key [] c h
  clear hne h
  induction cs with
  | nil =>
    intro word previous _
    rw [wordsAfter, List.append_nil]
    exact List.cons_ne_nil previous word
  | cons d cs ih =>
    intro word previous h
    rw [isUnbroken, Bool.and_eq_true, Bool.not_eq_true'] at h
    rw [wordsAfter, h.1, if_neg Bool.false_ne_true, ih (previous :: word) d h.2]
    simp

theorem words_of_isUnbroken {name : List Char}
    (h : ∀ piece ∈ pieces isSeparator name, isUnbroken piece = true) :
    words name = pieces isSeparator name := by
  have hsingle : ∀ piece ∈ pieces isSeparator name, camelWords piece = [piece] :=
    fun piece hpiece => camelWords_of_isUnbroken (pieces_ne_nil hpiece) (h piece hpiece)
  rw [words, List.flatMap_congr hsingle, List.flatMap_singleton']

/-! ## Snake case -/

/-- The characters of names in snake case. -/
def isSnakeCharacter (c : Char) : Bool :=
  c.isLower || c.isDigit || c == '_'

/-- A name in snake case in which no letter follows a digit. -/
structure IsSnakeCase (name : List Char) : Prop where
  characters : ∀ c ∈ name, isSnakeCharacter c = true
  digits : name.IsChain fun c d => c.isDigit = true → d.isLower = false

/-- What is known of the characters of names in snake case and of their capitals. -/
structure SnakeCharacter (c : Char) : Prop where
  ascii : c.toNat < 128
  notUpper : isUpper c = false
  separator : isSeparator c.toUpper = isSeparator c
  notLower : isLower c.toUpper = false
  digit : isDigit c.toUpper = true → c.isDigit = true
  letter : isUpper c.toUpper = true → c.isLower = true
  upper_upper : c.toUpper.toUpper = c.toUpper
  lower_upper : c.toUpper.toLower = c
  lower_self : c.toLower = c

theorem snakeCharacter {c : Char} (h : isSnakeCharacter c = true) : SnakeCharacter c := by
  have hascii : c.toNat < 128 := by
    rw [isSnakeCharacter, Bool.or_eq_true, Bool.or_eq_true, beq_iff_eq] at h
    rcases h with (hlower | hdigit) | rfl
    · have hle : c.val ≤ 'z'.val := of_decide_eq_true ((Bool.and_eq_true _ _).mp hlower).2
      exact Nat.lt_of_le_of_lt (UInt32.le_iff_toNat_le.mp hle) (by decide)
    · have hle : c.val ≤ '9'.val := of_decide_eq_true ((Bool.and_eq_true _ _).mp hdigit).2
      exact Nat.lt_of_le_of_lt (UInt32.le_iff_toNat_le.mp hle) (by decide)
    · decide
  have hclasses := forall_below (P := fun c => isSnakeCharacter c = true →
    isUpper c = false ∧ isSeparator c.toUpper = isSeparator c ∧ isLower c.toUpper = false ∧
      (Text.isDigit c.toUpper = true → c.isDigit = true) ∧
      (isUpper c.toUpper = true → c.isLower = true)) (by decide) hascii h
  have hforms := forall_below (P := fun c => isSnakeCharacter c = true →
    c.toUpper.toUpper = c.toUpper ∧ c.toUpper.toLower = c ∧ c.toLower = c) (by decide) hascii h
  obtain ⟨hupper, hseparator, hlower, hdigit, hletter⟩ := hclasses
  obtain ⟨hupper', hlower', hself⟩ := hforms
  exact ⟨hascii, hupper, hseparator, hlower, hdigit, hletter, hupper', hlower', hself⟩

/-- Small letters begin no words. -/
theorem isUnbroken_of_characters {cs : List Char} (h : ∀ c ∈ cs, isSnakeCharacter c = true) :
    isUnbroken cs = true := by
  induction cs with
  | nil => rfl
  | cons c cs ih =>
    obtain ⟨-, hcs⟩ := List.forall_mem_cons.mp h
    cases cs with
    | nil => rfl
    | cons d cs =>
      have hd := snakeCharacter (hcs d List.mem_cons_self)
      rw [isUnbroken, beginsWord, hd.notUpper, ih hcs]
      rfl

namespace IsSnakeCase

variable {name : List Char} (h : IsSnakeCase name)
include h

theorem of_isInfix {part : List Char} (hpart : part <:+: name) : IsSnakeCase part where
  characters c hc := h.characters c (hpart.subset hc)
  digits := h.digits.infix hpart

/-- Capitals behind capitals begin no words. -/
theorem isUnbroken_map_toUpper : isUnbroken (name.map Char.toUpper) = true := by
  induction name with
  | nil => rfl
  | cons c cs ih =>
    cases cs with
    | nil => rfl
    | cons d cs =>
      have hrest : isUnbroken ((d :: cs).map Char.toUpper) = true :=
        ih (h.of_isInfix (List.suffix_cons c _).isInfix)
      obtain ⟨hc, hd, hcs⟩ : isSnakeCharacter c = true ∧ isSnakeCharacter d = true ∧
          ∀ e ∈ cs, isSnakeCharacter e = true := by
        simpa using h.characters
      have hnext : (cs.map Char.toUpper).head?.any isLower = false := by
        cases cs with
        | nil => rfl
        | cons e cs => exact (snakeCharacter (hcs e List.mem_cons_self)).notLower
      have hbegins : beginsWord c.toUpper d.toUpper (cs.map Char.toUpper).head? = false := by
        rw [beginsWord, hnext, (snakeCharacter hc).notLower, Bool.and_false, Bool.or_false,
          Bool.false_or, Bool.and_eq_false_iff]
        by_contra hboth
        rw [not_or, Bool.not_eq_false, Bool.not_eq_false] at hboth
        have hdigit : c.isDigit = true := (snakeCharacter hc).digit hboth.2
        have hlower : d.isLower = true := (snakeCharacter hd).letter hboth.1
        rw [(List.isChain_cons_cons.mp h.digits).1 hdigit] at hlower
        cases hlower
      rw [List.map_cons, List.map_cons, isUnbroken, hbegins, ← List.map_cons, hrest]
      rfl

theorem upper_eq : upper name = name.map Char.toUpper :=
  upper_of_ascii fun c hc => (snakeCharacter (h.characters c hc)).ascii

/-- The words of a name in snake case are its pieces, in capitals as well. -/
theorem words_eq : words name = pieces isSeparator name ∧
    words (upper name) = (pieces isSeparator name).map (List.map Char.toUpper) := by
  have hpiece : ∀ piece ∈ pieces isSeparator name, IsSnakeCase piece :=
    fun piece hpiece => h.of_isInfix (isInfix_of_mem_pieces hpiece)
  have hupper : pieces isSeparator (upper name) =
      (pieces isSeparator name).map (List.map Char.toUpper) := by
    rw [h.upper_eq]
    exact pieces_map fun c hc => (snakeCharacter (h.characters c hc)).separator
  constructor
  · exact words_of_isUnbroken fun piece hmem =>
      isUnbroken_of_characters (hpiece piece hmem).characters
  · rw [← hupper]
    refine words_of_isUnbroken ?_
    rw [hupper, List.forall_mem_map]
    exact fun piece hmem => (hpiece piece hmem).isUnbroken_map_toUpper

/-- Lower case undoes the capitals of a name in snake case. -/
theorem lower_eq : lower name = name ∧ lower (name.map Char.toUpper) = name := by
  have hkept : ∀ c ∈ name, lowerChar c = [c] := fun c hc => by
    rw [lowerChar_of_ascii (snakeCharacter (h.characters c hc)).ascii,
      (snakeCharacter (h.characters c hc)).lower_self]
  have hascii : ∀ c ∈ name.map Char.toUpper, c.toNat < 128 := by
    rw [List.forall_mem_map]
    intro c hc
    exact forall_below (P := fun c => c.toUpper.toNat < 128) (by decide)
      (snakeCharacter (h.characters c hc)).ascii
  refine ⟨lowerAfter_of_kept hkept [], ?_⟩
  rw [lower_of_ascii hascii, List.map_map]
  calc name.map (Char.toLower ∘ Char.toUpper) = name.map id :=
        List.map_congr_left fun c hc => (snakeCharacter (h.characters c hc)).lower_upper
    _ = name := List.map_id name

theorem titled_map_toUpper : titled (name.map Char.toUpper) = titled name := by
  cases name with
  | nil => rfl
  | cons c cs =>
    have hcs : IsSnakeCase cs := h.of_isInfix (List.suffix_cons c cs).isInfix
    have hc := snakeCharacter (h.characters c List.mem_cons_self)
    have hascii : c.toUpper.toNat < 128 :=
      forall_below (P := fun c => c.toUpper.toNat < 128) (by decide) hc.ascii
    rw [List.map_cons, titled, titled, hcs.lower_eq.1, hcs.lower_eq.2, upperChar_of_ascii hascii,
      upperChar_of_ascii hc.ascii, hc.upper_upper]

/-- A name in snake case is put together from its pieces in camel case, even if it counts as camel
case as it stands. -/
theorem camelCase_eq (hletters : letters name ≠ []) : ∃ first others,
    pieces isSeparator name = first :: others ∧
      camelCase name = lower first ++ others.flatMap titled := by
  cases hcamel : isCamelCase name with
  | false =>
    obtain ⟨first, others, hwords, -, hcase⟩ := exists_words hletters hcamel
    exact ⟨first, others, h.words_eq.1 ▸ hwords, hcase⟩
  | true =>
    have hkept : camelCase name = name := by rw [camelCase, if_pos hcamel]
    rw [isCamelCase, Bool.and_eq_true, Bool.not_eq_true', List.any_eq_false] at hcamel
    have hne : name ≠ [] := by
      rintro rfl
      exact hletters rfl
    refine ⟨name, [], pieces_of_no_separator hne fun c hc => by simpa using hcamel.2 c hc, ?_⟩
    rw [hkept, h.lower_eq.1, List.flatMap_nil, List.append_nil]

/-- Capitals are never camel case. -/
theorem isCamelCase_upper : isCamelCase (upper name) = false := by
  rw [h.upper_eq]
  cases name with
  | nil => rfl
  | cons c cs =>
    have hc := (snakeCharacter (h.characters c List.mem_cons_self)).notLower
    rw [isCamelCase, List.map_cons, List.head?_cons, Option.any_some, hc, Bool.false_and]

/-- Underscores have no capitals. -/
theorem upper_of_letters_eq_nil (hletters : letters name = []) : upper name = name := by
  have hsame : ∀ c ∈ name, c.toUpper = c := fun c hc =>
    forall_below (P := fun c => isAlphanumeric c = false → c.toUpper = c) (by decide)
      (snakeCharacter (h.characters c hc)).ascii
      (by simpa using List.filter_eq_nil_iff.mp hletters c hc)
  rw [h.upper_eq, List.map_congr_left hsame, List.map_id']

end IsSnakeCase

/-- A name in snake case without a letter behind a digit has one camel case and one Pascal case,
whether it is spelled in small letters or in capitals. -/
theorem camelCase_upper_and_pascalCase_upper {name : List Char} (h : IsSnakeCase name) :
    camelCase (upper name) = camelCase name ∧ pascalCase (upper name) = pascalCase name := by
  suffices hcamel : camelCase (upper name) = camelCase name from
    ⟨hcamel, congrArg capitalize hcamel⟩
  by_cases hletters : letters name = []
  · rw [h.upper_of_letters_eq_nil hletters]
  · obtain ⟨hwords, hwords'⟩ := h.words_eq
    obtain ⟨first, others, hpieces, hcase⟩ := h.camelCase_eq hletters
    have hpiece : ∀ w ∈ first :: others, IsSnakeCase w := fun w hw =>
      h.of_isInfix (isInfix_of_mem_pieces (hpieces ▸ hw))
    rw [hpieces, List.map_cons] at hwords'
    have hcase' : camelCase (upper name) = lower (first.map Char.toUpper) ++
        (others.map (List.map Char.toUpper)).flatMap titled := by
      rw [camelCase, h.isCamelCase_upper, if_neg Bool.false_ne_true, hwords']
    have htitled : (others.map (List.map Char.toUpper)).flatMap titled = others.flatMap titled := by
      rw [List.flatMap_map]
      exact List.flatMap_congr fun w hw =>
        (hpiece w (List.mem_cons_of_mem first hw)).titled_map_toUpper
    have hfirst := (hpiece first List.mem_cons_self).lower_eq
    rw [hcase, hcase', htitled, hfirst.1, hfirst.2]

theorem camelCase_upper_and_pascalCase_upper_address :
    IsSnakeCase "_address_line22__x3_4".toList ∧
    camelCase (upper "_address_line22__x3_4".toList) = "addressLine22X34".toList ∧
    pascalCase (upper "_address_line22__x3_4".toList) = "AddressLine22X34".toList := by
  have hsnake : IsSnakeCase "_address_line22__x3_4".toList := ⟨by decide, by decide⟩
  obtain ⟨hcamel, hpascal⟩ := camelCase_upper_and_pascalCase_upper hsnake
  refine ⟨hsnake, hcamel.trans ?_, hpascal.trans ?_⟩
  · decide +kernel
  · decide +kernel

end EntityMapper.Naming
