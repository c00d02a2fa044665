import EntityMapper.Proofs.Naming.Case

/-!
# Names that camel case keeps

Camel case keeps a name without letters and numerals. Any other name is kept if it holds no
separator, and begins with a lower-case letter or has all its capitals at the beginnings of words.
What camel case makes of a name need not be of that kind, so a second time may change it again.
-/

namespace EntityMapper.Text

/-! ## Forms that begin with their character -/

/-- The code points that a run moves. -/
def CaseRun.points (run : CaseRun) : List Nat :=
  (List.range' run.first (run.last + 1 - run.first)).filter run.moves

theorem CaseRun.mem_points {run : CaseRun} {n : Nat} (h : run.moves n = true) : n ∈ run.points := by
  refine List.mem_filter.mpr ⟨List.mem_range'_1.mpr ?_, h⟩
  simp only [CaseRun.moves, Bool.and_eq_true, decide_eq_true_eq] at h
  omega

/-- What the tables say of letters that are in upper case already: the mapping to upper case moves
none of them, and no longer form begins with its own letter. -/
structure CapitalTables : Prop where
  runsAscend : (CaseMapping.toUpper.flatMap CaseRun.points).IsChain (· < ·)
  runs : (CodePoints.ofPoints (CaseMapping.toUpper.flatMap CaseRun.points)).relates
    (fun p q => !(p && q)) Property.uppercase = true
  longsAscend : (CaseMapping.toUpperLong.map (·.1)).IsChain (· < ·)
  longs : (CodePoints.ofPoints (CaseMapping.toUpperLong.map (·.1))).relates
    (fun p q => !(p && q)) Property.uppercase = true
  heads : ∀ entry ∈ CaseMapping.toUpperLong,
    entry.2 ≠ [] ∧ (entry.2.map Char.ofNat).head?.all (·.toNat != entry.1) = true

theorem capitalTables : CapitalTables where
  runsAscend := by decide +kernel
  runs := by decide +kernel
  longsAscend := by decide +kernel
  longs := by decide +kernel
  heads := by decide +kernel

/-- Upper-case letters are their own upper-case forms. -/
theorem upperChar_of_isUpper {c : Char} (h : isUpper c = true) : upperChar c = [c] := by
  by_cases hascii : c.toNat < 128
  · exact forall_below (P := fun c => isUpper c = true → upperChar c = [c]) (by decide) hascii h
  · have hcapital : Property.uppercase.has c.toNat = true := by
      have halpha : (c.isUpper || c.isLower) = false := (Java.isAlpha_of_not_ascii hascii).1
      rw [Bool.or_eq_false_iff] at halpha
      rwa [isUpper, halpha.1, Bool.false_or] at h
    rw [upperChar, if_neg hascii]
    split
    · rename_i long hlookup
      obtain ⟨before, after, heq, -⟩ := List.lookup_eq_some_iff.mp hlookup
      have hlong := CodePoints.not_has_of_points capitalTables.longsAscend capitalTables.longs
        (List.mem_map.mpr ⟨(c.toNat, long), by simp [heq], rfl⟩)
      rw [hcapital] at hlong
      cases hlong
    · have hnone : CaseMapping.toUpper.find? (·.moves c.toNat) = none := by
        rw [List.find?_eq_none]
        intro run hrun hmoves
        have hmoved := CodePoints.not_has_of_points capitalTables.runsAscend capitalTables.runs
          (List.mem_flatMap.mpr ⟨run, hrun, CaseRun.mem_points hmoves⟩)
        rw [hcapital] at hmoved
        cases hmoved
      rw [CaseRun.image?, hnone]
      rfl

/-- An upper-case form that begins with its own letter is nothing else. -/
theorem upperChar_eq_of_head {c : Char} {es : List Char} (h : upperChar c = c :: es) : es = [] := by
  by_cases hascii : c.toNat < 128
  · rw [upperChar_of_ascii hascii] at h
    exact (List.cons_eq_cons.mp h).2.symm
  · rw [upperChar, if_neg hascii] at h
    split at h
    · rename_i long hlookup
      obtain ⟨before, after, heq, -⟩ := List.lookup_eq_some_iff.mp hlookup
      have hhead := (capitalTables.heads (c.toNat, long) (by simp [heq])).2
      rw [h] at hhead
      simp at hhead
    · exact (List.cons_eq_cons.mp h).2.symm

/-- A lower-case form that begins with its own letter is nothing else. -/
theorem lowerChar_eq_of_head {c : Char} {es : List Char} (h : lowerChar c = c :: es) : es = [] := by
  by_cases hascii : c.toNat < 128
  · rw [lowerChar_of_ascii hascii] at h
    exact (List.cons_eq_cons.mp h).2.symm
  · rw [lowerChar, if_neg hascii] at h
    split at h
    · rename_i hdotted
      rw [hdotted] at h
      exact absurd (List.cons_eq_cons.mp h).1 (by decide)
    · exact (List.cons_eq_cons.mp h).2.symm

theorem lowerChar_ne_nil (c : Char) : lowerChar c ≠ [] := by
  unfold lowerChar
  split
  · exact List.cons_ne_nil _ _
  · split
    · exact List.cons_ne_nil _ _
    · exact List.cons_ne_nil _ _

theorem upperChar_ne_nil (c : Char) : upperChar c ≠ [] := by
  intro hnil
  by_cases hascii : c.toNat < 128
  · rw [upperChar_of_ascii hascii] at hnil
    cases hnil
  · rw [upperChar, if_neg hascii] at hnil
    split at hnil
    · rename_i long hlookup
      obtain ⟨before, after, heq, -⟩ := List.lookup_eq_some_iff.mp hlookup
      have hlong := (capitalTables.heads (c.toNat, long) (by simp [heq])).1
      exact hlong (List.map_eq_nil_iff.mp hnil)
    · cases hnil

/-- Lower case keeps a text whose characters it keeps. -/
theorem lowerAfter_of_kept {cs : List Char} (h : ∀ c ∈ cs, lowerChar c = [c])
    (before : List Char) : lowerAfter before cs = cs := by
  induction cs generalizing before with
  | nil => rfl
  | cons c cs ih =>
    obtain ⟨hc, hcs⟩ := List.forall_mem_cons.mp h
    have hsigma : c ≠ 'Σ' := by
      rintro rfl
      exact absurd hc (by decide)
    rw [lowerAfter, if_neg hsigma, hc, ih hcs, List.singleton_append]

end EntityMapper.Text

namespace EntityMapper.Naming

open Text Java

/-! ## Where capitals begin words -/

/-- A character that lower case changes stands behind another one and begins a word there; the
character in front of the text is given. -/
def CapitalsBeginAfter (before : Option Char) (cs : List Char) : Prop :=
  ∀ front c after, cs = front ++ c :: after → lowerChar c ≠ [c] →
    (front.getLast?.or before).any (beginsWord · c after.head?) = true

/-- Every character of a text that lower case changes begins a word behind another character. -/
def CapitalsBegin (cs : List Char) : Prop :=
  CapitalsBeginAfter none cs

theorem capitalsBeginAfter_nil (before : Option Char) : CapitalsBeginAfter before [] := by
  intro front c after heq
  cases front <;> cases heq

theorem capitalsBeginAfter_cons {before : Option Char} {c : Char} {cs : List Char} :
    CapitalsBeginAfter before (c :: cs) ↔
      (lowerChar c = [c] ∨ before.any (beginsWord · c cs.head?) = true) ∧
        CapitalsBeginAfter (some c) cs := by
  constructor
  · intro h
    refine ⟨?_, fun front d after heq hd => ?_⟩
    · by_cases hc : lowerChar c = [c]
      · exact .inl hc
      · exact .inr (h [] c cs rfl hc)
    · have hlast := h (c :: front) d after (by rw [heq, List.cons_append]) hd
      rw [List.getLast?_cons] at hlast
      cases hfront : front.getLast? <;> simpa [hfront] using hlast
  · rintro ⟨hc, hcs⟩ front d after heq hd
    cases front with
    | nil =>
      obtain ⟨rfl, rfl⟩ := List.cons_eq_cons.mp heq
      exact hc.resolve_left hd
    | cons e front =>
      obtain ⟨rfl, rfl⟩ := List.cons_eq_cons.mp heq
      have hlast := hcs front d after rfl hd
      rw [List.getLast?_cons]
      cases hfront : front.getLast? <;> simpa [hfront] using hlast

/-- The rest of the first word and the characters behind the first one of every other word are kept
by lower case exactly if the capitals begin words, and every other word begins with a capital. -/
theorem wordsAfter_kept_iff (previous : Char) (word cs : List Char) : ∃ more others,
    wordsAfter (previous :: word) cs = ((previous :: word).reverse ++ more) :: others ∧
      (∀ w ∈ others, w.head?.any isUpper = true) ∧
      ((∀ c ∈ more ++ others.flatMap (·.drop 1), lowerChar c = [c]) ↔
        CapitalsBeginAfter (some previous) cs) := by
  induction cs generalizing previous word with
  | nil =>
    refine ⟨[], [], by rw [wordsAfter, List.append_nil]; simp, by simp, ?_⟩
    simp [capitalsBeginAfter_nil]
  | cons c cs ih =>
    rw [wordsAfter, capitalsBeginAfter_cons, Option.any_some]
    split
    · rename_i hbegins
      obtain ⟨more, others, hwords, hupper, hiff⟩ := ih c []
      refine ⟨[], wordsAfter [c] cs, by rw [List.append_nil], ?_, ?_⟩
      · rw [beginsWord, Bool.and_eq_true] at hbegins
        rw [hwords, List.forall_mem_cons]
        exact ⟨hbegins.1, hupper⟩
      · rw [hwords, ← hiff]
        simp [hbegins]
    · rename_i hbegins
      obtain ⟨more, others, hwords, hupper, hiff⟩ := ih c (previous :: word)
      refine ⟨c :: more, others, by rw [hwords]; simp, hupper, ?_⟩
      rw [← hiff, List.cons_append, List.forall_mem_cons]
      simp [hbegins]

/-! ## What is kept -/

theorem letters_cons {c : Char} (hc : isAlphanumeric c = true) (cs : List Char) :
    letters (c :: cs) = c :: letters cs :=
  List.filter_cons_of_pos hc

/-- A form of a letter or numeral begins with a letter or numeral. -/
theorem isAlphanumeric_of_isForm {c e : Char} {es : List Char} (hc : isAlphanumeric c = true)
    (h : isForm c (e :: es) = true) : isAlphanumeric e = true := by
  rcases isForm_iff.mp h with hsame | ⟨-, d, ds, heq, hd, -⟩
  · rwa [(List.cons_eq_cons.mp hsame).1]
  · rw [isInitial, Bool.and_eq_true] at hd
    rw [(List.cons_eq_cons.mp heq).1]
    exact hd.1

/-- If a text in lower case, with more behind it, has the letters of the text in front then lower
case keeps the characters of the text. -/
theorem kept_of_lowerAfter {before cs xs ys : List Char}
    (h : letters (lowerAfter before cs ++ xs) = cs ++ ys) :
    (∀ c ∈ cs, lowerChar c = [c]) ∧ letters xs = ys := by
  induction cs generalizing before with
  | nil => exact ⟨fun c hc => absurd hc List.not_mem_nil, h⟩
  | cons c cs ih =>
    have hmem : c ∈ letters (lowerAfter before (c :: cs) ++ xs) := by
      rw [h]
      exact List.mem_cons_self
    have hc : isAlphanumeric c = true := forall_mem_letters _ c hmem
    rw [lowerAfter, List.append_assoc, List.cons_append] at h
    split at h
    · have hforms : ∀ e ∈ ['ς', 'σ'], isAlphanumeric e = true ∧ e ≠ 'Σ' := by decide
      rename_i hsigma
      subst hsigma
      split at h
      · rw [List.singleton_append, letters_cons (hforms _ (by simp)).1] at h
        exact absurd (List.cons_eq_cons.mp h).1 (hforms _ (by simp)).2
      · rw [List.singleton_append, letters_cons (hforms _ (by simp)).1] at h
        exact absurd (List.cons_eq_cons.mp h).1 (hforms _ (by simp)).2
    · obtain ⟨e, es, hform⟩ := List.exists_cons_of_ne_nil (lowerChar_ne_nil c)
      have he := isAlphanumeric_of_isForm hc (hform ▸ isForm_lowerChar (.inl hc))
      rw [hform, List.cons_append, letters_cons he] at h
      obtain ⟨rfl, hrest⟩ := List.cons_eq_cons.mp h
      obtain rfl := lowerChar_eq_of_head hform
      obtain ⟨hcs, hxs⟩ := ih hrest
      exact ⟨List.forall_mem_cons.mpr ⟨hform, hcs⟩, hxs⟩

/-- If words with capital letters in front have the letters of the words then they are the words,
and lower case keeps the characters behind the first ones. -/
theorem kept_of_titled {ws : List (List Char)} (hne : ∀ w ∈ ws, w ≠ [])
    (h : letters (ws.flatMap titled) = ws.flatten) :
    ws.flatMap titled = ws.flatten ∧ ∀ c ∈ ws.flatMap (·.drop 1), lowerChar c = [c] := by
  induction ws with
  | nil => exact ⟨rfl, fun c hc => absurd hc List.not_mem_nil⟩
  | cons w ws ih =>
    obtain ⟨hw, hws⟩ := List.forall_mem_cons.mp hne
    obtain ⟨c, cs, rfl⟩ := List.exists_cons_of_ne_nil hw
    have hmem : c ∈ letters (((c :: cs) :: ws).flatMap titled) := by
      rw [h]
      exact List.mem_append_left _ List.mem_cons_self
    have hc : isAlphanumeric c = true := forall_mem_letters _ c hmem
    obtain ⟨e, es, hform⟩ := List.exists_cons_of_ne_nil (upperChar_ne_nil c)
    have he := isAlphanumeric_of_isForm hc (hform ▸ isForm_upperChar (.inl hc))
    rw [List.flatMap_cons, titled, hform, List.append_assoc, List.cons_append, letters_cons he,
      List.flatten_cons, List.cons_append] at h
    obtain ⟨rfl, hrest⟩ := List.cons_eq_cons.mp h
    obtain rfl := upperChar_eq_of_head hform
    obtain ⟨hcs, hletters⟩ := kept_of_lowerAfter hrest
    obtain ⟨htitled, hkept⟩ := ih hws hletters
    constructor
    · rw [List.flatMap_cons, titled, hform, lower, lowerAfter_of_kept hcs, htitled,
        List.flatten_cons, List.singleton_append]
    · rw [List.flatMap_cons, List.forall_mem_append]
      exact ⟨hcs, hkept⟩

/-- A word that begins with a capital is kept with a capital letter in front if lower case keeps
the rest. -/
theorem titled_of_kept {w : List Char} (hhead : w.head?.any isUpper = true)
    (h : ∀ c ∈ w.drop 1, lowerChar c = [c]) : titled w = w := by
  cases w with
  | nil => rfl
  | cons c cs =>
    have hcs : ∀ d ∈ cs, lowerChar d = [d] := h
    rw [titled, upperChar_of_isUpper hhead, lower, lowerAfter_of_kept hcs, List.singleton_append]

/-! ## Names that are kept -/

theorem letters_eq_self_iff {cs : List Char} :
    letters cs = cs ↔ ∀ c ∈ cs, isSeparator c = false := by
  simp [letters, List.filter_eq_self, isSeparator]

/-- Camel case that is not kept as it stands puts the words together. -/
theorem exists_words {cs : List Char} (hletters : letters cs ≠ [])
    (hcamel : isCamelCase cs = false) :
    ∃ first others, words cs = first :: others ∧ letters cs = first ++ others.flatten ∧
      camelCase cs = lower first ++ others.flatMap titled := by
  obtain ⟨first, others, hwords⟩ := List.exists_cons_of_ne_nil (mt words_eq_nil_iff.mp hletters)
  refine ⟨first, others, hwords, ?_, ?_⟩
  · rw [← flatten_words, hwords, List.flatten_cons]
  · rw [camelCase, hcamel, if_neg Bool.false_ne_true, hwords]

/-- A text of letters and numerals has a first word, which begins with its first character, and the
capitals in it begin words exactly if lower case keeps all characters but the first ones of the
other words, which are capitals. -/
theorem exists_words_of_no_separator {cs : List Char} (hne : cs ≠ [])
    (h : ∀ c ∈ cs, isSeparator c = false) : ∃ first others, words cs = first :: others ∧
      (∀ w ∈ others, w.head?.any isUpper = true) ∧
      ((∀ c ∈ first ++ others.flatMap (·.drop 1), lowerChar c = [c]) ↔ CapitalsBegin cs) := by
  obtain ⟨c, cs, rfl⟩ := List.exists_cons_of_ne_nil hne
  obtain ⟨more, others, hwords, hupper, hiff⟩ := wordsAfter_kept_iff c [] cs
  refine ⟨c :: more, others, ?_, hupper, ?_⟩
  · rw [words, pieces_of_no_separator hne h, List.flatMap_singleton, camelWords, wordsAfter, hwords]
    rfl
  · rw [CapitalsBegin, capitalsBeginAfter_cons, ← hiff, List.cons_append, List.forall_mem_cons]
    simp

/-- Camel case keeps a name that has neither letters nor numerals, and one without separators that
begins with a lower-case letter or in which capitals begin words, and no other. -/
theorem camelCase_eq_self_iff {cs : List Char} : camelCase cs = cs ↔
    letters cs = [] ∨ (∀ c ∈ cs, isSeparator c = false) ∧
      (cs.head?.any isLower = true ∨ CapitalsBegin cs) := by
  by_cases hletters : letters cs = []
  · simp [camelCase_of_letters_eq_nil hletters, hletters]
  cases hcamel : isCamelCase cs with
  | true =>
    have hkept : camelCase cs = cs := by rw [camelCase, if_pos hcamel]
    rw [isCamelCase, Bool.and_eq_true, Bool.not_eq_true', List.any_eq_false] at hcamel
    have hnone : ∀ c ∈ cs, isSeparator c = false := fun c hc => by simpa using hcamel.2 c hc
    exact iff_of_true hkept (.inr ⟨hnone, .inl hcamel.1⟩)
  | false =>
    obtain ⟨first, others, hwords, hflatten, hcase⟩ := exists_words hletters hcamel
    have hne : cs ≠ [] := by
      rintro rfl
      exact hletters rfl
    rw [hcase, or_iff_right hletters]
    constructor
    · intro heq
      rw [← heq] at hflatten
      obtain ⟨hfirst, hothers⟩ := kept_of_lowerAfter hflatten
      obtain ⟨htitled, hinner⟩ := kept_of_titled
        (fun w hw => words_ne_nil (hwords ▸ List.mem_cons_of_mem first hw)) hothers
      have hsame : letters cs = cs := by
        rw [← heq, hflatten, lower, lowerAfter_of_kept hfirst, htitled]
      have hnone := letters_eq_self_iff.mp hsame
      obtain ⟨first', others', hwords', -, hiff⟩ := exists_words_of_no_separator hne hnone
      obtain ⟨rfl, rfl⟩ := List.cons_eq_cons.mp (hwords.symm.trans hwords')
      exact ⟨hnone, .inr (hiff.mp (List.forall_mem_append.mpr ⟨hfirst, hinner⟩))⟩
    · rintro ⟨hnone, hlower | hcapitals⟩
      · rw [isCamelCase, hlower, Bool.true_and, Bool.not_eq_false', List.any_eq_true] at hcamel
        obtain ⟨c, hc, hseparator⟩ := hcamel
        rw [hnone c hc] at hseparator
        cases hseparator
      · obtain ⟨first', others', hwords', hupper, hiff⟩ := exists_words_of_no_separator hne hnone
        obtain ⟨rfl, rfl⟩ := List.cons_eq_cons.mp (hwords.symm.trans hwords')
        obtain ⟨hfirst, hinner⟩ := List.forall_mem_append.mp (hiff.mpr hcapitals)
        have htitled : ∀ w ∈ others, titled w = w := fun w hw =>
          titled_of_kept (hupper w hw) fun c hc => hinner c (List.mem_flatMap.mpr ⟨w, hw, hc⟩)
        rw [lower, lowerAfter_of_kept hfirst, List.flatMap_def, List.map_congr_left htitled,
          List.map_id', ← hflatten, letters_eq_self_iff.mpr hnone]

/-! ## Camel case a second time -/

/-- In camel case a name has letters or numerals if it had some. -/
theorem letters_camelCase_eq_nil_iff {name : List Char} :
    letters (camelCase name) = [] ↔ letters name = [] := by
  constructor
  · intro hnil
    by_contra hletters
    obtain ⟨c, cs, hcons⟩ := List.exists_cons_of_ne_nil hletters
    have hc : isAlphanumeric c = true := by
      apply forall_mem_letters name c
      rw [hcons]
      exact List.mem_cons_self
    obtain ⟨d, rest, hcase, hd⟩ := (hcons ▸ recased_camelCase hletters).head
    have hletter : isAlphanumeric d = true := by
      rcases hd with rfl | ⟨-, hinitial⟩
      · exact hc
      · rw [isInitial, Bool.and_eq_true] at hinitial
        exact hinitial.1
    rw [hcase, letters_cons hletter] at hnil
    cases hnil
  · intro hnil
    rw [camelCase_of_letters_eq_nil hnil, hnil]

section Ascii

variable {cs : List Char} (hcs : ∀ c ∈ cs, c.toNat < 128 ∧ isAlphanumeric c = true)
include hcs

theorem isAlphanumeric_of_mem_lower : ∀ d ∈ lower cs, isAlphanumeric d = true := by
  intro d hd
  rw [lower_of_ascii fun c hc => (hcs c hc).1] at hd
  obtain ⟨c, hc, rfl⟩ := List.mem_map.mp hd
  exact forall_below (P := fun c => isAlphanumeric c = true → isAlphanumeric c.toLower = true)
    (by decide) (hcs c hc).1 (hcs c hc).2

theorem isAlphanumeric_of_mem_titled : ∀ d ∈ titled cs, isAlphanumeric d = true := by
  cases cs with
  | nil => exact fun d hd => absurd hd List.not_mem_nil
  | cons c cs =>
    obtain ⟨⟨hascii, hletter⟩, hcs⟩ := List.forall_mem_cons.mp hcs
    rw [titled, upperChar_of_ascii hascii, List.singleton_append, List.forall_mem_cons]
    constructor
    · exact forall_below (P := fun c => isAlphanumeric c = true → isAlphanumeric c.toUpper = true)
        (by decide) hascii hletter
    · exact isAlphanumeric_of_mem_lower hcs

end Ascii

/-- A name of ASCII letters and digits that begins with a letter counts as camel case once it has
been put in camel case. -/
theorem isCamelCase_camelCase_of_ascii {name : List Char}
    (hascii : ∀ c ∈ letters name, c.toNat < 128)
    (hhead : (letters name).head?.any Char.isAlpha = true) :
    isCamelCase (camelCase name) = true := by
  cases hcamel : isCamelCase name with
  | true => rwa [camelCase, if_pos hcamel]
  | false =>
    have hletters : letters name ≠ [] := by
      intro hnil
      rw [hnil] at hhead
      cases hhead
    obtain ⟨first, others, hwords, hflatten, hcase⟩ := exists_words hletters hcamel
    have hall : ∀ c ∈ first ++ others.flatten, c.toNat < 128 ∧ isAlphanumeric c = true := by
      rw [← hflatten]
      exact fun c hc => ⟨hascii c hc, forall_mem_letters name c hc⟩
    obtain ⟨hfirst, hothers⟩ := List.forall_mem_append.mp hall
    have hne : first ≠ [] := words_ne_nil (hwords ▸ List.mem_cons_self)
    rw [isCamelCase, Bool.and_eq_true, Bool.not_eq_true', List.any_eq_false]
    constructor
    · obtain ⟨c, cs, rfl⟩ := List.exists_cons_of_ne_nil hne
      rw [hflatten] at hhead
      rw [hcase, lower_of_ascii fun d hd => (hfirst d hd).1]
      exact forall_below (P := fun c => c.isAlpha = true → isLower c.toLower = true) (by decide)
        (hfirst c List.mem_cons_self).1 hhead
    · intro d hd
      have hletter : isAlphanumeric d = true := by
        rw [hcase, List.mem_append, List.mem_flatMap] at hd
        rcases hd with hd | ⟨w, hw, hd⟩
        · exact isAlphanumeric_of_mem_lower hfirst d hd
        · refine isAlphanumeric_of_mem_titled (fun c hc => ?_) d hd
          exact hothers c (List.mem_flatten.mpr ⟨w, hw, hc⟩)
      rw [isSeparator, hletter]
      exact Bool.false_ne_true

/-- A name in camel case is kept in camel case if it has neither letters nor numerals, or no
separators are left in it and it begins with a lower-case letter or its capitals begin words.  It is
kept if its letters are ASCII letters and digits of which the first is a letter. -/
theorem camelCase_camelCase_iff (name : List Char) :
    (camelCase (camelCase name) = camelCase name ↔
      letters name = [] ∨ (∀ c ∈ camelCase name, isSeparator c = false) ∧
        ((camelCase name).head?.any isLower = true ∨ CapitalsBegin (camelCase name))) ∧
    ((∀ c ∈ letters name, c.toNat < 128) → (letters name).head?.any Char.isAlpha = true →
      camelCase (camelCase name) = camelCase name) := by
  constructor
  · rw [camelCase_eq_self_iff, letters_camelCase_eq_nil_iff]
  · intro hascii hhead
    rw [camelCase, if_pos (isCamelCase_camelCase_of_ascii hascii hhead)]

theorem camelCase_camelCase_acronym :
    (∀ c ∈ letters "_HTTP_url ID".toList, c.toNat < 128) ∧
    (letters "_HTTP_url ID".toList).head?.any Char.isAlpha = true ∧
    camelCase (camelCase "_HTTP_url ID".toList) = "httpUrlId".toList := by
  have hascii : ∀ c ∈ letters "_HTTP_url ID".toList, c.toNat < 128 := by decide +kernel
  have hhead : (letters "_HTTP_url ID".toList).head?.any Char.isAlpha = true := by decide +kernel
  refine ⟨hascii, hhead, ?_⟩
  rw [(camelCase_camelCase_iff "_HTTP_url ID".toList).2 hascii hhead]
  decide +kernel

/-- Behind a digit the words of one letter run together, and the second time they are one word. -/
theorem camelCase_camelCase_ne_digit :
    camelCase "1_a_b".toList = "1AB".toList ∧ camelCase "1AB".toList = "1Ab".toList ∧
    camelCase (camelCase "1_a_b".toList) ≠ camelCase "1_a_b".toList := by
  decide +kernel

end EntityMapper.Naming
