import EntityMapper.Proofs.Naming.Spellings

/-!
# Names as the row of their words

The words of a chunk are a partition of it, cut exactly where a capital begins a word, and the words
of a name are those of its letters and numerals between the separators.  No word is cut further:
what stands behind a word can only make its last character begin another one.
-/

namespace EntityMapper.Text

variable {separates : Char → Bool}

/-- Where a text stands does not matter for its pieces. -/
theorem map_snd_piecesFrom (index index' : Nat) (piece cs : List Char) :
    (piecesFrom separates index piece cs).map (·.2) =
      (piecesFrom separates index' piece cs).map (·.2) := by
  induction cs generalizing index index' piece with
  | nil =>
    rw [piecesFrom, piecesFrom]
    split <;> rfl
  | cons c cs ih =>
    rw [piecesFrom, piecesFrom]
    split
    · rw [List.map_append, List.map_append, ih _ (index' + 1)]
      split <;> rfl
    · exact ih _ _ _

/-- A text is cut into pieces at each of its separators. -/
theorem pieces_append_cons {c : Char} (hc : separates c = true) (front back : List Char) :
    pieces separates (front ++ c :: back) = pieces separates front ++ pieces separates back := by
  suffices key : ∀ index piece, (piecesFrom separates index piece (front ++ c :: back)).map (·.2) =
      (piecesFrom separates index piece front).map (·.2) ++ pieces separates back from key 0 []
  induction front with
  | nil =>
    intro index piece
    rw [List.nil_append, piecesFrom, piecesFrom, if_pos hc, List.map_append,
      map_snd_piecesFrom _ 0, pieces]
  | cons d front ih =>
    intro index piece
    rw [List.cons_append, piecesFrom, piecesFrom]
    split
    · rw [List.map_append, List.map_append, ih, List.append_assoc]
    · exact ih _ _

end EntityMapper.Text

namespace EntityMapper.Naming

open Text

/-! ## Words as a partition -/

/-- The words are not empty and put together they are the text. -/
structure Partitions (cs : List Char) (ws : List (List Char)) : Prop where
  flatten_eq : ws.flatten = cs
  ne_nil : ∀ w ∈ ws, w ≠ []

/-- One of the words ends behind the given beginning of their text. -/
def EndsBehind (front : List Char) (ws : List (List Char)) : Prop :=
  ∃ before, before <+: ws ∧ before.flatten = front

theorem partitions_camelWords (chunk : List Char) : Partitions chunk (camelWords chunk) :=
  ⟨(wordsAfter_spec [] chunk).1, (wordsAfter_spec [] chunk).2⟩

theorem partitions_words (name : List Char) :
    Partitions (name.filter (!isSeparator ·)) (words name) := by
  refine ⟨(flatten_words name).trans ?_, fun w hw => words_ne_nil hw⟩
  rw [letters]
  exact List.filter_congr fun c _ => (Bool.not_not _).symm

/-- A character of a word separates nothing. -/
theorem not_isSeparator_of_mem_words {name w : List Char} (hw : w ∈ words name) {c : Char}
    (hc : c ∈ w) : isSeparator c = false := by
  have hletter : c ∈ letters name := by
    rw [← flatten_words]
    exact List.mem_flatten.mpr ⟨w, hw, hc⟩
  rw [isSeparator, (mem_letters.mp hletter).2]
  rfl

/-! ## Where words end -/

/-- No word ends before the first one does. -/
theorem not_endsBehind_of_length_lt {front w : List Char} {ws : List (List Char)}
    (hne : front ≠ []) (hlonger : front.length < w.length) : ¬ EndsBehind front (w :: ws) := by
  rintro ⟨before, hbefore, hflatten⟩
  cases before with
  | nil => exact hne hflatten.symm
  | cons v before =>
    obtain ⟨rfl, -⟩ := List.cons_prefix_cons.mp hbefore
    have hlength := congrArg List.length hflatten
    rw [List.flatten_cons, List.length_append] at hlength
    omega

/-- Behind the first word the others end where they do without it. -/
theorem endsBehind_append_iff {w front : List Char} (hne : front ≠ []) (ws : List (List Char)) :
    EndsBehind (w ++ front) (w :: ws) ↔ EndsBehind front ws := by
  constructor
  · rintro ⟨before, hbefore, hflatten⟩
    cases before with
    | nil =>
      have hnil : w ++ front = [] := hflatten.symm
      exact absurd (List.append_eq_nil_iff.mp hnil).2 hne
    | cons v before =>
      obtain ⟨rfl, hrest⟩ := List.cons_prefix_cons.mp hbefore
      exact ⟨before, hrest, List.append_cancel_left hflatten⟩
  · rintro ⟨before, hbefore, rfl⟩
    exact ⟨w :: before, List.cons_prefix_cons.mpr ⟨rfl, hbefore⟩, rfl⟩

/-- A word ends in front of a character exactly if the character begins a word. -/
theorem endsBehind_wordsAfter_iff (previous : Char) (word front : List Char) (c : Char)
    (after : List Char) :
    EndsBehind ((previous :: word).reverse ++ front)
        (wordsAfter (previous :: word) (front ++ c :: after)) ↔
      beginsWord (front.getLastD previous) c after.head? = true := by
  induction front generalizing previous word with
  | nil =>
    rw [List.append_nil, List.nil_append, wordsAfter, List.getLastD_nil]
    split
    · rename_i hbegins
      exact iff_of_true ⟨_, List.prefix_append [_] _, by simp⟩ hbegins
    · rename_i hbegins
      obtain ⟨more, others, hwords, -⟩ := wordsAfter_kept_iff c (previous :: word) after
      refine iff_of_false ?_ hbegins
      rw [hwords]
      exact not_endsBehind_of_length_lt (by simp) (by simp)
  | cons d front ih =>
    rw [List.cons_append, wordsAfter, List.getLastD_cons]
    split
    · rw [endsBehind_append_iff (List.cons_ne_nil d front)]
      exact ih d []
    · have hsame : (previous :: word).reverse ++ d :: front =
          (d :: previous :: word).reverse ++ front := by simp
      rw [hsame]
      exact ih d (previous :: word)

/-- The words of a chunk end where capitals begin words. -/
theorem endsBehind_camelWords_iff (front : List Char) (previous c : Char) (after : List Char) :
    EndsBehind (front ++ [previous]) (camelWords (front ++ previous :: c :: after)) ↔
      beginsWord previous c after.head? = true := by
  cases front with
  | nil => exact endsBehind_wordsAfter_iff previous [] [] c after
  | cons first front =>
    have hends := endsBehind_wordsAfter_iff first [] (front ++ [previous]) c after
    rw [List.getLastD_concat] at hends
    simpa [camelWords, wordsAfter] using hends

/-! ## Words of words -/

/-- What begins no word in front of a text begins none in front of a beginning of the text. -/
theorem beginsWord_of_isPrefix {previous c : Char} {cs more : List Char}
    (h : beginsWord previous c cs.head? = false) (hmore : more <+: cs) :
    beginsWord previous c more.head? = false := by
  cases more with
  | nil =>
    rw [beginsWord, Bool.and_eq_false_iff, Bool.or_eq_false_iff] at h
    rw [beginsWord, Bool.and_eq_false_iff, Bool.or_eq_false_iff]
    exact h.imp id fun hprevious => ⟨hprevious.1, by simp⟩
  | cons d more =>
    obtain ⟨back, rfl⟩ := hmore
    exact h

/-- No word begins inside a word that is cut out. -/
theorem isUnbroken_wordsAfter (previous : Char) (word cs : List Char) : ∃ more others,
    wordsAfter (previous :: word) cs = ((previous :: word).reverse ++ more) :: others ∧
      more <+: cs ∧ isUnbroken (previous :: more) = true ∧
      ∀ w ∈ others, isUnbroken w = true := by
  induction cs generalizing previous word with
  | nil =>
    exact ⟨[], [], by rw [wordsAfter, List.append_nil]; simp, List.prefix_rfl, rfl, by simp⟩
  | cons c cs ih =>
    rw [wordsAfter]
    split
    · obtain ⟨more, others, hwords, -, hfirst, hothers⟩ := ih c []
      refine ⟨[], wordsAfter [c] cs, by rw [List.append_nil], List.nil_prefix, rfl, ?_⟩
      rw [hwords, List.forall_mem_cons]
      exact ⟨hfirst, hothers⟩
    · rename_i hbegins
      obtain ⟨more, others, hwords, hmore, hfirst, hothers⟩ := ih c (previous :: word)
      rw [Bool.not_eq_true] at hbegins
      refine ⟨c :: more, others, by rw [hwords]; simp, List.cons_prefix_cons.mpr ⟨rfl, hmore⟩, ?_,
        hothers⟩
      rw [isUnbroken, beginsWord_of_isPrefix hbegins hmore, hfirst]
      rfl

theorem isUnbroken_of_mem_camelWords {chunk w : List Char} (hw : w ∈ camelWords chunk) :
    isUnbroken w = true := by
  cases chunk with
  | nil => cases hw
  | cons c cs =>
    obtain ⟨more, others, hwords, -, hfirst, hothers⟩ := isUnbroken_wordsAfter c [] cs
    rw [camelWords, wordsAfter, hwords] at hw
    obtain rfl | hw := List.mem_cons.mp hw
    · exact hfirst
    · exact hothers w hw

/-- The words of a text without separators are those of a chunk. -/
theorem words_of_no_separator {cs : List Char} (hne : cs ≠ [])
    (h : ∀ c ∈ cs, isSeparator c = false) : words cs = camelWords cs := by
  rw [words, pieces_of_no_separator hne h, List.flatMap_singleton]

/-- A word of a name has no words but itself. -/
theorem words_of_mem_words {name w : List Char} (hw : w ∈ words name) : words w = [w] := by
  have hne : w ≠ [] := words_ne_nil hw
  obtain ⟨chunk, -, hchunk⟩ := List.mem_flatMap.mp hw
  rw [words_of_no_separator hne fun c hc => not_isSeparator_of_mem_words hw hc]
  exact camelWords_of_isUnbroken hne (isUnbroken_of_mem_camelWords hchunk)

/-- The words of a chunk are a partition of it that is cut exactly where a capital begins a word.
The words of a name are a partition of what is left of it without separators, of which none goes
over a separator, and every word is the only word of itself. -/
theorem partitions_camelWords_and_words (chunk name : List Char) :
    (Partitions chunk (camelWords chunk) ∧
      ∀ front previous c after, chunk = front ++ previous :: c :: after →
        (EndsBehind (front ++ [previous]) (camelWords chunk) ↔
          beginsWord previous c after.head? = true)) ∧
    Partitions (name.filter (!isSeparator ·)) (words name) ∧
    (∀ front c back, name = front ++ c :: back → isSeparator c = true →
      words name = words front ++ words back) ∧
    ∀ w ∈ words name, (∀ c ∈ w, isSeparator c = false) ∧ words w = [w] := by
  refine ⟨⟨partitions_camelWords chunk, ?_⟩, partitions_words name, ?_, fun w hw => ?_⟩
  · rintro front previous c after rfl
    exact endsBehind_camelWords_iff front previous c after
  · rintro front c back rfl hc
    rw [words, pieces_append_cons hc, List.flatMap_append, words, words]
  · exact ⟨fun c hc => not_isSeparator_of_mem_words hw hc, words_of_mem_words hw⟩

theorem partitions_camelWords_and_words_acronym :
    "HTTPServer2Go".toList = "HTT".toList ++ 'P' :: 'S' :: "erver2Go".toList ∧
    EndsBehind "HTTP".toList (camelWords "HTTPServer2Go".toList) ∧
    "_HTTPServer2Go ID".toList = "_HTTPServer2Go".toList ++ ' ' :: "ID".toList ∧
    isSeparator ' ' = true ∧
    words "_HTTPServer2Go ID".toList = words "_HTTPServer2Go".toList ++ words "ID".toList ∧
    "HTTP".toList ∈ words "_HTTPServer2Go ID".toList ∧
    words "HTTP".toList = ["HTTP".toList] := by
  have hchunk : "HTTPServer2Go".toList = "HTT".toList ++ 'P' :: 'S' :: "erver2Go".toList := by
    decide
  have hname : "_HTTPServer2Go ID".toList = "_HTTPServer2Go".toList ++ ' ' :: "ID".toList := by
    decide
  have hseparator : isSeparator ' ' = true := by decide
  have hmem : "HTTP".toList ∈ words "_HTTPServer2Go ID".toList := by decide +kernel
  obtain ⟨⟨-, hends⟩, -, hsplit, hwords⟩ :=
    partitions_camelWords_and_words "HTTPServer2Go".toList "_HTTPServer2Go ID".toList
  refine ⟨hchunk, (hends _ 'P' 'S' _ hchunk).mpr (by decide +kernel), hname, hseparator,
    hsplit _ ' ' _ hname hseparator, hmem, (hwords _ hmem).2⟩

end EntityMapper.Naming
