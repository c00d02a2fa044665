import EntityMapper.Naming.Words

/-!
# The letters of a name

The words of a name, put together again, are its letters and numerals.  So a name has no words
exactly if it has neither letters nor numerals.
-/

namespace EntityMapper.Text

/-- The pieces of a text are what is left of it without separators. -/
theorem flatten_pieces (separates : Char → Bool) (cs : List Char) :
    (pieces separates cs).flatten = cs.filter (!separates ·) := by
  suffices h : ∀ index piece, ((piecesFrom separates index piece cs).map (·.2)).flatten =
      piece.reverse ++ cs.filter (!separates ·) from h 0 []
  induction cs with
  | nil =>
    intro index piece
    rw [piecesFrom]
    split
    · rename_i hpiece
      simp [hpiece]
    · simp
  | cons c cs ih =>
    intro index piece
    rw [piecesFrom]
    split
    · rename_i hc
      rw [List.map_append, List.flatten_append, ih]
      by_cases hpiece : piece = []
      · simp [hpiece, hc]
      · simp [hpiece, hc]
    · rename_i hc
      rw [ih]
      simp [hc]

/-- A text without separators is one piece. -/
theorem pieces_of_no_separator {separates : Char → Bool} {cs : List Char} (hne : cs ≠ [])
    (h : ∀ c ∈ cs, separates c = false) : pieces separates cs = [cs] := by
  have key : ∀ index piece, piece.reverse ++ cs ≠ [] →
      (piecesFrom separates index piece cs).map (·.2) = [piece.reverse ++ cs] := by
    clear hne
    induction cs with
    | nil =>
      intro index piece hne
      rw [piecesFrom, if_neg (by simpa using hne)]
      simp
    | cons c cs ih =>
      intro index piece _
      obtain ⟨hc, hcs⟩ := List.forall_mem_cons.mp h
      rw [piecesFrom, if_neg (by simp [hc]), ih hcs _ _ (by simp)]
      simp
  exact key 0 [] (by simpa using hne)

/-- No piece is empty. -/
theorem pieces_ne_nil {separates : Char → Bool} {cs piece : List Char}
    (h : piece ∈ pieces separates cs) : piece ≠ [] := by
  suffices key : ∀ index front, piece ∈ (piecesFrom separates index front cs).map (·.2) →
      piece ≠ [] from key 0 [] h
  clear h
  induction cs with
  | nil =>
    intro index front hmem
    rw [piecesFrom] at hmem
    split at hmem
    · cases hmem
    · rename_i hfront
      obtain rfl : piece = front.reverse := by simpa using hmem
      simpa using hfront
  | cons c cs ih =>
    intro index front hmem
    rw [piecesFrom] at hmem
    split at hmem
    · rw [List.map_append, List.mem_append] at hmem
      rcases hmem with hmem | hmem
      · by_cases hfront : front = []
        · simp [hfront] at hmem
        · obtain rfl : piece = front.reverse := by simpa [hfront] using hmem
          simpa using hfront
      · exact ih _ _ hmem
    · exact ih _ _ hmem

end EntityMapper.Text

namespace EntityMapper.Naming

open Text

/-- The letters and numerals of a name. -/
def letters (name : List Char) : List Char :=
  name.filter isAlphanumeric

theorem mem_letters {name : List Char} {c : Char} :
    c ∈ letters name ↔ c ∈ name ∧ isAlphanumeric c = true :=
  List.mem_filter

theorem wordsAfter_spec (word cs : List Char) :
    (wordsAfter word cs).flatten = word.reverse ++ cs ∧ ∀ w ∈ wordsAfter word cs, w ≠ [] := by
  fun_induction wordsAfter word cs with
  | case1 => simp
  | case2 word hword =>
    cases word with
    | nil => exact absurd rfl hword
    | cons c cs => simp
  | case3 c cs ih => simpa using ih
  | case4 previous word c cs _ ih =>
    obtain ⟨hflatten, hne⟩ := ih
    refine ⟨?_, List.forall_mem_cons.mpr ⟨by simp, hne⟩⟩
    rw [List.flatten_cons, hflatten]
    simp
  | case5 previous word c cs _ ih => simpa using ih

/-- The words of a name are its letters and numerals. -/
theorem flatten_words (name : List Char) : (words name).flatten = letters name := by
  have hkept : (fun c => !isSeparator c) = isAlphanumeric := by
    funext c
    exact Bool.not_not _
  have hchunks : ∀ chunks : List (List Char), (chunks.flatMap camelWords).flatten =
      chunks.flatten := by
    intro chunks
    induction chunks with
    | nil => rfl
    | cons chunk chunks ih =>
      rw [List.flatMap_cons, List.flatten_append, ih, camelWords, (wordsAfter_spec [] chunk).1]
      rfl
  rw [words, hchunks, flatten_pieces, hkept, letters]

theorem words_ne_nil {name w : List Char} (h : w ∈ words name) : w ≠ [] := by
  obtain ⟨chunk, -, hw⟩ := List.mem_flatMap.mp h
  exact (wordsAfter_spec [] chunk).2 w hw

/-- A name has no words if it has neither letters nor numerals. -/
theorem words_eq_nil_iff {name : List Char} : words name = [] ↔ letters name = [] := by
  rw [← flatten_words, List.flatten_eq_nil_iff]
  constructor
  · intro h
    simp [h]
  · intro h
    refine List.eq_nil_iff_forall_not_mem.mpr fun w hw => ?_
    exact words_ne_nil hw (h w hw)

end EntityMapper.Naming
