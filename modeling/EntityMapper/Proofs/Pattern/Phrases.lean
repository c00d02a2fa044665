import EntityMapper.Proofs.Pattern.Consumption

/-!
# The phrases that a pattern speaks

The patterns of keywords match nothing but phrases: words in either case and white space between
them. The phrases of a pattern are a finite list that is read off the pattern, one part after the
other.
-/

namespace EntityMapper.Pattern

/-! ## Phrases -/

/-- A part of a phrase: a word, or white space. -/
inductive Piece where
  | word (value : String)
  | gap
  deriving DecidableEq, Repr

/-- A text is a phrase in its pieces, with its letters in either case and any white space in its
gaps. -/
inductive Spelled : List Piece → List Char → Prop where
  | nil : Spelled [] []
  | word {value : String} {xs cs : List Char} {ps : List Piece}
      (letters : List.Forall₂ (fun d c => Text.sameLetter d c = true) value.toList xs)
      (rest : Spelled ps cs) : Spelled (.word value :: ps) (xs ++ cs)
  | gap {xs cs : List Char} {ps : List Piece} (ne_nil : xs ≠ [])
      (blank : ∀ c ∈ xs, Text.isSpace c = true) (rest : Spelled ps cs) :
      Spelled (.gap :: ps) (xs ++ cs)

/-- Spellings of two rows of pieces, put together, spell both rows. -/
theorem Spelled.append {ps qs : List Piece} {xs ys : List Char} (hp : Spelled ps xs)
    (hq : Spelled qs ys) : Spelled (ps ++ qs) (xs ++ ys) := by
  induction hp with
  | nil => exact hq
  | word hletters _ ih =>
    rw [List.cons_append, List.append_assoc]
    exact .word hletters ih
  | gap hne hblank _ ih =>
    rw [List.cons_append, List.append_assoc]
    exact .gap hne hblank ih

/-- A pattern takes nothing but the given phrases. -/
def Speaks (p : Pattern) (phrases : List (List Piece)) : Prop :=
  ∀ s t, Ends p s t → ∃ ps ∈ phrases, ∃ cs, Spelled ps cs ∧ Consumes s cs t

/-- A fixed text speaks one word. -/
theorem speaks_text (word : String) : Speaks (text word) [[.word word]] := by
  intro s t h
  obtain ⟨cs, hcs, hconsumes⟩ := ends_text.mp h
  refine ⟨_, List.mem_singleton_self _, cs, ?_, hconsumes⟩
  rw [← List.append_nil cs]
  exact .word hcs .nil

/-- White space speaks one gap. -/
theorem speaks_blanks : Speaks blanks [[.gap]] := by
  intro s t h
  obtain ⟨cs, hne, hcs, hconsumes⟩ := ends_oneOrMore.mp h
  refine ⟨_, List.mem_singleton_self _, cs, ?_, hconsumes⟩
  rw [← List.append_nil cs]
  exact .gap hne hcs .nil

/-- The edge of a word takes no text. -/
theorem speaks_wordEdge : Speaks wordEdge [[]] := by
  rintro s t ⟨rfl, -⟩
  exact ⟨[], List.mem_singleton_self _, [], .nil, .nil t⟩

variable {p q : Pattern} {xs ys : List (List Piece)}

/-- A sequence speaks what its parts speak, one behind the other. -/
theorem Speaks.append (hp : Speaks p xs) (hq : Speaks q ys) :
    Speaks (p ++ q) (xs.flatMap fun x => ys.map (x ++ ·)) := by
  rintro s t ⟨m, hm, ht⟩
  obtain ⟨ps, hps, cs, hcs, hfirst⟩ := hp s m hm
  obtain ⟨qs, hqs, ds, hds, hrest⟩ := hq m t ht
  exact ⟨ps ++ qs, List.mem_flatMap.mpr ⟨ps, hps, List.mem_map_of_mem hqs⟩, cs ++ ds,
    hcs.append hds, hfirst.append hrest⟩

/-- A choice speaks what either side speaks. -/
theorem Speaks.orElse (hp : Speaks p xs) (hq : Speaks q ys) : Speaks (p <|> q) (xs ++ ys) := by
  rintro s t (h | h)
  · obtain ⟨ps, hps, hspelled⟩ := hp s t h
    exact ⟨ps, List.mem_append_left ys hps, hspelled⟩
  · obtain ⟨ps, hps, hspelled⟩ := hq s t h
    exact ⟨ps, List.mem_append_right xs hps, hspelled⟩

theorem Speaks.optional (hp : Speaks p xs) : Speaks (Pattern.optional p) (xs ++ [[]]) :=
  hp.orElse fun s _ h => ⟨[], List.mem_singleton_self _, [], .nil, h ▸ .nil s⟩

/-- A choice of texts speaks one of the words. -/
theorem speaks_anyOf (words : List String) : Speaks (anyOf words) (words.map ([.word ·])) := by
  induction words using anyOf.induct with
  | case1 =>
    rintro s t ⟨c, hc, -⟩
    cases hc
  | case2 word => exact speaks_text word
  | case3 word words hne ih =>
    rw [anyOf.eq_3 word words hne]
    exact (speaks_text word).orElse ih

/-- The pieces of words with white space between them. -/
def phrasePieces : List String → List Piece
  | [] => []
  | [word] => [.word word]
  | word :: words => .word word :: .gap :: phrasePieces words

/-- A phrase speaks its words with gaps between them. -/
theorem speaks_phrase (words : List String) : Speaks (phrase words) [phrasePieces words] := by
  induction words using phrase.induct with
  | case1 => exact speaks_wordEdge
  | case2 word => exact (speaks_text word).append speaks_wordEdge
  | case3 word words hne ih =>
    rw [phrase.eq_3 word words hne]
    have hpieces : phrasePieces (word :: words) = .word word :: .gap :: phrasePieces words := by
      cases words with
      | nil => exact absurd rfl hne
      | cons _ _ => rfl
    rw [hpieces]
    exact ((speaks_text word).append speaks_blanks).append ih

end EntityMapper.Pattern
