import EntityMapper.Proofs.Sql.Lexemes
import EntityMapper.Sql.Token

/-!
# The spans of tokens

Every token of a text has a span in it that is not empty, and the spans stand in the order of the
tokens. A word is its span, a maximal run of its lexeme without white space.
-/

namespace EntityMapper.Sql

/-- The part of a text between two indices. -/
def slice (cs : List Char) (start stop : Nat) : List Char :=
  (cs.take stop).drop start

/-- A slice is a part of its text. -/
theorem slice_isInfix (cs : List Char) (start stop : Nat) : slice cs start stop <:+: cs :=
  (List.drop_suffix _ _).isInfix.trans (List.take_prefix _ _).isInfix

/-- A slice is as long as its places are apart. -/
theorem length_slice {cs : List Char} {start stop : Nat} (h : stop ≤ cs.length) :
    (slice cs start stop).length = stop - start := by
  rw [slice, List.length_drop, List.length_take, Nat.min_eq_left h]

/-- The slice between two parts of a text is what stands there. -/
theorem slice_append_append (xs cs ys : List Char) :
    slice (xs ++ cs ++ ys) xs.length (xs.length + cs.length) = cs := by
  rw [slice, ← List.length_append, List.take_left, List.drop_left]

theorem slice_self (cs : List Char) (index : Nat) : slice cs index index = [] := by
  rw [slice, List.drop_eq_nil_iff, List.length_take]
  exact Nat.min_le_left _ _

/-- Slices of a text can be put together. -/
theorem slice_append {cs : List Char} {low mid high : Nat} (hlow : low ≤ mid) (hhigh : mid ≤ high) :
    slice cs low high = slice cs low mid ++ slice cs mid high := by
  have hsplit : high - low = (mid - low) + (high - mid) := by omega
  rw [slice, slice, slice, List.drop_take, List.drop_take, List.drop_take, hsplit, List.take_add,
    List.drop_drop, Nat.add_sub_cancel' hlow]

/-- A part in front of a longer text. -/
theorem slice_append_right {cs : List Char} {low high : Nat} (h : high ≤ cs.length)
    (more : List Char) : slice (cs ++ more) low high = slice cs low high := by
  rw [slice, List.take_append_of_le_length h, slice]

/-- The slice of a word is cut out at the place where it stands. -/
theorem slice_of_drop {cs word after : List Char} {index : Nat}
    (h : cs.drop index = word ++ after) : slice cs index (index + word.length) = word := by
  rw [slice, List.drop_take, h, Nat.add_sub_cancel_left, List.take_left]

/-- Behind a word stands what follows it. -/
theorem drop_of_drop {cs word after : List Char} {index : Nat}
    (h : cs.drop index = word ++ after) : cs.drop (index + word.length) = after := by
  rw [← List.drop_drop, h, List.drop_left]

/-- Tokens in order whose spans are not empty and lie between two indices. -/
def Spanned : Nat → Nat → List Token → Prop
  | low, high, [] => low ≤ high
  | low, high, t :: ts => low ≤ t.start ∧ t.start < t.stop ∧ Spanned t.stop high ts

namespace Spanned

theorem le {low high : Nat} {ts : List Token} (h : Spanned low high ts) : low ≤ high := by
  induction ts generalizing low with
  | nil => exact h
  | cons t ts ih =>
    obtain ⟨hlow, hlt, hts⟩ := h
    have := ih hts
    omega

/-- Tokens between two places stand between places further apart. -/
theorem mono_low {low low' high : Nat} {ts : List Token} (h : Spanned low high ts)
    (hle : low' ≤ low) : Spanned low' high ts := by
  cases ts with
  | nil => exact Nat.le_trans hle h
  | cons t ts => exact ⟨Nat.le_trans hle h.1, h.2⟩

/-- Rows of tokens between places that meet can be put together. -/
theorem append {low mid high : Nat} {xs ys : List Token} (hxs : Spanned low mid xs)
    (hys : Spanned mid high ys) : Spanned low high (xs ++ ys) := by
  induction xs generalizing low with
  | nil => exact hys.mono_low hxs
  | cons t ts ih => exact ⟨hxs.1, hxs.2.1, ih hxs.2.2⟩

/-- Leaving tokens out keeps the order of the others. -/
theorem sublist {low high : Nat} {xs ys : List Token} (hys : Spanned low high ys)
    (h : xs.Sublist ys) : Spanned low high xs := by
  induction h generalizing low with
  | slnil => exact hys
  | cons t _ ih =>
    obtain ⟨hlow, hlt, hts⟩ := hys
    exact (ih hts).mono_low (by omega)
  | cons_cons t _ ih => exact ⟨hys.1, hys.2.1, ih hys.2.2⟩

/-- A token is not empty and stands between the places. -/
theorem mem {low high : Nat} {ts : List Token} (h : Spanned low high ts) {t : Token}
    (ht : t ∈ ts) : low ≤ t.start ∧ t.start < t.stop ∧ t.stop ≤ high := by
  induction ts generalizing low with
  | nil => cases ht
  | cons u us ih =>
    obtain ⟨hlow, hlt, hus⟩ := h
    obtain rfl | ht := List.mem_cons.mp ht
    · exact ⟨hlow, hlt, hus.le⟩
    · have := ih hus ht
      omega

/-- A later token starts where an earlier one has stopped. -/
theorem stop_le_start {low high : Nat} {t : Token} {ts : List Token}
    (h : Spanned low high (t :: ts)) {u : Token} (hu : u ∈ ts) : t.stop ≤ u.start :=
  (h.2.2.mem hu).1

end Spanned

/-! ## The words of a lexeme -/

/-- The pieces of a text stand where they are found, one behind the other. -/
private theorem spanned_piecesFrom {separates : Char → Bool} (index : Nat) {cs : List Char}
    (piece : List Char) (hle : piece.length ≤ index) :
    Spanned (index - piece.length) (index + cs.length)
      ((Text.piecesFrom separates index piece cs).map fun (start, word) =>
        ⟨.word, String.ofList word, start, start + word.length⟩) := by
  have hread : ∀ high, index ≤ high → Spanned (index - piece.length) high
      ((if piece = [] then [] else [(index - piece.length, piece.reverse)]).map
        fun (start, word) =>
          (⟨.word, String.ofList word, start, start + word.length⟩ : Token)) := by
    intro high hhigh
    split
    · exact Nat.le_trans (Nat.sub_le _ _) hhigh
    · rename_i hne
      have := List.length_pos_iff.mpr hne
      simp only [List.map_cons, List.map_nil, Spanned, List.length_reverse]
      omega
  induction cs generalizing index piece with
  | nil => exact hread _ (Nat.le_refl _)
  | cons c cs ih =>
    rw [Text.piecesFrom]
    split
    · rw [List.map_append]
      refine (hread (index + 1) (by omega)).append ?_
      have := ih (index + 1) [] (Nat.zero_le _) (by simp [Spanned])
      rw [List.length_nil, Nat.sub_zero] at this
      rwa [List.length_cons, show index + (cs.length + 1) = index + 1 + cs.length by omega]
    · have hle' : (c :: piece).length ≤ index + 1 := by simp; omega
      have := ih (index + 1) (c :: piece) hle' (by
        intro high hhigh
        rw [if_neg (List.cons_ne_nil _ _)]
        simp only [List.map_cons, List.map_nil, Spanned, List.length_reverse, List.length_cons]
        omega)
      rw [List.length_cons, Nat.add_sub_add_right] at this
      rwa [List.length_cons, show index + (cs.length + 1) = index + 1 + cs.length by omega]

/-- The words of a text stand in it, one behind the other. -/
theorem spanned_wordTokens (index : Nat) (text : List Char) :
    Spanned index (index + text.length) (wordTokens index text) :=
  spanned_piecesFrom index [] (Nat.zero_le _)

/-- White space in front of the words is no token. -/
theorem wordTokens_space (index : Nat) {c : Char} (hc : Text.isSpace c = true) (cs : List Char) :
    wordTokens index (c :: cs) = wordTokens (index + 1) cs := by
  rw [wordTokens, wordTokens, Text.piecesFrom, if_pos hc]
  rfl

/-- A text without white space is one word. -/
theorem wordTokens_of_no_space {index : Nat} {text : List Char} (hne : text ≠ [])
    (h : ∀ c ∈ text, Text.isSpace c = false) :
    wordTokens index text = [⟨.word, String.ofList text, index, index + text.length⟩] := by
  have pieces : ∀ (piece : List Char) (i : Nat), piece ++ text ≠ [] → piece.length ≤ i →
      Text.piecesFrom Text.isSpace i piece text =
        [(i - piece.length, piece.reverse ++ text)] := by
    clear hne
    induction text with
    | nil =>
      intro piece i hne hle
      rw [Text.piecesFrom, if_neg (by simpa using hne), List.append_nil]
    | cons c cs ih =>
      intro piece i hne hle
      rw [Text.piecesFrom, if_neg (by simp [h c]),
        ih (fun d hd => h d (List.mem_cons_of_mem _ hd)) _ _ (by simp) (by simp; omega)]
      simp
  rw [wordTokens, pieces [] index (by simpa using hne) (Nat.zero_le _)]
  rfl

/-- A word in front of white space is one token, and the words behind it follow. -/
theorem wordTokens_cons {index : Nat} {word : List Char} {c : Char} {cs : List Char}
    (hne : word ≠ []) (h : ∀ d ∈ word, Text.isSpace d = false) (hc : Text.isSpace c = true) :
    wordTokens index (word ++ c :: cs) =
      ⟨.word, String.ofList word, index, index + word.length⟩ ::
        wordTokens (index + word.length + 1) cs := by
  have pieces : ∀ (piece : List Char) (i : Nat), piece ++ word ≠ [] → piece.length ≤ i →
      Text.piecesFrom Text.isSpace i piece (word ++ c :: cs) =
        (i - piece.length, piece.reverse ++ word) ::
          Text.piecesFrom Text.isSpace (i + word.length + 1) [] cs := by
    clear hne
    induction word with
    | nil =>
      intro piece i hne hle
      rw [List.nil_append, Text.piecesFrom, if_pos hc, if_neg (by simpa using hne),
        List.append_nil]
      rfl
    | cons d ds ih =>
      intro piece i hne hle
      rw [List.cons_append, Text.piecesFrom, if_neg (by simp [h d]),
        ih (fun e he => h e (List.mem_cons_of_mem d he)) _ _ (by simp) (by simp; omega)]
      simp only [List.length_cons, List.reverse_cons, List.append_assoc, List.singleton_append,
        Nat.add_sub_add_right]
      rw [Nat.add_right_comm i 1, Nat.add_assoc i]
  rw [wordTokens, pieces [] index (by simpa using hne) (Nat.zero_le _)]
  rfl

/-- A word up to white space or the end is one token, and the words behind it follow. -/
theorem wordTokens_append {index : Nat} {word rest : List Char} (hne : word ≠ [])
    (hword : ∀ d ∈ word, Text.isSpace d = false) (hrest : ∀ c ∈ rest.head?, Text.isSpace c = true) :
    wordTokens index (word ++ rest) =
      ⟨.word, String.ofList word, index, index + word.length⟩ ::
        wordTokens (index + word.length) rest := by
  cases rest with
  | nil =>
    rw [List.append_nil, wordTokens_of_no_space hne hword]
    rfl
  | cons c cs =>
    have hc := hrest c rfl
    rw [wordTokens_cons hne hword hc, wordTokens_space _ hc]

/-! ## The tokens of a text -/

/-- Whether lexemes of a kind yield no token. -/
def LexemeKind.isSkipped : LexemeKind → Bool
  | .blank | .newline | .lineComment | .lineHint | .blockComment | .blockHint => true
  | _ => false

/-- A lexeme is skipped, is one token as a whole, is a quoted name, or is cut into words. -/
theorem Lexeme.tokens_cases (index : Nat) (l : Lexeme) :
    (l.kind.isSkipped = true ∧ l.tokens index = []) ∨
    (∃ kind, kind ≠ .word ∧ kind ≠ .quoted ∧
      l.tokens index = [⟨kind, String.ofList l.text, index, index + l.text.length⟩]) ∨
    (∃ opening closing, l.kind.isNameLike = true ∧ l.text.head? = some opening ∧
      closingQuote? opening = some closing ∧
      l.tokens index = [⟨.quoted, String.ofList (unquote l.text opening closing), index,
        index + l.text.length⟩]) ∨
    (l.kind.isWordLike = true ∧ l.tokens index = wordTokens index l.text) := by
  have whole (kind : TokenKind) (hw : kind ≠ .word) (hq : kind ≠ .quoted) :
      ∃ k, k ≠ .word ∧ k ≠ .quoted ∧
        [(⟨kind, String.ofList l.text, index, index + l.text.length⟩ : Token)] =
          [⟨k, String.ofList l.text, index, index + l.text.length⟩] :=
    ⟨kind, hw, hq, rfl⟩
  unfold Lexeme.tokens
  dsimp only
  split
  case h_1 hk | h_2 hk | h_3 hk | h_4 hk | h_5 hk | h_6 hk => exact .inl ⟨by rw [hk]; rfl, rfl⟩
  case h_7 => exact .inr (.inl (whole .string (by decide) (by decide)))
  case h_8 => exact .inr (.inl (whole .number (by decide) (by decide)))
  case h_9 => exact .inr (.inl (whole .punctuation (by decide) (by decide)))
  case h_10 =>
    split
    · rename_i opening closing hquotes
      split at hquotes
      · rename_i hname
        obtain ⟨o, ho, hc⟩ := Option.bind_eq_some_iff.mp hquotes
        obtain ⟨d, hd, heq⟩ := Option.map_eq_some_iff.mp hc
        obtain ⟨rfl, rfl⟩ := Prod.mk.injEq .. ▸ heq
        exact .inr (.inr (.inl ⟨o, d, hname, ho, hd, rfl⟩))
      · cases hquotes
    · split
      · rename_i hword
        exact .inr (.inr (.inr ⟨hword, rfl⟩))
      · exact .inr (.inl (whole .other (by decide) (by decide)))

/-- The tokens of a lexeme stand in its text. -/
theorem spanned_tokens (index : Nat) {l : Lexeme} (hne : l.text ≠ []) :
    Spanned index (index + l.text.length) (l.tokens index) := by
  have hpos := List.length_pos_iff.mpr hne
  obtain ⟨-, h⟩ | ⟨kind, -, -, h⟩ | ⟨opening, closing, -, -, -, h⟩ | ⟨-, h⟩ :=
    l.tokens_cases index
  · rw [h]
    exact Nat.le_add_right _ _
  · rw [h]
    simp only [Spanned]
    omega
  · rw [h]
    simp only [Spanned]
    omega
  · rw [h]
    exact spanned_wordTokens index l.text

/-- The tokens of lexemes stand in their text, one behind the other. -/
theorem spanned_tokensFrom (index : Nat) {ls : List Lexeme} (hne : ∀ l ∈ ls, l.text ≠ []) :
    Spanned index (index + (textOf ls).length) (tokensFrom index ls) := by
  induction ls generalizing index with
  | nil => exact Nat.le_refl _
  | cons l ls ih =>
    have hrest := ih (index + l.text.length) fun m hm => hne m (List.mem_cons_of_mem _ hm)
    rw [textOf_cons, List.length_append, ← Nat.add_assoc]
    exact (spanned_tokens index (hne l List.mem_cons_self)).append hrest

/-- The tokens of lexemes put together are those of the first row and then of the second. -/
theorem tokensFrom_append (index : Nat) (xs ys : List Lexeme) :
    tokensFrom index (xs ++ ys) =
      tokensFrom index xs ++ tokensFrom (index + (textOf xs).length) ys := by
  induction xs generalizing index with
  | nil => rfl
  | cons l ls ih =>
    rw [List.cons_append, tokensFrom, tokensFrom, ih, List.append_assoc, textOf_cons,
      List.length_append, Nat.add_assoc]

/-- The spans of the tokens of a text lie in the text, in the order of the tokens. -/
theorem spanned_tokenize (sql : String) : Spanned 0 sql.toList.length (tokenize sql) := by
  have hne : ∀ l ∈ lexemes sql.toList, l.text ≠ [] := fun l hl =>
    text_ne_nil (s := Cursor.start sql.toList) hl
  have h := spanned_tokensFrom 0 hne
  rwa [textOf_lexemes, Nat.zero_add] at h

end EntityMapper.Sql
