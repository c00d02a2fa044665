import EntityMapper.Java.Literal
import EntityMapper.Proofs.Java.Characters

/-!
# Pieces of Java source

Source text as a row of blanks, words, signs and string literals.  Where no two neighbours run into
one another, such a text is cut into the tokens of its pieces, whatever the literals hold.
-/

namespace EntityMapper.Java

open Text

/-- A piece of source text. -/
inductive Piece where
  | blank (c : Char)
  | word (w : String)
  | sign (c : Char)
  | quoted (s : String)
  deriving DecidableEq, Repr

namespace Piece

/-- What a sign is. -/
def signKind (c : Char) : TokenKind :=
  if c = '@' then .atSign else if isSeparator c then .separator else .operator

/-- A piece as it is written. -/
def text : Piece → List Char
  | blank c | sign c => [c]
  | word w => w.toList
  | quoted s => (literal s).toList

/-- The tokens of a piece. -/
def tokens : Piece → List Token
  | blank _ => []
  | word w => [⟨wordKind w, w⟩]
  | sign c => [⟨signKind c, String.singleton c⟩]
  | quoted s => [⟨.literal, literal s⟩]

/-- The signs that no other sign begins with. -/
def loneSigns : List Char :=
  ['@', '(', ')', '\x7b', '\x7d', '[', ']', ';', ',']

/-- The signs that a piece can be. -/
def plainSigns : List Char :=
  loneSigns ++ ['.', '=', '*']

/-- Whether a piece is what it is meant to be. -/
def isSound : Piece → Bool
  | blank c => c == ' ' || c == '\n'
  | word w => w.toList.head?.any beginsIdentifier && (w.toList.drop 1).all continuesIdentifier
  | sign c => plainSigns.contains c
  | quoted _ => true

/-- Whether a piece can stand next to another one. -/
def fits : Piece → Piece → Bool
  | word _, word _ => false
  | sign _, sign d => d != '.' && d != '='
  | _, _ => true

/-- Whether a piece ends in front of a character. -/
def endsAt : Piece → Char → Bool
  | word _, c => !continuesIdentifier c
  | sign _, c => c != '.' && c != '=' && !Text.isDigit c
  | _, _ => true

/-- The text of a row of pieces. -/
def textOf (ps : List Piece) : List Char :=
  ps.flatMap text

/-- The tokens of a row of pieces. -/
def tokensOf (ps : List Piece) : List Token :=
  ps.flatMap tokens

/-- Whether every piece of a row can stand next to the one behind it. -/
def spaced : List Piece → Bool
  | p :: q :: ps => p.fits q && spaced (q :: ps)
  | _ => true

variable {p q : Piece} {ps : List Piece} {rest : List Char}

@[simp] theorem textOf_nil : textOf [] = [] := rfl

@[simp] theorem textOf_cons : textOf (p :: ps) = p.text ++ textOf ps := rfl

/-- The text of two rows of pieces is that of the first and that of the second. -/
@[simp] theorem textOf_append (ps qs : List Piece) : textOf (ps ++ qs) = textOf ps ++ textOf qs :=
  List.flatMap_append

@[simp] theorem tokensOf_nil : tokensOf [] = [] := rfl

@[simp] theorem tokensOf_cons : tokensOf (p :: ps) = p.tokens ++ tokensOf ps := rfl

/-- The tokens of two rows of pieces are those of the first and those of the second. -/
@[simp] theorem tokensOf_append (ps qs : List Piece) :
    tokensOf (ps ++ qs) = tokensOf ps ++ tokensOf qs :=
  List.flatMap_append

/-- A word is sound iff it begins and goes on as an identifier does. -/
theorem isSound_word {w : String} :
    (word w).isSound = true ↔ ∃ c cs, w.toList = c :: cs ∧ beginsIdentifier c = true ∧
      ∀ d ∈ cs, continuesIdentifier d = true := by
  rw [isSound, Bool.and_eq_true, List.all_eq_true]
  cases w.toList with
  | nil => simp
  | cons c cs => simp

/-- A name is a sound word. -/
theorem isSound_of_isName {w : String} (h : isName w.toList = true) : (word w).isSound = true :=
  isSound_word.mpr (isName_iff.mp h).1

/-- A piece that can stand next to another one ends in front of it. -/
theorem exists_endsAt (hp : p.isSound = true) (hq : q.isSound = true) (h : p.fits q = true) :
    ∃ c cs, q.text = c :: cs ∧ p.endsAt c = true := by
  have hblank : ∀ c, (c == ' ' || c == '\n') = true →
      continuesIdentifier c = false ∧ c ≠ '.' ∧ c ≠ '=' ∧ Text.isDigit c = false := by
    intro c hc
    rw [Bool.or_eq_true, beq_iff_eq, beq_iff_eq] at hc
    rcases hc with rfl | rfl <;> decide
  have hsign : ∀ c ∈ plainSigns, continuesIdentifier c = false ∧ Text.isDigit c = false := by
    decide
  cases q with
  | blank c =>
    refine ⟨c, [], rfl, ?_⟩
    obtain ⟨hname, hdot, hequals, hdigit⟩ := hblank c hq
    cases p <;> simp [endsAt, *]
  | word w =>
    obtain ⟨c, cs, htext, hc, -⟩ := isSound_word.mp hq
    refine ⟨c, cs, htext, ?_⟩
    cases p with
    | word w' => cases h
    | sign d =>
      have hdot : c ≠ '.' := by rintro rfl; cases hc
      have hequals : c ≠ '=' := by rintro rfl; cases hc
      simp [endsAt, hdot, hequals, isDigit_of_beginsIdentifier hc]
    | blank d => rfl
    | quoted s => rfl
  | sign c =>
    refine ⟨c, [], rfl, ?_⟩
    obtain ⟨hname, hdigit⟩ := hsign c (List.contains_iff_mem.mp hq)
    cases p with
    | sign d => simpa [endsAt, hdigit, fits] using h
    | word w => simp [endsAt, hname]
    | blank d => rfl
    | quoted s => rfl
  | quoted s =>
    refine ⟨'"', s.toList.flatMap escaped ++ ['"'], by simp [text, literal], ?_⟩
    cases p <;> rfl

/-! ## Cutting off one piece -/

/-- An escaped text ends at the quote behind it. -/
theorem quotedLength?_escaped (cs rest : List Char) :
    quotedLength? '"' false (cs.flatMap escaped ++ '"' :: rest) =
      some ((cs.flatMap escaped).length + 1) := by
  induction cs with
  | nil => rfl
  | cons c cs ih =>
    rw [List.flatMap_cons, escaped]
    split
    · rename_i h
      have hescape : isEscape c = true := by rcases h with rfl | rfl <;> rfl
      simp [quotedLength?, hescape, ih]
    · rename_i h
      rw [not_or] at h
      have hbackslash : (c == '\\') = false := beq_eq_false_iff_ne.mpr h.1
      simp [quotedLength?, hbackslash, h.2, ih]

/-- A word is one token up to the first character that does not continue it. -/
theorem front_word {c : Char} {cs : List Char} (hc : beginsIdentifier c = true)
    (hcs : ∀ d ∈ cs, continuesIdentifier d = true)
    (hrest : ∀ d ∈ rest.head?, continuesIdentifier d = false) :
    front c (cs ++ rest) = .token (wordKind (String.ofList (c :: cs))) (c :: cs).length := by
  have hword : (cs ++ rest).takeWhile continuesIdentifier = cs := by
    rw [List.takeWhile_append_of_pos hcs]
    cases rest with
    | nil => simp
    | cons d ds => simp [hrest d (by simp)]
  have hsigns := not_mem_signs hc
  simp only [signs, List.mem_cons, List.not_mem_nil, not_or, or_false] at hsigns
  have hseparator : isSeparator c = false := by simp [isSeparator, hsigns]
  have hdigit : c.isDigit = false :=
    (Bool.or_eq_false_iff.mp (isDigit_of_beginsIdentifier hc)).1
  simp [front, isSpace_of_beginsIdentifier hc, hseparator, hdigit, hc, hword, hsigns,
    List.isPrefixOf, Ne.symm hsigns.1, Ne.symm hsigns.2.1]

/-- A plain sign is one token where no longer sign begins with it. -/
theorem front_sign {c : Char} (hc : c ∈ plainSigns)
    (hrest : ∀ d ∈ rest.head?, (sign c).endsAt d = true) :
    front c rest = .token (signKind c) 1 := by
  rcases List.mem_append.mp hc with hlone | hlong
  · simp only [loneSigns, List.mem_cons, List.not_mem_nil, or_false] at hlone
    rcases hlone with rfl | rfl | rfl | rfl | rfl | rfl | rfl | rfl | rfl <;> rfl
  · simp only [List.mem_cons, List.not_mem_nil, or_false] at hlong
    rcases rest with _ | ⟨d, ds⟩
    · rcases hlong with rfl | rfl | rfl <;> rfl
    · have hd : (d ≠ '.' ∧ d ≠ '=') ∧ Text.isDigit d = false := by
        simpa [endsAt] using hrest d (by simp)
      obtain ⟨⟨hdot, hequals⟩, hdigit⟩ := hd
      rcases hlong with rfl | rfl | rfl
      · simp [front, List.isPrefixOf, Ne.symm hdot, hdigit, isSeparator, signKind]
        decide
      · have hoperator : operatorLength? ('=' :: d :: ds) = some 1 := by
          simp [operatorLength?, operators, List.isPrefixOf, Ne.symm hequals]
        change Front.ofLength? .operator (operatorLength? ('=' :: d :: ds)) = _
        rw [hoperator]
        rfl
      · have hoperator : operatorLength? ('*' :: d :: ds) = some 1 := by
          simp [operatorLength?, operators, List.isPrefixOf, Ne.symm hequals]
        change Front.ofLength? .operator (operatorLength? ('*' :: d :: ds)) = _
        rw [hoperator]
        rfl

/-- A token at the front is split off, and the tokens go on behind it. -/
theorem tokensWithin_of_front {c : Char} {kind : TokenKind} {n : Nat}
    (h : front c rest = .token kind n) (hkind : kind ≠ .fault) (fuel : Nat) :
    tokensWithin (fuel + 1) (c :: rest) =
      ⟨kind, String.ofList ((c :: rest).take n)⟩ :: tokensWithin fuel ((c :: rest).drop n) := by
  rw [tokensWithin, h]
  cases kind <;> first | rfl | exact absurd rfl hkind

/-- Every word is a token of the language. -/
theorem wordKind_ne_fault (w : String) : wordKind w ≠ .fault := by
  unfold wordKind
  repeat' split
  all_goals decide

/-- A piece is cut off in one step, if it ends where the rest begins. -/
theorem tokensWithin_text (hp : p.isSound = true) (hrest : ∀ d ∈ rest.head?, p.endsAt d = true)
    (fuel : Nat) :
    tokensWithin (fuel + 1) (p.text ++ rest) = p.tokens ++ tokensWithin fuel rest := by
  cases p with
  | blank c =>
    have hc : c = ' ' ∨ c = '\n' := by simpa [isSound] using hp
    have hfront : front c rest = .skipped 1 := by rcases hc with rfl | rfl <;> rfl
    simp [text, tokens, tokensWithin, hfront]
  | word w =>
    obtain ⟨c, cs, htext, hc, hcs⟩ := isSound_word.mp hp
    have hw : String.ofList (c :: cs) = w := by rw [← htext, String.ofList_toList]
    have hends : ∀ d ∈ rest.head?, continuesIdentifier d = false := fun d hd => by
      simpa [endsAt] using hrest d hd
    have hfront := front_word hc hcs hends
    rw [hw] at hfront
    simp [text, tokens, htext, hw, tokensWithin_of_front hfront (wordKind_ne_fault w)]
  | sign c =>
    have hfront := front_sign (List.contains_iff_mem.mp hp) hrest
    have hkind : signKind c ≠ .fault := by
      unfold signKind
      repeat' split
      all_goals decide
    simp [text, tokens, tokensWithin_of_front hfront hkind]
  | quoted s =>
    have hfront : front '"' (s.toList.flatMap escaped ++ '"' :: rest) =
        .token .literal ((s.toList.flatMap escaped).length + 2) := by
      change Front.ofLength? .literal ((quotedLength? '"' false _).map (· + 1)) = _
      rw [quotedLength?_escaped]
      rfl
    simp only [text, tokens, literal, String.toList_ofList]
    generalize s.toList.flatMap escaped = body at hfront
    have htake : body.take (body.length + 1) = body := List.take_of_length_le (by omega)
    have hdrop : body.drop (body.length + 1) = [] := List.drop_of_length_le (by omega)
    have htokens := tokensWithin_of_front hfront (by decide) fuel
    simpa [List.take_append, List.drop_append, htake, hdrop] using htokens

/-- A sound piece is not empty. -/
theorem length_text_pos (hp : p.isSound = true) : 0 < p.text.length := by
  cases p with
  | blank c => exact Nat.one_pos
  | sign c => exact Nat.one_pos
  | word w =>
    obtain ⟨c, cs, htext, -⟩ := isSound_word.mp hp
    simp [text, htext]
  | quoted s => simp [text, literal]

/-- A row of pieces is cut into their tokens. -/
theorem tokensWithin_textOf (hsound : ∀ p ∈ ps, p.isSound = true) (hspaced : spaced ps = true) :
    ∀ {fuel : Nat}, (textOf ps).length ≤ fuel → tokensWithin fuel (textOf ps) = tokensOf ps := by
  induction ps with
  | nil =>
    intro fuel _
    cases fuel <;> rfl
  | cons p ps ih =>
    intro fuel hfuel
    obtain ⟨hp, hps⟩ := List.forall_mem_cons.mp hsound
    have hpos : 0 < p.text.length := length_text_pos hp
    rw [textOf_cons, List.length_append] at hfuel
    obtain ⟨fuel, rfl⟩ : ∃ n, fuel = n + 1 := ⟨fuel - 1, by omega⟩
    have hrest : spaced ps = true ∧ ∀ d ∈ (textOf ps).head?, p.endsAt d = true := by
      cases ps with
      | nil => exact ⟨rfl, by simp⟩
      | cons q ps =>
        rw [spaced, Bool.and_eq_true] at hspaced
        obtain ⟨c, cs, htext, hends⟩ := exists_endsAt hp (hps q List.mem_cons_self) hspaced.1
        refine ⟨hspaced.2, ?_⟩
        rw [textOf_cons, htext]
        simpa using hends
    rw [textOf_cons, tokensWithin_text hp hrest.2, ih hps hrest.1 (by omega), tokensOf_cons]

end Piece

/-! ## Unicode escapes -/

/-- A text in which no backslash begins a Unicode escape. -/
inductive Escapeless : List Char → Prop
  | nil : Escapeless []
  | char {c : Char} {cs : List Char} (hc : c ≠ '\\') (hcs : Escapeless cs) : Escapeless (c :: cs)
  | escape {c : Char} {cs : List Char} (hc : c ≠ 'u') (hcs : Escapeless cs) :
      Escapeless ('\\' :: c :: cs)

namespace Escapeless

variable {cs ds : List Char}

/-- Two texts without Unicode escapes make one. -/
theorem append (h : Escapeless cs) (h' : Escapeless ds) : Escapeless (cs ++ ds) := by
  induction h with
  | nil => exact h'
  | char hc _ ih => exact .char hc ih
  | escape hc _ ih => exact .escape hc ih

/-- A text without a backslash has no Unicode escape. -/
theorem of_not_mem (h : '\\' ∉ cs) : Escapeless cs := by
  induction cs with
  | nil => exact .nil
  | cons c cs ih =>
    rw [List.mem_cons, not_or] at h
    exact .char (Ne.symm h.1) (ih h.2)

/-- An escaped text has no Unicode escape. -/
theorem escaped_text (cs : List Char) : Escapeless (cs.flatMap escaped) := by
  induction cs with
  | nil => exact .nil
  | cons c cs ih =>
    rw [List.flatMap_cons, escaped]
    split
    · rename_i h
      exact .escape (by rcases h with rfl | rfl <;> decide) ih
    · rename_i h
      exact .char (fun hc => h (.inl hc)) ih

/-- Replacing Unicode escapes leaves a text without them as it is, whatever is read before it. -/
theorem replaceEscapesWithin_eq (h : Escapeless cs) :
    ∀ {fuel : Nat}, cs.length < fuel → ∀ plain,
      replaceEscapesWithin fuel .none plain [] cs = some (plain.reverse ++ cs) := by
  induction h with
  | nil =>
    intro fuel hfuel plain
    obtain ⟨fuel, rfl⟩ : ∃ n, fuel = n + 1 := ⟨fuel - 1, by omega⟩
    simp [replaceEscapesWithin]
  | char hc _ ih =>
    intro fuel hfuel plain
    obtain ⟨fuel, rfl⟩ : ∃ n, fuel = n + 1 := ⟨fuel - 1, by omega⟩
    rw [List.length_cons] at hfuel
    simp [replaceEscapesWithin, hc, ih (by omega : _ < fuel)]
  | escape hc _ ih =>
    intro fuel hfuel plain
    rw [List.length_cons, List.length_cons] at hfuel
    obtain ⟨fuel, rfl⟩ : ∃ n, fuel = n + 1 + 1 := ⟨fuel - 2, by omega⟩
    simp [replaceEscapesWithin, hc, ih (by omega : _ < fuel)]

/-- Replacing Unicode escapes leaves a text without them as it is. -/
theorem replaceEscapes_eq (h : Escapeless cs) : replaceEscapes cs = some cs :=
  h.replaceEscapesWithin_eq (Nat.lt_succ_self _) []

end Escapeless

namespace Piece

variable {ps : List Piece}

/-- A sound piece has no Unicode escape. -/
theorem escapeless_text {p : Piece} (hp : p.isSound = true) : Escapeless p.text := by
  cases p with
  | blank c =>
    refine .of_not_mem fun h => ?_
    obtain rfl : '\\' = c := List.mem_singleton.mp h
    cases hp
  | sign c =>
    refine .of_not_mem fun h => ?_
    obtain rfl : '\\' = c := List.mem_singleton.mp h
    cases hp
  | word w =>
    obtain ⟨c, cs, htext, hc, hcs⟩ := isSound_word.mp hp
    refine .of_not_mem fun h => ?_
    rw [text, htext] at h
    rcases List.mem_cons.mp h with rfl | h
    · exact absurd hc (by decide)
    · exact absurd (hcs _ h) (by decide)
  | quoted s =>
    rw [text, literal, String.toList_ofList, List.cons_append]
    exact .char (by decide) ((Escapeless.escaped_text _).append (.char (by decide) .nil))

/-- A row of sound pieces has no Unicode escape. -/
theorem escapeless_textOf (h : ∀ p ∈ ps, p.isSound = true) : Escapeless (textOf ps) := by
  induction ps with
  | nil => exact .nil
  | cons p ps ih =>
    obtain ⟨hp, hps⟩ := List.forall_mem_cons.mp h
    exact (escapeless_text hp).append (ih hps)

/-- Source text that is a row of pieces has their tokens. -/
theorem tokenize_eq {source : String} (hsource : source.toList = textOf ps)
    (hsound : ∀ p ∈ ps, p.isSound = true) (hspaced : spaced ps = true) :
    tokenize source = tokensOf ps := by
  rw [tokenize, hsource, (escapeless_textOf hsound).replaceEscapes_eq]
  exact tokensWithin_textOf hsound hspaced (Nat.le_refl _)

end Piece

end EntityMapper.Java
