import EntityMapper.Proofs.Java.Pieces
import Mathlib.Algebra.Group.Nat.Even
import Mathlib.Data.List.TakeWhile

/-!
# Literals as Java reads them

The rules by which Java reads a string literal: its escapes, the octal ones among them, and the
quote that closes it on the line where it was opened. What is written for a text is read as that
text, up to the closing quote and no further, unless a line end in the text breaks the literal off.
No backslash in it begins a Unicode escape.
-/

namespace EntityMapper.Java

/-! ## Reading a literal -/

/-- Why a text does not begin with a string literal. -/
inductive LiteralFault where
  /-- No quote opens it. -/
  | unopened
  /-- The text ends before the closing quote. -/
  | unclosed
  /-- The line ends before the closing quote. -/
  | lineEnd
  /-- A backslash stands before what is no escape. -/
  | escape
  deriving DecidableEq, Repr

/-- What has been read inside a literal. -/
inductive LiteralState where
  /-- Nothing that goes on. -/
  | plain
  /-- A backslash. -/
  | backslash
  /-- A backslash and octal digits of a value, behind which so many more can stand. -/
  | octal (more value : Nat)
  deriving DecidableEq, Repr

/-- Whether a character ends a line. -/
def isLineEnd (c : Char) : Bool :=
  c == '\n' || c == '\r'

/-- The value of an octal digit. -/
def octalValue? (c : Char) : Option Nat :=
  if '0' ≤ c ∧ c ≤ '7' then some (c.toNat - '0'.toNat) else none

/-- The characters that stand for others behind a backslash. -/
def escapeValues : List (Char × Char) :=
  [('b', '\x08'), ('s', ' '), ('t', '\t'), ('n', '\n'), ('f', '\x0c'), ('r', '\r'), ('"', '"'),
   ('\x27', '\x27'), ('\\', '\\')]

/-- What a character does in a literal: it closes the literal, or it gives characters of its value
and leads on. -/
inductive LiteralStep where
  | close (value : List Char)
  | next (value : List Char) (state : LiteralState)
  | fault (f : LiteralFault)
  deriving DecidableEq, Repr

/-- What a character does that continues no escape; characters that are complete with it are
given. -/
def plainStep (value : List Char) (c : Char) : LiteralStep :=
  if c = '"' then .close value
  else if c = '\\' then .next value .backslash
  else if isLineEnd c then .fault .lineEnd
  else .next (value ++ [c]) .plain

/-- What a character does in a state. -/
def LiteralState.step : LiteralState → Char → LiteralStep
  | .plain, c => plainStep [] c
  | .backslash, c =>
    match octalValue? c, escapeValues.lookup c with
    | some d, _ => .next [] (.octal (if d ≤ 3 then 2 else 1) d)
    | none, some e => .next [e] .plain
    | none, none => .fault .escape
  | .octal more value, c =>
    match octalValue? c, more with
    | some d, more + 1 => .next [] (.octal more (8 * value + d))
    | _, _ => plainStep [Char.ofNat value] c

/-- The rest of a literal in a state: its value and the text behind the closing quote. -/
def readLiteralFrom : LiteralState → List Char → Except LiteralFault (List Char × List Char)
  | _, [] => .error .unclosed
  | state, c :: cs =>
    match state.step c with
    | .close value => .ok (value, cs)
    | .next value state => (readLiteralFrom state cs).map fun (more, rest) => (value ++ more, rest)
    | .fault f => .error f

/-- The literal that a text begins with: its value and the text behind the closing quote. Two quotes
are an empty literal, also in front of a third one: text blocks are not read. -/
def readLiteral : List Char → Except LiteralFault (List Char × List Char)
  | [] => .error .unopened
  | c :: cs => if c = '"' then readLiteralFrom .plain cs else .error .unopened

/-- Escapes of different lengths, and digits that are no part of them. -/
example : readLiteral "\"\\t\\0\\1019\\477\"x".toList =
    .ok (['\t', Char.ofNat 0, 'A', '9', Char.ofNat 0o47, '7'], ['x']) := by
  decide

section Reading

variable {state state' : LiteralState} {c : Char} {cs value : List Char}

/-- A step that reads a value puts it in front of what is read behind it. -/
theorem readLiteralFrom_of_next (h : state.step c = .next value state') :
    readLiteralFrom state (c :: cs) =
      (readLiteralFrom state' cs).map fun (more, rest) => (value ++ more, rest) := by
  rw [readLiteralFrom, h]

/-- A step that fails ends the reading with its fault. -/
theorem readLiteralFrom_of_fault {f : LiteralFault} (h : state.step c = .fault f) :
    readLiteralFrom state (c :: cs) = .error f := by
  rw [readLiteralFrom, h]

/-- Inside a literal an escaped character is read as the character, unless it ends the line. -/
theorem readLiteralFrom_escaped (c : Char) (cs : List Char) :
    readLiteralFrom .plain (escaped c ++ cs) =
      if isLineEnd c then .error .lineEnd
      else (readLiteralFrom .plain cs).map fun (more, rest) => (c :: more, rest) := by
  rw [escaped]
  split
  · rename_i hc
    have hbackslash : LiteralState.plain.step '\\' = .next [] .backslash := by decide
    have hstep : isLineEnd c = false ∧ LiteralState.backslash.step c = .next [c] .plain := by
      rcases hc with rfl | rfl <;> decide
    rw [List.cons_append, List.singleton_append, readLiteralFrom_of_next hbackslash,
      readLiteralFrom_of_next hstep.2, hstep.1]
    cases readLiteralFrom .plain cs <;> rfl
  · rename_i hc
    rw [not_or] at hc
    have hstep : LiteralState.plain.step c =
        if isLineEnd c then .fault .lineEnd else .next [c] .plain := by
      rw [LiteralState.step, plainStep, if_neg hc.2, if_neg hc.1, List.nil_append]
    rw [List.singleton_append]
    split
    · rename_i hline
      rw [if_pos hline] at hstep
      exact readLiteralFrom_of_fault hstep
    · rename_i hline
      rw [if_neg hline] at hstep
      exact readLiteralFrom_of_next hstep

/-- An escaped text is read back up to the quote behind it, unless a line ends in it. -/
theorem readLiteralFrom_flatMap_escaped (cs rest : List Char) :
    readLiteralFrom .plain (cs.flatMap escaped ++ '"' :: rest) =
      if cs.any isLineEnd then .error .lineEnd else .ok (cs, rest) := by
  induction cs with
  | nil => rfl
  | cons c cs ih =>
    rw [List.flatMap_cons, List.append_assoc, readLiteralFrom_escaped, ih, List.any_cons]
    cases isLineEnd c with
    | true => rfl
    | false => cases cs.any isLineEnd <;> rfl

/-- What is written for a text is read as that text, unless it holds a line end. -/
theorem readLiteral_append (s : String) (rest : List Char) :
    readLiteral ((literal s).toList ++ rest) =
      if s.toList.any isLineEnd then .error .lineEnd else .ok (s.toList, rest) := by
  have hopen : (literal s).toList ++ rest = '"' :: (s.toList.flatMap escaped ++ '"' :: rest) := by
    simp [literal]
  rw [hopen, readLiteral, if_pos rfl, readLiteralFrom_flatMap_escaped]

end Reading

/-! ## Unicode escapes -/

/-- The number of backslashes at the end of a text. -/
def backslashesAtEnd (cs : List Char) : Nat :=
  (cs.reverse.takeWhile (· == '\\')).length

/-- Whether a Unicode escape begins between two parts of a text: a backslash and the letter u begin
the second part, and an even number of backslashes ends the first. -/
def BeginsEscape (front back : List Char) : Prop :=
  ['\\', 'u'] <+: back ∧ Even (backslashesAtEnd front)

instance (front back : List Char) : Decidable (BeginsEscape front back) :=
  inferInstanceAs (Decidable (_ ∧ _))

/-- A character in front counts among the backslashes at the end only in a text of backslashes. -/
theorem backslashesAtEnd_cons (c : Char) (cs : List Char) : backslashesAtEnd (c :: cs) =
    backslashesAtEnd cs + if c = '\\' ∧ ∀ d ∈ cs, d = '\\' then 1 else 0 := by
  have hall : (cs.reverse.takeWhile (· == '\\')).length = cs.reverse.length ↔
      ∀ d ∈ cs, d = '\\' := by
    constructor
    · intro hlength
      have hbegins : cs.reverse.takeWhile (· == '\\') <+: cs.reverse := List.takeWhile_prefix _
      simpa using List.takeWhile_eq_self_iff.mp (hbegins.eq_of_length hlength)
    · intro hcs
      rw [List.takeWhile_eq_self_iff.mpr (by simpa using hcs)]
  rw [backslashesAtEnd, backslashesAtEnd, List.reverse_cons, List.takeWhile_append]
  by_cases hcs : ∀ d ∈ cs, d = '\\'
  · rw [if_pos (hall.mpr hcs), List.length_append, hall.mpr hcs]
    by_cases hc : c = '\\'
    · rw [if_pos ⟨hc, hcs⟩, hc]
      rfl
    · rw [if_neg fun h => hc h.1]
      simp [hc]
  · rw [if_neg (mt hall.mp hcs), if_neg fun h => hcs h.2, Nat.add_zero]

/-- A backslash and the character behind it are counted together or not at all. -/
theorem even_backslashesAtEnd_pair (c : Char) (cs : List Char) :
    Even (backslashesAtEnd ('\\' :: c :: cs)) ↔ Even (backslashesAtEnd cs) := by
  rw [backslashesAtEnd_cons, backslashesAtEnd_cons]
  by_cases hboth : c = '\\' ∧ ∀ d ∈ cs, d = '\\'
  · rw [if_pos hboth, if_pos ⟨rfl, List.forall_mem_cons.mpr hboth⟩]
    simp [Nat.even_add_one]
  · rw [if_neg hboth, if_neg fun h => hboth (List.forall_mem_cons.mp h.2)]
    rfl

/-- In a text without Unicode escapes none begins anywhere. -/
theorem Escapeless.not_beginsEscape {cs : List Char} (h : Escapeless cs) {front back : List Char}
    (heq : cs = front ++ back) : ¬ BeginsEscape front back := by
  rintro ⟨⟨more, rfl⟩, heven⟩
  induction h generalizing front with
  | nil => simp at heq
  | @char c cs hc _ ih =>
    cases front with
    | nil => exact hc (List.cons_eq_cons.mp heq).1
    | cons d front =>
      obtain ⟨hd, hrest⟩ := List.cons_eq_cons.mp heq
      rw [← hd, backslashesAtEnd_cons, if_neg fun h => hc h.1, Nat.add_zero] at heven
      exact ih heven hrest
  | @escape c cs hc _ ih =>
    match front with
    | [] => exact hc (List.cons_eq_cons.mp (List.cons_eq_cons.mp heq).2).1
    | [d] =>
      rw [← (List.cons_eq_cons.mp heq).1] at heven
      exact absurd heven (by decide)
    | d :: e :: front =>
      obtain ⟨hd, hrest⟩ := List.cons_eq_cons.mp heq
      rw [← hd] at heven
      exact ih ((even_backslashesAtEnd_pair e front).mp heven) (List.cons_eq_cons.mp hrest).2

/-- A Unicode escape in a text that begins with a literal begins behind the literal. -/
theorem isPrefix_of_beginsEscape {s : String} {rest front back : List Char}
    (heq : (literal s).toList ++ rest = front ++ back) (h : BeginsEscape front back) :
    (literal s).toList <+: front := by
  have hquote : (literal s).toList = ('"' :: s.toList.flatMap escaped) ++ ['"'] := by
    simp [literal]
  have hescapeless : Escapeless (literal s).toList :=
    Piece.escapeless_text (p := .quoted s) rfl
  rcases List.append_eq_append_iff.mp heq with ⟨inside, hfront, -⟩ | ⟨inside, hliteral, hback⟩
  · exact ⟨inside, hfront.symm⟩
  · obtain ⟨⟨more, hmore⟩, heven⟩ := h
    rw [← hmore] at hback
    rcases inside with _ | ⟨c, _ | ⟨d, inside⟩⟩
    · exact ⟨[], by simpa using hliteral⟩
    · have hlast := congrArg List.getLast? (hquote.symm.trans hliteral)
      rw [List.getLast?_concat, List.getLast?_concat] at hlast
      rw [← Option.some.inj hlast] at hback
      exact absurd (List.cons_eq_cons.mp hback).1 (by decide)
    · obtain ⟨hc, hback⟩ := List.cons_eq_cons.mp hback
      have hd := (List.cons_eq_cons.mp hback).1
      rw [← hc, ← hd] at hliteral
      exact absurd ⟨⟨inside, rfl⟩, heven⟩ (hescapeless.not_beginsEscape hliteral)

/-! ## Literals of texts -/

/-- Escaped characters are told apart by what they begin with. -/
theorem eq_of_escaped_append {c d : Char} {cs ds : List Char}
    (h : escaped c ++ cs = escaped d ++ ds) : c = d ∧ cs = ds := by
  have hplain : ∀ {e : Char} {es fs : List Char}, ¬ (e = '\\' ∨ e = '"') → '\\' :: es ≠ e :: fs :=
    fun he heq => he (.inl (List.cons_eq_cons.mp heq).1.symm)
  rw [escaped, escaped] at h
  split at h
  · split at h
    · exact List.cons_eq_cons.mp (List.cons_eq_cons.mp h).2
    · rename_i hd
      exact absurd h (hplain hd)
  · rename_i hc
    split at h
    · exact absurd h.symm (hplain hc)
    · exact List.cons_eq_cons.mp h

/-- Different texts are escaped differently. -/
theorem flatMap_escaped_injective : Function.Injective (List.flatMap escaped) := by
  have hne : ∀ (c : Char) (cs : List Char), escaped c ++ cs ≠ [] := by
    intro c cs
    rw [escaped]
    split <;> exact List.cons_ne_nil _ _
  intro cs ds h
  induction cs generalizing ds with
  | nil =>
    cases ds with
    | nil => rfl
    | cons d ds => exact absurd h.symm (hne d _)
  | cons c cs ih =>
    cases ds with
    | nil => exact absurd h (hne c _)
    | cons d ds =>
      obtain ⟨rfl, hrest⟩ := eq_of_escaped_append h
      rw [ih hrest]

/-- Different texts have different literals. -/
theorem literal_injective : Function.Injective literal := by
  intro s s' h
  have hbody := List.append_cancel_right (List.cons_eq_cons.mp (String.ofList_inj.mp h)).2
  exact String.toList_inj.mp (flatMap_escaped_injective hbody)

/-- What is written for a text without line ends is read as a string literal of that text, and what
stands behind it is left; for a text with a line end the line ends inside the literal. A Unicode
escape never begins in a literal, and different texts have different literals. -/
theorem readLiteral_literal (s : String) :
    (∀ rest, readLiteral ((literal s).toList ++ rest) =
      if s.toList.any isLineEnd then .error .lineEnd else .ok (s.toList, rest)) ∧
    (∀ rest front back, (literal s).toList ++ rest = front ++ back → BeginsEscape front back →
      (literal s).toList <+: front) ∧
    ∀ s', literal s' = literal s → s' = s :=
  ⟨readLiteral_append s, fun _ _ _ heq h => isPrefix_of_beginsEscape heq h,
    fun _ h => literal_injective h⟩

/-- A text that ends with a backslash, and an escape behind its literal. -/
theorem readLiteral_literal_backslashes :
    readLiteral ((literal "\"\\u0041\\").toList ++ ['\\', 'u']) =
      .ok ("\"\\u0041\\".toList, ['\\', 'u']) ∧
    BeginsEscape (literal "\"\\u0041\\").toList ['\\', 'u'] ∧
    (literal "\"\\u0041\\").toList <+: (literal "\"\\u0041\\").toList ∧
    literal "\"\\u0041" ≠ literal "\"\\u0041\\" := by
  obtain ⟨hread, hescape, hinjective⟩ := readLiteral_literal "\"\\u0041\\"
  have hbegins : BeginsEscape (literal "\"\\u0041\\").toList ['\\', 'u'] := by decide
  refine ⟨hread ['\\', 'u'], hbegins, hescape ['\\', 'u'] _ _ rfl hbegins, fun heq => ?_⟩
  exact absurd (hinjective _ heq) (by decide)

/-- A line feed is written as it is, which breaks the literal off. -/
theorem not_readLiteral_lineFeed :
    ¬ ∃ value rest, readLiteral (literal "a\nb").toList = .ok (value, rest) := by
  have hfault : readLiteral (literal "a\nb").toList = .error .lineEnd := by decide
  rintro ⟨value, rest, h⟩
  rw [hfault] at h
  cases h

end EntityMapper.Java
