import EntityMapper.Java.ClassText
import EntityMapper.Proofs.Java.Classes

/-!
# Lines of a generated class

The lines that are written for a table are rows of pieces, and together they spell the tokens of
one class, whatever the names of the table and of its columns are.
-/

namespace EntityMapper.Java

open Schema

/-! ## Rows of pieces -/

namespace Piece

variable {ps qs : List Piece}

/-- A blank keeps what stands before it apart from what stands behind it. -/
theorem spaced_blank {c : Char} (hps : spaced ps = true) (hqs : spaced qs = true) :
    spaced (ps ++ .blank c :: qs) = true := by
  induction ps with
  | nil =>
    cases qs with
    | nil => rfl
    | cons q qs => exact hqs
  | cons p ps ih =>
    cases ps with
    | nil =>
      have hblank : p.fits (.blank c) = true := by cases p <;> rfl
      have hrest : spaced (.blank c :: qs) = true := ih rfl
      rw [List.singleton_append, spaced, hblank, hrest]
      rfl
    | cons p' ps =>
      rw [spaced, Bool.and_eq_true] at hps
      have hrest : spaced (p' :: ps ++ .blank c :: qs) = true := ih hps.2
      rw [List.cons_append, List.cons_append, spaced, hps.1, ← List.cons_append, hrest]
      rfl

/-- Whether a row of pieces can be told apart again. -/
def isRow (ps : List Piece) : Bool :=
  ps.all isSound && spaced ps

/-- Pieces make a row iff each is sound and none runs into the next. -/
theorem isRow_iff : isRow ps = true ↔ (∀ p ∈ ps, p.isSound = true) ∧ spaced ps = true := by
  rw [isRow, Bool.and_eq_true, List.all_eq_true]

/-- Rows with blanks between them are a row. -/
theorem isRow_blank {c : Char} (hc : (blank c).isSound = true) (hps : isRow ps = true)
    (hqs : isRow qs = true) : isRow (ps ++ .blank c :: qs) = true := by
  rw [isRow_iff] at *
  refine ⟨?_, spaced_blank hps.2 hqs.2⟩
  rw [List.forall_mem_append, List.forall_mem_cons]
  exact ⟨hps.1, hc, hqs.1⟩

/-- The text of rows with line ends between them. -/
theorem exists_lines {rows : List (List Piece)} (hrows : ∀ row ∈ rows, isRow row = true) :
    ∃ ps, isRow ps = true ∧ textOf ps = ['\n'].intercalate (rows.map textOf) ∧
      tokensOf ps = rows.flatMap tokensOf := by
  induction rows with
  | nil => exact ⟨[], rfl, rfl, rfl⟩
  | cons row rows ih =>
    obtain ⟨hrow, hrows⟩ := List.forall_mem_cons.mp hrows
    cases rows with
    | nil => exact ⟨row, hrow, by simp, by simp⟩
    | cons next rows =>
      obtain ⟨ps, hps, htext, htokens⟩ := ih hrows
      refine ⟨row ++ .blank '\n' :: ps, isRow_blank rfl hrow hps, ?_, ?_⟩
      · rw [textOf_append, textOf_cons, htext]
        simp [text, List.intercalate_cons_cons]
      · rw [tokensOf_append, tokensOf_cons, htokens, List.flatMap_cons]
        rfl

end Piece

/-- Lines spell tokens: each line is a row of pieces, and their tokens are the given ones. -/
def Spells (lines : List String) (ts : List Token) : Prop :=
  ∃ rows : List (List Piece), (∀ row ∈ rows, Piece.isRow row = true) ∧
    rows.map Piece.textOf = lines.map String.toList ∧ rows.flatMap Piece.tokensOf = ts

namespace Spells

variable {lines lines' : List String} {ts ts' : List Token} {α : Type}

/-- No lines spell no tokens. -/
theorem nil : Spells [] [] :=
  ⟨[], by simp, rfl, rfl⟩

/-- A line that is a row of pieces spells their tokens. -/
theorem row {line : String} {ps : List Piece} (hps : Piece.isRow ps = true)
    (htext : line.toList = Piece.textOf ps) (htokens : Piece.tokensOf ps = ts) :
    Spells [line] ts :=
  ⟨[ps], by simpa using hps, by simp [htext], by simp [htokens]⟩

/-- Lines behind lines spell the tokens of both. -/
theorem append (h : Spells lines ts) (h' : Spells lines' ts') :
    Spells (lines ++ lines') (ts ++ ts') := by
  obtain ⟨rows, hrows, htexts, htokens⟩ := h
  obtain ⟨rows', hrows', htexts', htokens'⟩ := h'
  refine ⟨rows ++ rows', ?_, ?_, ?_⟩
  · rw [List.forall_mem_append]
    exact ⟨hrows, hrows'⟩
  · rw [List.map_append, List.map_append, htexts, htexts']
  · rw [List.flatMap_append, htokens, htokens']

/-- An empty line spells nothing. -/
theorem emptyLine (h : Spells lines ts) : Spells ("" :: lines) ts :=
  have hline : Spells [""] [] := ⟨[[]], by decide, rfl, rfl⟩
  hline.append h

/-- Lines made for each of some things spell the tokens made for each. -/
theorem flatMap {f : α → List String} {g : α → List Token} {as : List α}
    (h : ∀ a ∈ as, Spells (f a) (g a)) : Spells (as.flatMap f) (as.flatMap g) := by
  induction as with
  | nil => exact nil
  | cons a as ih =>
    rw [List.forall_mem_cons] at h
    exact h.1.append (ih h.2)

/-- One line made for each of some things spells the tokens made for each. -/
theorem map {f : α → String} {g : α → List Token} {as : List α}
    (h : ∀ a ∈ as, Spells [f a] (g a)) : Spells (as.map f) (as.flatMap g) := by
  have hlines : as.map f = as.flatMap fun a => [f a] := List.map_eq_flatMap
  rw [hlines]
  exact flatMap h

/-- Indented lines spell the same tokens. -/
theorem indented (h : Spells lines ts) : Spells (lines.map (indent ++ ·)) ts := by
  obtain ⟨rows, hrows, htexts, htokens⟩ := h
  let margin : List Piece := [.blank ' ', .blank ' ', .blank ' ', .blank ' ']
  have hmargin : ∀ row, Piece.textOf (margin ++ row) = indent.toList ++ Piece.textOf row ∧
      Piece.tokensOf (margin ++ row) = Piece.tokensOf row := fun row => ⟨rfl, rfl⟩
  refine ⟨rows.map (margin ++ ·), ?_, ?_, ?_⟩
  · rw [List.forall_mem_map]
    intro row hrow
    have hthree : Piece.isRow [.blank ' ', .blank ' ', .blank ' '] = true := by decide
    exact Piece.isRow_blank rfl hthree (hrows row hrow)
  · calc
      (rows.map (margin ++ ·)).map Piece.textOf
          = (rows.map Piece.textOf).map (indent.toList ++ ·) := by
            rw [List.map_map, List.map_map]
            exact List.map_congr_left fun row _ => (hmargin row).1
      _ = (lines.map (indent ++ ·)).map String.toList := by
            rw [htexts, List.map_map, List.map_map]
            exact List.map_congr_left fun line _ => String.toList_append.symm
  · rw [List.flatMap_map, ← htokens]
    exact List.flatMap_congr fun row _ => (hmargin row).2

/-- What lines spell are the tokens of the text that they make up. -/
theorem tokenize_eq (h : Spells lines ts) : tokenize ("\n".intercalate lines) = ts := by
  obtain ⟨rows, hrows, htexts, htokens⟩ := h
  obtain ⟨ps, hps, htext, htokens'⟩ := Piece.exists_lines hrows
  obtain ⟨hsound, hspaced⟩ := Piece.isRow_iff.mp hps
  have hsource : ("\n".intercalate lines).toList = Piece.textOf ps := by
    rw [String.toList_intercalate, htext, htexts]
    rfl
  rw [Piece.tokenize_eq hsource hsound hspaced, htokens', htokens]

end Spells

/-! ## The parts of a class -/

/-- The path of an import as it is written. -/
def Import.pieces (i : Import) : List Piece :=
  .word "import" :: .blank ' ' :: .word i.names.1 ::
    i.names.2.flatMap (fun w => [.sign '.', .word w]) ++
    if i = .persistence then [.sign '.', .sign '*', .sign ';'] else [.sign ';']

/-- The line of an import spells its tokens. -/
theorem Import.spells (i : Import) : Spells ["import " ++ i.path ++ ";"] i.tokens := by
  have hpieces : Piece.isRow i.pieces = true ∧ Piece.tokensOf i.pieces = i.tokens ∧
      ("import " ++ i.path ++ ";").toList = Piece.textOf i.pieces := by
    cases i <;> decide
  exact .row hpieces.1 hpieces.2.2 hpieces.2.1

/-- The line of a sound annotation spells its tokens. -/
theorem Annotation.spells {a : Annotation} (ha : a.isSound = true) {line : String}
    (hline : line.toList = Piece.textOf a.pieces) : Spells [line] a.tokens :=
  .row (Piece.isRow_iff.mpr ⟨a.isSound_pieces ha, a.spaced_pieces⟩) hline (tokensOf_pieces ha)

section Fields

variable {o : Options} {c : Column}

/-- What holds of every annotation that a field can have holds of those that it has. -/
theorem forall_mem_fieldAnnotations {P : String → Prop}
    (hkey : ∀ line ∈ ["@Id", "@GeneratedValue(strategy = GenerationType.IDENTITY)"], P line)
    (hcolumn : ∀ s ∈ ["", ", nullable = false"],
      P ("@Column(name = " ++ literal c.name ++ s ++ ")"))
    (hproperty : P ("@JsonProperty(" ++ literal c.name ++ ")")) :
    ∀ line ∈ fieldAnnotations o c, P line := by
  rw [List.forall_mem_cons, List.forall_mem_singleton] at hkey hcolumn
  rw [fieldAnnotations, List.forall_mem_append, List.forall_mem_append]
  refine ⟨⟨?_, ?_⟩, ?_⟩
  · split
    · rw [List.forall_mem_cons]
      refine ⟨hkey.1, ?_⟩
      split
      · exact List.forall_mem_singleton.mpr hkey.2
      · simp
    · simp
  · split
    · rw [List.forall_mem_singleton]
      split
      · exact hcolumn.1
      · exact hcolumn.2
    · simp
  · split
    · exact List.forall_mem_singleton.mpr hproperty
    · simp

/-- Fields stand one after the other with empty lines between them. -/
theorem fieldsLines_cons (o : Options) (c next : Column) (cs : List Column) :
    fieldsLines o (c :: next :: cs) = fieldLines o c ++ "" :: fieldsLines o (next :: cs) := by
  simp [fieldsLines]

end Fields

section Members

variable {type : JavaType} {f method : String}

/-- The pieces of a type make up its name. -/
theorem textOf_typePieces (type : JavaType) :
    Piece.textOf (typePieces type) = type.name.toList := by
  cases type <;> decide

/-- A type keeps away from the words before and behind it. -/
theorem isRow_type (type : JavaType) {ps qs : List Piece} (hps : Piece.isRow ps = true)
    (hqs : Piece.isRow qs = true) :
    Piece.isRow (ps ++ .blank ' ' :: (typePieces type ++ .blank ' ' :: qs)) = true := by
  have htype : Piece.isRow (typePieces type) = true := by cases type <;> decide
  exact Piece.isRow_blank rfl hps (Piece.isRow_blank rfl htype hqs)

/-- The pieces of a type make up its tokens. -/
theorem tokensOf_typePieces (type : JavaType) :
    Piece.tokensOf (typePieces type) = typeTokens type := by
  cases type <;> decide

/-- The declaration of a field spells its tokens. -/
theorem spells_field (hf : isName f.toList = true) :
    Spells ["private " ++ type.name ++ " " ++ f ++ ";"]
      (⟨.modifier, "private"⟩ :: (typeTokens type ++ [nameToken f, ⟨.separator, ";"⟩])) := by
  have hfront : Piece.isRow [.word "private"] = true := by decide
  have hback : Piece.isRow [.word f, .sign ';'] = true := by
    rw [Piece.isRow_iff, List.forall_mem_cons]
    exact ⟨⟨Piece.isSound_of_isName hf, by decide⟩, rfl⟩
  refine .row (isRow_type type hfront hback) ?_ ?_
  · simp [Piece.text, textOf_typePieces]
  · simp [Piece.tokens, tokensOf_typePieces, wordKind_of_isName hf]
    decide

/-- The lines of a getter, without their indentation. -/
def getterLines (type : JavaType) (method f : String) : List String :=
  ["public " ++ type.name ++ " " ++ method ++ "() \x7b", indent ++ ("return " ++ f ++ ";"), "\x7d"]

/-- The lines of a setter, without their indentation. -/
def setterLines (type : JavaType) (method f : String) : List String :=
  ["public void " ++ method ++ "(" ++ type.name ++ " " ++ f ++ ") \x7b",
   indent ++ ("this." ++ f ++ " = " ++ f ++ ";"), "\x7d"]

theorem spells_brace : Spells ["\x7d"] [⟨.separator, "\x7d"⟩] := by
  have hrow : Piece.isRow [.sign '\x7d'] = true := by decide
  exact .row hrow (by decide) (by decide)

/-- The lines of a getter spell its tokens. -/
theorem spells_getter (hmethod : isName method.toList = true) (hf : isName f.toList = true) :
    Spells (getterLines type method f) (Member.getter type method f).tokens := by
  have hhead : Spells ["public " ++ type.name ++ " " ++ method ++ "() \x7b"]
      (⟨.modifier, "public"⟩ :: (typeTokens type ++ [nameToken method, ⟨.separator, "("⟩,
        ⟨.separator, ")"⟩, ⟨.separator, "\x7b"⟩])) := by
    have hfront : Piece.isRow [.word "public"] = true := by decide
    have hback : Piece.isRow [.word method, .sign '(', .sign ')', .blank ' ', .sign '\x7b'] =
        true := by
      rw [Piece.isRow_iff, List.forall_mem_cons]
      exact ⟨⟨Piece.isSound_of_isName hmethod, by decide⟩, rfl⟩
    refine .row (isRow_type type hfront hback) ?_ ?_
    · simp [Piece.text, textOf_typePieces]
    · simp [Piece.tokens, tokensOf_typePieces, wordKind_of_isName hmethod]
      decide
  have hbody : Spells ["return " ++ f ++ ";"] (Member.returnTokens f) := by
    have hrow : Piece.isRow [.word "return", .blank ' ', .word f, .sign ';'] = true := by
      rw [Piece.isRow_iff]
      simp only [List.forall_mem_cons]
      exact ⟨⟨by decide, rfl, Piece.isSound_of_isName hf, rfl, by simp⟩, rfl⟩
    refine .row hrow (by simp [Piece.text]) ?_
    simp [Piece.tokens, Member.returnTokens, wordKind_of_isName hf]
    decide
  have hall := hhead.append (hbody.indented.append spells_brace)
  simpa [getterLines, Member.tokens, Member.blockTokens] using hall

/-- The lines of a setter spell its tokens. -/
theorem spells_setter (hmethod : isName method.toList = true) (hf : isName f.toList = true) :
    Spells (setterLines type method f) (Member.setter type method f).tokens := by
  have hhead : Spells ["public void " ++ method ++ "(" ++ type.name ++ " " ++ f ++ ") \x7b"]
      (⟨.modifier, "public"⟩ :: ⟨.keyword, "void"⟩ :: nameToken method :: ⟨.separator, "("⟩ ::
        (typeTokens type ++ [nameToken f, ⟨.separator, ")"⟩, ⟨.separator, "\x7b"⟩])) := by
    have hrow : Piece.isRow ([Piece.word "public", .blank ' ', .word "void", .blank ' ',
        .word method, .sign '('] ++ (typePieces type ++ [Piece.blank ' ', .word f, .sign ')',
          .blank ' ', .sign '\x7b'])) = true := by
      have htype : ∀ p ∈ typePieces type, p.isSound = true := by cases type <;> decide
      rw [Piece.isRow_iff]
      refine ⟨?_, by cases type <;> rfl⟩
      simp only [List.forall_mem_append, List.forall_mem_cons]
      exact ⟨⟨by decide, rfl, by decide, rfl, Piece.isSound_of_isName hmethod, rfl, by simp⟩,
        htype, rfl, Piece.isSound_of_isName hf, rfl, rfl, rfl, by simp⟩
    refine .row hrow (by simp [Piece.text, textOf_typePieces]) ?_
    simp [Piece.tokens, tokensOf_typePieces, wordKind_of_isName hmethod, wordKind_of_isName hf]
    decide
  have hbody : Spells ["this." ++ f ++ " = " ++ f ++ ";"] (Member.assignmentTokens f) := by
    have hrow : Piece.isRow [.word "this", .sign '.', .word f, .blank ' ', .sign '=', .blank ' ',
        .word f, .sign ';'] = true := by
      rw [Piece.isRow_iff]
      simp only [List.forall_mem_cons]
      exact ⟨⟨by decide, rfl, Piece.isSound_of_isName hf, rfl, rfl, rfl,
        Piece.isSound_of_isName hf, rfl, by simp⟩, rfl⟩
    refine .row hrow (by simp [Piece.text]) ?_
    simp [Piece.tokens, Member.assignmentTokens, wordKind_of_isName hf]
    decide
  have hall := hhead.append (hbody.indented.append spells_brace)
  simpa [setterLines, Member.tokens, Member.blockTokens] using hall

end Members

end EntityMapper.Java
