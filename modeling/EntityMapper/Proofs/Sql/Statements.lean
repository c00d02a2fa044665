import EntityMapper.Proofs.Sql.Lexemes
import EntityMapper.Sql.Statement
import Mathlib.Data.List.TakeWhile
import Mathlib.Tactic.SplitIfs

/-!
# How a text is cut into statements

Every statement is a part of its text. Lexemes that end no statement stay together in the first
one, whatever follows them, since only a semicolon or the word `GO` ends a statement.
-/

namespace EntityMapper.Sql

/-! ## Statements as parts of a text -/

/-- Cutting drops no lexeme: the pieces and what has been read make up the whole. -/
theorem flatten_cut (s : Nesting) (read ls : List Lexeme) :
    (cut s read ls).flatten = read.reverse ++ ls := by
  induction ls generalizing s read with
  | nil => simp [cut]
  | cons l ls ih =>
    rw [cut]
    split
    · simp [ih]
    · simp [ih]

/-- Stripping the end leaves a prefix. -/
theorem stripEnd_isPrefix (cs : List Char) : Text.stripEnd cs <+: cs := by
  rw [Text.stripEnd, ← List.reverse_suffix, List.reverse_reverse]
  exact List.dropWhile_suffix _

/-- Stripping both ends leaves a run of consecutive characters. -/
theorem strip_isInfix (cs : List Char) : Text.strip cs <:+: cs :=
  (stripEnd_isPrefix _).isInfix.trans (List.dropWhile_suffix _).isInfix

/-- The parts into which a text is cut concatenate to it. -/
theorem flatten_parts (cs : List Char) : ((cut {} [] (lexemes cs)).map textOf).flatten = cs := by
  have textOf_flatten (parts : List (List Lexeme)) :
      (parts.map textOf).flatten = textOf parts.flatten := by
    induction parts with
    | nil => rfl
    | cons p ps ih => rw [List.map_cons, List.flatten_cons, List.flatten_cons, textOf_append, ih]
  rw [textOf_flatten, flatten_cut, List.reverse_nil, List.nil_append, textOf_lexemes]

/-- A statement is one of the parts without the white space around it. -/
theorem mem_statements {cs statement : List Char} (h : statement ∈ statements cs) :
    ∃ part ∈ (cut {} [] (lexemes cs)).map textOf, statement = Text.strip part := by
  unfold statements at h
  obtain ⟨part, hpart, rfl⟩ := List.mem_map.mp h
  split at hpart
  · exact ⟨part, (List.dropLast_subset _ hpart), rfl⟩
  · exact ⟨part, hpart, rfl⟩

/-- A statement is a part of its text. -/
theorem statement_isInfix {cs statement : List Char} (h : statement ∈ statements cs) :
    statement <:+: cs := by
  obtain ⟨part, hpart, rfl⟩ := mem_statements h
  have := List.infix_of_mem_flatten hpart
  rw [flatten_parts] at this
  exact (strip_isInfix part).trans this

/-! ## Lexemes that end no statement -/

/-- A lexeme that is neither a semicolon nor the word that ends a batch. -/
def Lexeme.IsCalm (l : Lexeme) : Prop :=
  l.isSemicolon = false ∧
    ¬ (l.kind = .keyword ∧ (Text.pieces Text.isSpace l.text).head? = some "GO".toList)

namespace Nesting

/-- Closing blocks does not change whether the statement has ended. -/
@[simp] theorem ended_closed (s : Nesting) (bs : List Block) : (s.closed bs).ended = s.ended := by
  rw [closed]
  split
  · split
    · rfl
    · rfl
  · rfl

/-- A word inside a block does not change whether the statement has ended. -/
theorem ended_of_insideBlock? {s inner : Nesting} {word : String}
    (h : s.insideBlock? word = some inner) : inner.ended = s.ended := by
  unfold insideBlock? at h
  split at h
  · cases h
  · split at h
    · exact Option.some.inj h ▸ rfl
    · split at h
      · exact Option.some.inj h ▸ rfl
      · split at h
        · split at h
          · exact Option.some.inj h ▸ rfl
          · split at h
            · exact Option.some.inj h ▸ rfl
            · cases h
        · split at h
          · exact Option.some.inj h ▸ rfl
          · split at h
            · exact Option.some.inj h ▸ rfl
            · cases h

/-- An `END` does not change whether the statement has ended. -/
@[simp] theorem ended_atEnd (s : Nesting) (word : String) : (s.atEnd word).ended = s.ended := by
  unfold atEnd
  split_ifs <;> simp

/-- No keyword changes whether the statement has ended. -/
@[simp] theorem ended_afterKeyword (s : Nesting) (kind : LexemeKind) (word : String) :
    (s.afterKeyword kind word).ended = s.ended := by
  unfold afterKeyword
  split
  · rfl
  · split
    · rfl
    · split
      · split
        · rfl
        · rfl
      · split
        · simp
        · split
          · rename_i inner hinner
            exact ended_of_insideBlock? hinner
          · simp

/-- What a semicolon does to the blocks does not change whether the statement has ended. -/
@[simp] theorem ended_afterSemicolon (s : Nesting) : s.afterSemicolon.ended = s.ended := by
  unfold afterSemicolon
  dsimp only
  split
  · simp
  · rfl

/-- Blocks and parentheses alone do not end a statement. -/
@[simp] theorem ended_nest (s : Nesting) (l : Lexeme) : (s.nest l).ended = s.ended := by
  unfold nest
  split_ifs <;> simp

/-- A lexeme that is calm does not end a statement. -/
theorem ended_after {l : Lexeme} (hl : l.IsCalm) (s : Nesting) :
    (s.after l).ended = s.ended := by
  rw [after, if_neg (by simp [hl.1]), if_neg hl.2]
  split
  · exact ended_nest s l
  · exact ended_nest s l

end Nesting

/-- Calm lexemes are read on in the same part. -/
theorem cut_calm {s : Nesting} (hs : s.ended = false) {ls : List Lexeme}
    (hls : ∀ l ∈ ls, l.IsCalm) (read more : List Lexeme) :
    ∃ s', cut s read (ls ++ more) = cut s' (ls.reverse ++ read) more := by
  induction ls generalizing s read with
  | nil => exact ⟨s, rfl⟩
  | cons l ls ih =>
    obtain ⟨s', hs'⟩ := ih ((Nesting.ended_after (hls l List.mem_cons_self) s).trans hs)
      (fun m hm => hls m (List.mem_cons_of_mem l hm)) (l :: read)
    refine ⟨s', ?_⟩
    rw [List.cons_append, cut, if_neg (by simp [hs]), hs', List.reverse_cons, List.append_assoc]
    rfl

/-- The part that is being read is the beginning of the first one, and how the cut goes on does not
hang on it. -/
theorem cut_eq_cons (s : Nesting) (ls : List Lexeme) :
    ∃ more parts, ∀ read, cut s read ls = (read.reverse ++ more) :: parts := by
  induction ls generalizing s with
  | nil => exact ⟨[], [], fun read => by simp [cut]⟩
  | cons l ls ih =>
    by_cases hends : (s.ended && !Nesting.trails l) = true
    · exact ⟨[], _, fun read => by rw [cut, if_pos hends, List.append_nil]⟩
    · obtain ⟨more, parts, h⟩ := ih (s.after l)
      refine ⟨l :: more, parts, fun read => ?_⟩
      rw [cut, if_neg hends, h, List.reverse_cons, List.append_assoc]
      rfl

/-- The state at the end of lexemes, and those of them that the part holds which is being read, the
last first. -/
def openAfter (s : Nesting) (read : List Lexeme) : List Lexeme → Nesting × List Lexeme
  | [] => (s, read)
  | l :: ls =>
    if s.ended && !Nesting.trails l then openAfter (({} : Nesting).after l) [l] ls
    else openAfter (s.after l) (l :: read) ls

/-- How lexemes are cut hangs on those in front of them by the state at their end and by the part
that is being read there. -/
theorem cut_append (s : Nesting) (read xs : List Lexeme) :
    ∃ done : List (List Lexeme),
      done.flatten ++ (openAfter s read xs).2.reverse = read.reverse ++ xs ∧
      ∀ ys, cut s read (xs ++ ys) =
        done ++ cut (openAfter s read xs).1 (openAfter s read xs).2 ys := by
  induction xs generalizing s read with
  | nil => exact ⟨[], by simp [openAfter], fun _ => rfl⟩
  | cons l ls ih =>
    rw [openAfter]
    split
    · rename_i hends
      obtain ⟨done, hread, hdone⟩ := ih (({} : Nesting).after l) [l]
      refine ⟨read.reverse :: done, ?_, fun ys => ?_⟩
      · rw [List.flatten_cons, List.append_assoc, hread]
        rfl
      · rw [List.cons_append, cut, if_pos hends, hdone, List.cons_append]
    · rename_i hends
      obtain ⟨done, hread, hdone⟩ := ih (s.after l) (l :: read)
      refine ⟨done, ?_, fun ys => ?_⟩
      · rw [hread, List.reverse_cons, List.append_assoc]
        rfl
      · rw [List.cons_append, cut, if_neg hends, hdone]

/-- What trails a statement leaves the state as it is. -/
theorem Nesting.after_of_trails {l : Lexeme} (hl : trails l = true) (s : Nesting) :
    s.after l = s := by
  obtain ⟨kind, text⟩ := l
  rw [trails, Bool.or_eq_true, beq_iff_eq, beq_iff_eq] at hl
  rcases hl with rfl | rfl <;> rfl

/-- A comment inside a part belongs to it and leaves the state as it is. -/
theorem cut_blockComment {s : Nesting} (hs : s.ended = false) (text : List Char)
    (read ls : List Lexeme) :
    cut s read (⟨.blockComment, text⟩ :: ls) = cut s (⟨.blockComment, text⟩ :: read) ls := by
  rw [cut, if_neg (by simp [hs])]
  rfl

/-- What may trail a statement belongs to the part that is being read. -/
theorem cut_trailing {ws : List Lexeme} (hws : ∀ l ∈ ws, Nesting.trails l = true) (s : Nesting)
    (read ls : List Lexeme) : cut s read (ws ++ ls) = cut s (ws.reverse ++ read) ls := by
  induction ws generalizing read with
  | nil => rfl
  | cons w ws ih =>
    rw [List.forall_mem_cons] at hws
    rw [List.cons_append, cut, if_neg (by simp [hws.1]), Nesting.after_of_trails hws.1,
      ih hws.2, List.reverse_cons, List.append_assoc]
    rfl

/-- Behind a statement that has ended the cut begins afresh with what does not trail it. -/
theorem cut_of_ended {s : Nesting} (hs : s.ended = true) (read : List Lexeme) {l : Lexeme}
    (hl : Nesting.trails l = false) (ls : List Lexeme) :
    cut s read (l :: ls) = read.reverse :: cut {} [] (l :: ls) := by
  rw [cut, if_pos (by simp [hs, hl]), cut, if_neg (by simp)]

/-! ## White space around a text -/

/-- White space behind a text goes away with what is in front of it at its end. -/
theorem stripEnd_append_blank {blank : List Char} (h : ∀ c ∈ blank, Text.isSpace c = true)
    (cs : List Char) : Text.stripEnd (cs ++ blank) = Text.stripEnd cs := by
  rw [Text.stripEnd, List.reverse_append,
    List.dropWhile_append_of_pos fun c hc => h c (List.mem_reverse.mp hc), Text.stripEnd]

/-- A text that is more than white space keeps what stands in front of it. -/
theorem stripEnd_append {cs : List Char} (h : ∃ c ∈ cs, Text.isSpace c = false)
    (before : List Char) : Text.stripEnd (before ++ cs) = before ++ Text.stripEnd cs := by
  have hne : cs.reverse.dropWhile Text.isSpace ≠ [] := by
    obtain ⟨c, hc, hspace⟩ := h
    intro hnil
    have hall := List.dropWhile_eq_nil_iff.mp hnil c (List.mem_reverse.mpr hc)
    rw [hspace] at hall
    cases hall
  rw [Text.stripEnd, List.reverse_append, List.dropWhile_append,
    if_neg (by simpa [List.isEmpty_iff] using hne), List.reverse_append, List.reverse_reverse,
    Text.stripEnd]

/-- A text is white space or holds something else. -/
theorem blank_or_exists (cs : List Char) :
    (∀ c ∈ cs, Text.isSpace c = true) ∨ ∃ c ∈ cs, Text.isSpace c = false := by
  by_cases h : ∃ c ∈ cs, Text.isSpace c = false
  · exact .inr h
  · exact .inl fun c hc => by simpa using fun hspace => h ⟨c, hc, hspace⟩

/-- White space alone is stripped whole. -/
theorem stripEnd_blank {blank : List Char} (h : ∀ c ∈ blank, Text.isSpace c = true) :
    Text.stripEnd blank = [] :=
  stripEnd_append_blank h []

/-- A text that begins with something else than white space and, in front of more text, ends with
something else is kept. -/
theorem strip_append {cs : List Char} {first last : Char} (hfirst : cs.head? = some first)
    (hlast : cs.getLast? = some last) (hfs : Text.isSpace first = false)
    (hls : Text.isSpace last = false) (more : List Char) :
    Text.strip (cs ++ more) = cs ++ Text.stripEnd more := by
  obtain ⟨ds, rfl⟩ := List.head?_eq_some_iff.mp hfirst
  rw [Text.strip, List.cons_append, List.dropWhile_cons_of_neg (by simp [hfs]),
    ← List.cons_append]
  rcases blank_or_exists more with hblank | hmore
  · obtain ⟨es, hes⟩ := List.getLast?_eq_some_iff.mp hlast
    rw [stripEnd_append_blank hblank, stripEnd_blank hblank, List.append_nil, hes,
      stripEnd_append ⟨last, List.mem_singleton_self last, hls⟩, Text.stripEnd,
      List.reverse_singleton, List.dropWhile_cons_of_neg (by simp [hls]), List.reverse_singleton]
  · exact stripEnd_append hmore _

/-- White space behind a text goes away with that around it. -/
theorem strip_append_blank {blank : List Char} (h : ∀ c ∈ blank, Text.isSpace c = true)
    (cs : List Char) : Text.strip (cs ++ blank) = Text.strip cs := by
  rw [Text.strip, List.dropWhile_append, Text.strip]
  split
  · rename_i hempty
    rw [List.isEmpty_iff.mp hempty, List.dropWhile_eq_nil_iff.mpr h]
  · exact stripEnd_append_blank h _

/-- White space in front of a text goes away with that around it. -/
theorem strip_blank_append {blank : List Char} (h : ∀ c ∈ blank, Text.isSpace c = true)
    (cs : List Char) : Text.strip (blank ++ cs) = Text.strip cs := by
  rw [Text.strip, List.dropWhile_append_of_pos h, Text.strip]

/-- What stands in front of a text without the white space around it, if only that at its end is
taken away, is white space. -/
theorem exists_blank_strip (cs : List Char) : ∃ blank, (∀ c ∈ blank, Text.isSpace c = true) ∧
    Text.stripEnd cs = blank ++ Text.strip cs := by
  rcases blank_or_exists cs with hblank | ⟨c, hc, hspace⟩
  · refine ⟨[], nofun, ?_⟩
    rw [stripEnd_blank hblank, Text.strip, List.dropWhile_eq_nil_iff.mpr hblank]
    rfl
  · refine ⟨cs.takeWhile Text.isSpace, fun d hd => List.mem_takeWhile_imp hd, ?_⟩
    have hsplit := List.takeWhile_append_dropWhile (p := Text.isSpace) (l := cs)
    have hrest : ∃ d ∈ cs.dropWhile Text.isSpace, Text.isSpace d = false := by
      rw [← hsplit, List.mem_append] at hc
      refine ⟨c, hc.resolve_left fun hmem => ?_, hspace⟩
      rw [List.mem_takeWhile_imp hmem] at hspace
      cases hspace
    rw [Text.strip, ← stripEnd_append hrest, hsplit]

/-! ## Texts that begin with calm lexemes -/

/-- A text that begins with calm lexemes has a first statement that begins with their text. -/
theorem statements_calm {ls more : List Lexeme} {cs rest : List Char} {first last : Char}
    (hlexemes : lexemes (cs ++ rest) = ls ++ more) (htext : textOf ls = cs)
    (hls : ∀ l ∈ ls, l.IsCalm) (hfirst : cs.head? = some first) (hlast : cs.getLast? = some last)
    (hfs : Text.isSpace first = false) (hlastSpace : Text.isSpace last = false) :
    ∃ after others, statements (cs ++ rest) = (cs ++ after) :: others := by
  obtain ⟨s', hcut⟩ := cut_calm (s := {}) rfl hls [] more
  obtain ⟨behind, parts, hparts⟩ := cut_eq_cons s' more
  have hall : (cut {} [] (lexemes (cs ++ rest))).map textOf =
      (cs ++ textOf behind) :: parts.map textOf := by
    rw [hlexemes, hcut, hparts, List.map_cons, textOf_append, List.append_nil,
      List.reverse_reverse, htext]
  refine ⟨Text.stripEnd (textOf behind), ?_⟩
  unfold statements
  rw [hall]
  dsimp only
  have hstrip := strip_append hfirst hlast hfs hlastSpace (textOf behind)
  cases parts with
  | nil =>
    have hspace : (cs ++ textOf behind).all Text.isSpace = false := by
      obtain ⟨ds, rfl⟩ := List.head?_eq_some_iff.mp hfirst
      simp [hfs]
    rw [List.map_nil, List.getLast?_singleton, Option.getD_some, if_neg (by simp [hspace])]
    exact ⟨[], by rw [List.map_singleton, hstrip]⟩
  | cons part parts =>
    split
    · exact ⟨_, by rw [List.map_cons, List.dropLast_cons_cons, List.map_cons, hstrip]⟩
    · exact ⟨_, by rw [List.map_cons, List.map_cons, List.map_cons, hstrip]⟩

/-! ## Texts that are statements -/

instance (l : Lexeme) : Decidable l.IsCalm := inferInstanceAs (Decidable (_ ∧ _))

/-- A text that is a statement as it stands: its lexemes end none, and no white space is around
it. -/
def IsStatement (cs : List Char) : Prop :=
  (∀ l ∈ lexemes cs, l.IsCalm) ∧ cs.head?.any (!Text.isSpace ·) = true ∧
    cs.getLast?.any (!Text.isSpace ·) = true

instance (cs : List Char) : Decidable (IsStatement cs) := inferInstanceAs (Decidable (_ ∧ _))

/-- A text that is a statement is its own first statement. -/
theorem IsStatement.exists_statements {cs : List Char} (h : IsStatement cs) :
    ∃ others, statements cs = cs :: others := by
  obtain ⟨hcalm, hhead, hlast⟩ := h
  obtain ⟨first, hfirst, hfirstSpace⟩ := (Option.any_eq_true _ _).mp hhead
  obtain ⟨last, hlast, hlastSpace⟩ := (Option.any_eq_true _ _).mp hlast
  have hlexemes : lexemes (cs ++ []) = lexemes cs ++ [] := by
    rw [List.append_nil, List.append_nil]
  obtain ⟨after, others, hstatements⟩ := statements_calm hlexemes (textOf_lexemes cs) hcalm
    hfirst hlast (by simpa using hfirstSpace) (by simpa using hlastSpace)
  rw [List.append_nil] at hstatements
  have hlength := (statement_isInfix (hstatements ▸ List.mem_cons_self)).length_le
  have hnil : after = [] := by
    rw [← List.length_eq_zero_iff]
    rw [List.length_append] at hlength
    omega
  exact ⟨others, by rw [hstatements, hnil, List.append_nil]⟩

end EntityMapper.Sql
