import EntityMapper.Proofs.Pattern.Consumption
import EntityMapper.Sql.Declaration

/-!
# Texts that announce a declaration

A text looks as if it declared a table exactly if somewhere the word `CREATE` is followed by the
word `TABLE` with nothing but white space and words between them.
-/

namespace EntityMapper.Sql

open Pattern

/-- The text goes on with white space, with words that have white space behind each of them, and
with the word `TABLE`. -/
def LeadsToTable (cs : List Char) : Prop :=
  ∃ blank row rows table after, cs = blank ++ row ++ table ++ after ∧
    blank ≠ [] ∧ (∀ c ∈ blank, Text.isSpace c = true) ∧ WordRow row rows ∧
    Text.upper table = "TABLE".toList ∧ after.head?.any Text.isWord = false

/-- At the place stands the word `CREATE`, and white space and words lead from it to the word
`TABLE`. -/
def AnnouncedAt (cs : List Char) (place : Nat) : Prop :=
  (cs.take place).getLast?.any Text.isWord = false ∧
    ∃ create after, cs.drop place = create ++ after ∧ Text.upper create = "CREATE".toList ∧
      LeadsToTable after

/-! ## Edges of words -/

/-- In front of a word a place is an edge iff no word stands before it. -/
theorem isWordEdge_before {s : Cursor} (h : s.rest.head?.any Text.isWord = true) :
    s.isWordEdge = true ↔ s.before.any Text.isWord = false := by
  rw [Cursor.isWordEdge, h]
  cases s.before.any Text.isWord <;> decide

/-- Behind a word a place is an edge iff no word goes on from it. -/
theorem isWordEdge_behind {s : Cursor} (h : s.before.any Text.isWord = true) :
    s.isWordEdge = true ↔ s.rest.head?.any Text.isWord = false := by
  rw [Cursor.isWordEdge, h]
  cases s.rest.head?.any Text.isWord <;> decide

/-- A text that begins with a word begins with a character of a word. -/
theorem head_isWord {word : List Char} (hne : word ≠ []) (h : ∀ c ∈ word, Text.isWord c = true)
    (more : List Char) : (word ++ more).head?.any Text.isWord = true := by
  obtain ⟨c, cs, rfl⟩ := List.exists_cons_of_ne_nil hne
  exact h c List.mem_cons_self

/-- Behind a word stands a character of a word. -/
theorem getLast_isWord {word : List Char} (hne : word ≠ []) (h : ∀ c ∈ word, Text.isWord c = true)
    (before : Option Char) : (word.getLast?.or before).any Text.isWord = true := by
  rw [List.getLast?_eq_some_getLast hne]
  exact h _ (List.getLast_mem hne)

/-- A word of plain capitals, in any case, of a text. -/
structure Spells (word cs : List Char) : Prop where
  upper_eq : Text.upper cs = word
  ne_nil : cs ≠ []
  isWord : ∀ c ∈ cs, Text.isWord c = true

/-- A text with plain capitals as its upper-case form spells them. -/
theorem spells_of_upper {word cs : List Char} (hne : word ≠ [])
    (hword : ∀ d ∈ word, d ∈ Text.plainCapitals) (h : Text.upper cs = word) : Spells word cs where
  upper_eq := h
  ne_nil := by
    rintro rfl
    exact hne h.symm
  isWord := Text.isWord_of_upper hword h

/-- A text with `CREATE` as its upper-case form spells it. -/
theorem spells_create {cs : List Char} (h : Text.upper cs = "CREATE".toList) :
    Spells "CREATE".toList cs :=
  spells_of_upper (by decide) (by decide) h

/-- A text with `TABLE` as its upper-case form spells it. -/
theorem spells_table {cs : List Char} (h : Text.upper cs = "TABLE".toList) :
    Spells "TABLE".toList cs :=
  spells_of_upper (by decide) (by decide) h

/-! ## The pattern of a declaration -/

/-- The pattern of a word covers exactly the texts with that upper-case form. -/
theorem ends_word {word : String} (hword : ∀ d ∈ word.toList, d ∈ Text.plainCapitals)
    {s t : Cursor} :
    Ends (text word) s t ↔ ∃ cs, Text.upper cs = word.toList ∧ Consumes s cs t := by
  rw [ends_text]
  simp only [Text.upper_eq_iff hword]

/-- The pattern ends behind `CREATE` and what leads to `TABLE`. -/
theorem exists_ends_declarationPattern {before : Option Char} {cs : List Char} :
    (∃ t, Ends declarationPattern ⟨before, cs⟩ t) ↔
      before.any Text.isWord = false ∧ ∃ create after, cs = create ++ after ∧
        Text.upper create = "CREATE".toList ∧ LeadsToTable after := by
  constructor
  · rintro ⟨t, m₅, ⟨m₄, ⟨m₃, ⟨m₂, ⟨m₁, ⟨rfl, hedge⟩, hcreate⟩, hblank⟩, hrow⟩, htable⟩, rfl, hend⟩
    obtain ⟨create, hc, hcreate⟩ := (ends_word (by decide)).mp hcreate
    obtain ⟨blank, hne, hspace, hblank⟩ := ends_oneOrMore.mp hblank
    obtain ⟨row, rows, hrows, hrow⟩ := ends_wordRow.mp hrow
    obtain ⟨table, ht, htable⟩ := (ends_word (by decide)).mp htable
    have hbefore : before.any Text.isWord = false := by
      refine (isWordEdge_before ?_).mp hedge
      rw [hcreate.1]
      exact head_isWord (spells_create hc).ne_nil (spells_create hc).isWord _
    have hafter : t.rest.head?.any Text.isWord = false := by
      refine (isWordEdge_behind ?_).mp hend
      rw [htable.2]
      exact getLast_isWord (spells_table ht).ne_nil (spells_table ht).isWord _
    have hrest := (hblank.append (hrow.append htable)).1
    refine ⟨hbefore, create, m₂.rest, hcreate.1, hc, blank, row, rows, table, t.rest, ?_, hne,
      hspace, hrows, ht, hafter⟩
    simp only [hrest, List.append_assoc]
  · rintro ⟨hbefore, create, after, rfl, hc, blank, row, rows, table, rest, rfl, hne, hspace, hrows,
      ht, hrest⟩
    let t : Cursor := ⟨(create ++ (blank ++ (row ++ table))).getLast?.or before, rest⟩
    have hall : Consumes ⟨before, create ++ (blank ++ row ++ table ++ rest)⟩
        (create ++ (blank ++ (row ++ table))) t :=
      ⟨by simp [t], rfl⟩
    obtain ⟨m₂, hcreate, hall⟩ := hall.exists_mid
    obtain ⟨m₃, hblank, hall⟩ := hall.exists_mid
    obtain ⟨m₄, hrow, htable⟩ := hall.exists_mid
    refine ⟨t, t, ⟨m₄, ⟨m₃, ⟨m₂, ⟨_, ⟨rfl, ?_⟩, (ends_word (by decide)).mpr ⟨create, hc, hcreate⟩⟩,
      ends_oneOrMore.mpr ⟨blank, hne, hspace, hblank⟩⟩, ends_wordRow.mpr ⟨row, rows, hrows, hrow⟩⟩,
      (ends_word (by decide)).mpr ⟨table, ht, htable⟩⟩, rfl, ?_⟩
    · refine (isWordEdge_before ?_).mpr hbefore
      exact head_isWord (spells_create hc).ne_nil (spells_create hc).isWord _
    · refine (isWordEdge_behind ?_).mpr hrest
      rw [htable.2]
      exact getLast_isWord (spells_table ht).ne_nil (spells_table ht).isWord _

/-- A text looks as if it declared a table exactly if a declaration is announced somewhere. -/
theorem mayDeclare_iff {text : String} :
    mayDeclare text = true ↔ ∃ place, AnnouncedAt text.toList place := by
  rw [mayDeclare, occursIn_iff]
  constructor
  · rintro ⟨xs, ys, t, hsplit, ht⟩
    obtain ⟨hbefore, create, after, hys, hcreate, hafter⟩ :=
      exists_ends_declarationPattern.mp ⟨t, ht⟩
    refine ⟨xs.length, ?_, create, after, ?_, hcreate, hafter⟩
    · rwa [hsplit, List.take_left]
    · rw [hsplit, List.drop_left, hys]
  · rintro ⟨place, hbefore, create, after, hdrop, hcreate, hafter⟩
    obtain ⟨t, ht⟩ := exists_ends_declarationPattern.mpr
      ⟨hbefore, create, after, hdrop, hcreate, hafter⟩
    exact ⟨_, _, t, (List.take_append_drop place _).symm, ht⟩

end EntityMapper.Sql
