import EntityMapper.Proofs.Java.Agreement
import EntityMapper.Proofs.Naming.Identifiers
import EntityMapper.Proofs.Sql.Tables

/-!
# The Java names of a table that is read

The names of the class and of the fields are never empty and never reserved words.  They need not be
names in Java: a name without letters and numerals is kept, and so are numerals that cannot stand in
a name.  Where they are, the class that is written agrees with its table.
-/

namespace EntityMapper.Sql

open Schema Java

variable {text : String} {t : Table}

/-- What is known of the names that are made for a table that is read. -/
structure MadeNames (t : Table) : Prop where
  className_ne : t.className ≠ "" ∧ t.className ∉ Naming.reservedWords
  className_fit : isName t.className.toList =
    Naming.isFit t.name.toList (Naming.capitalize t.name.toList)
  fieldName_ne : ∀ c ∈ t.columns, c.fieldName ≠ "" ∧ c.fieldName ∉ Naming.reservedWords
  fieldName_fit : ∀ c ∈ t.columns, isName c.fieldName.toList =
    Naming.isFit c.name.toList c.name.toList

theorem SoundTable.madeNames {cs : List Char} (h : SoundTable cs t) : MadeNames t where
  className_ne := by
    rw [h.className_eq]
    exact Naming.className_spec h.name_ne
  className_fit := by
    rw [h.className_eq]
    exact Naming.isName_className h.name_ne
  fieldName_ne := by
    intro c hc
    rw [(h.columns_sound c hc).fieldName_eq]
    exact Naming.fieldName_spec (h.columns_sound c hc).name_ne
  fieldName_fit := by
    intro c hc
    rw [(h.columns_sound c hc).fieldName_eq]
    exact Naming.isName_fieldName (h.columns_sound c hc).name_ne

/-- The names that are made for a table are names in Java if those that are read can be made so. -/
theorem MadeNames.hasNames_iff (h : MadeNames t) : HasNames t ↔
    Naming.isFit t.name.toList (Naming.capitalize t.name.toList) = true ∧
      ∀ c ∈ t.columns, Naming.isFit c.name.toList c.name.toList = true := by
  constructor
  · intro hnames
    refine ⟨h.className_fit ▸ hnames.className, fun c hc => ?_⟩
    exact h.fieldName_fit c hc ▸ hnames.fieldNames c hc
  · rintro ⟨hclass, hfields⟩
    exact ⟨h.className_fit.trans hclass, fun c hc => (h.fieldName_fit c hc).trans (hfields c hc)⟩

/-- The names that are made for a table that is read are not empty and not reserved, and they are
names in Java exactly if the names that are read can be made so; then the class text agrees with the
table, whatever the options are. -/
theorem madeNames_of_read (h : (read text).result = .ok t) :
    MadeNames t ∧ (HasNames t ↔
        Naming.isFit t.name.toList (Naming.capitalize t.name.toList) = true ∧
          ∀ c ∈ t.columns, Naming.isFit c.name.toList c.name.toList = true) ∧
      (HasNames t → ∀ o, outlineFor t (classText o t) = .ok (outlineOf o t)) := by
  have hmade := (soundTable_of_read h).madeNames
  exact ⟨hmade, hmade.hasNames_iff, fun hnames o => outlineFor_classText hnames⟩

/-- A table with a reserved word and a name that begins with a digit. -/
def reservedWordTable : Table where
  name := "t"
  className := "T"
  columns := [
    { name := "class", fieldName := "class_", type := .integer, sqlType := "INT" },
    { name := "1st", fieldName := "_1st", type := .integer, sqlType := "INT" }]

theorem madeNames_of_read_reservedWord :
    (read "CREATE TABLE t (class INT, \x601st\x60 INT)").result = .ok reservedWordTable ∧
      ∀ o, outlineFor reservedWordTable (classText o reservedWordTable) =
        .ok (outlineOf o reservedWordTable) := by
  have hreading : read "CREATE TABLE t (class INT, \x601st\x60 INT)" =
      ⟨.ok reservedWordTable, []⟩ :=
    read_of_isStatement (by decide +kernel)
  have hread := congrArg Reading.result hreading
  obtain ⟨-, hfit, hagrees⟩ := madeNames_of_read hread
  exact ⟨hread, hagrees (hfit.mpr (by decide +kernel))⟩

/-- A table with a column that is named by a sign alone. -/
def signTable : Table where
  name := "t"
  className := "T"
  columns := [{ name := "-", fieldName := "-", type := .integer, sqlType := "INT" }]

/-- A sign is no name in Java, and the class that is written with it cannot be read. -/
theorem not_isName_sign :
    (read "CREATE TABLE t (\x60-\x60 INT)").result = .ok signTable ∧
      isName "-".toList = false ∧
      outlineFor signTable
        (classText { jpa := false, lombok := false, jackson := false, accessors := false }
          signTable) = .error (.noOutline .syntactic) := by
  have hread : read "CREATE TABLE t (\x60-\x60 INT)" = ⟨.ok signTable, []⟩ :=
    read_of_isStatement (by decide +kernel)
  exact ⟨congrArg Reading.result hread, by decide, by decide +kernel⟩

end EntityMapper.Sql
