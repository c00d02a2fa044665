import EntityMapper.Proofs.Conversion.Changes
import EntityMapper.Proofs.Naming.Identifiers
import EntityMapper.Proofs.Sql.Tables

/-!
# Class files and their directory

A class that is named with letters has its file in the directory of classes itself.  A name without
letters and numerals is kept as it is, slashes and dots included, so its file need not stand there.
-/

namespace EntityMapper.Naming

open File (Path)

/-- A name that is made holds nothing that the given text does not hold, but for the underscore. -/
theorem mem_identifier {x : List Char} {c : Char} (h : c ∈ identifier x) : c ∈ x ∨ c = '_' := by
  rw [identifier] at h
  split at h
  · simpa using h
  · split at h
    · simpa [or_comm] using h
    · exact .inl h

/-- A name with letters or numerals is made a class name without slashes. -/
theorem slash_not_mem_className {name : String} (h : letters name.toList ≠ []) :
    '/' ∉ (className name).toList := by
  have hslash : Text.isAlphanumeric '/' = false ∧ Java.continuesIdentifier '/' = false := by
    decide
  intro hmem
  rw [className, String.toList_ofList] at hmem
  rcases mem_identifier hmem with hmem | heq
  · rcases (recased_pascalCase h).mem_or_continues hmem with hletter | hcontinues
    · have halphanumeric := (mem_letters.mp hletter).2
      rw [hslash.1] at halphanumeric
      cases halphanumeric
    · rw [hslash.2] at hcontinues
      cases hcontinues
  · cases heq

/-- A name without letters and numerals is kept as a class name, but for its first character beyond
ASCII and for a single underscore. -/
theorem isDirect_className_of_not_letters {name : String} (hne : name ≠ "")
    (h : letters name.toList = []) :
    Path.isDirect (className name).toList = Path.isDirect name.toList := by
  obtain ⟨c, cs, hname⟩ := List.exists_cons_of_ne_nil (show name.toList ≠ [] by simpa using hne)
  have hnone := letters_eq_nil_iff.mp h
  rw [hname, List.forall_mem_cons] at hnone
  obtain ⟨d, hupper, hdigit, hd⟩ := upperChar_of_not_alphanumeric hnone.1
  have hkept : Path.isDirect (d :: cs) = Path.isDirect (c :: cs) := by
    rcases hd with rfl | ⟨hc, hd⟩
    · rfl
    · have hascii : ∀ e : Char, ¬ e.toNat < 128 → e ≠ '/' ∧ e ≠ '.' := by
        rintro e he
        constructor
        · rintro rfl
          exact he (by decide)
        · rintro rfl
          exact he (by decide)
      rw [Bool.eq_iff_iff, Path.isDirect_cons_iff (hascii d hd).1 (hascii d hd).2,
        Path.isDirect_cons_iff (hascii c hc).1 (hascii c hc).2]
  rw [className, String.toList_ofList, pascalCase, camelCase_of_letters_eq_nil h, hname,
    capitalize, hupper, List.singleton_append, ← hkept, identifier]
  split
  · rename_i hword
    rw [eq_score_of_reserved hword hnone.2]
    decide
  · rw [List.head?_cons, Option.any_some, hdigit]
    rfl

/-- Whether a table name is made the name of a class whose file stands in the directory of classes
itself: it has letters or numerals, or it is direct as it stands. -/
def staysInside (name : List Char) : Bool :=
  !(letters name).isEmpty || Path.isDirect name

theorem isDirect_className {name : String} (hne : name ≠ "") :
    Path.isDirect (className name).toList = staysInside name.toList := by
  rw [staysInside]
  by_cases h : letters name.toList = []
  · rw [isDirect_className_of_not_letters hne h, h]
    rfl
  · rw [Path.isDirect_of_not_mem (slash_not_mem_className h)]
    simp [h]

end EntityMapper.Naming

namespace EntityMapper.Conversion

open File (Path Place Tree)

/-- The place of something in a directory. -/
theorem target_of_isChildOf {p directory : Path} (h : p.IsChildOf directory) (home : Place) :
    ∃ name, name ≠ "" ∧ name ≠ "." ∧ name ≠ ".." ∧ '/' ∉ name.toList ∧
      p.target home = directory.target home ++ [name] := by
  obtain ⟨name, rfl, hempty, hdot, hdots, hslash⟩ := h
  refine ⟨name, hempty, hdot, hdots, hslash, ?_⟩
  rw [File.Path.target, List.foldl_append, List.foldl_cons, List.foldl_nil, Place.enter,
    if_neg hdots]
  rfl

/-- An input that a source stands for declares a table. -/
def Declared (t : Tree) (standardInput source : String) (table : Schema.Table) : Prop :=
  ∃ is, inputs t standardInput source = .ok is ∧
    ∃ i ∈ is, (Sql.read i.text).result = .ok table

/-- A run, whether it goes on to its end or not, changes and reports no files but the class files of
declared tables.  Such a file stands in the directory of classes itself if the table's name has
letters or numerals or is direct, and from a directory that is named without a root only then. -/
theorem contained_of_run {q : Request} {directory : Path}
    (htarget : q.target = .directory directory) (t : Tree) (standardInput source : String) :
    (∀ place, (q.run t standardInput source).tree.bytes? place ≠ t.bytes? place →
        ∃ table, Declared t standardInput source table ∧
          place = (classFile directory table.className).target t.home) ∧
      (∀ file ∈ (q.run t standardInput source).report.written,
        ∃ table, Declared t standardInput source table ∧
          file = classFile directory table.className) ∧
      ∀ table, Declared t standardInput source table →
        (Naming.staysInside table.name.toList = true →
          (classFile directory table.className).IsChildOf directory ∧
            ∃ name, name ≠ "" ∧ name ≠ "." ∧ name ≠ ".." ∧ '/' ∉ name.toList ∧
              (classFile directory table.className).target t.home =
                directory.target t.home ++ [name]) ∧
        (directory.root = .here → (classFile directory table.className).IsChildOf directory →
          Naming.staysInside table.name.toList = true) := by
  have hclass : ∀ is, inputs t standardInput source = .ok is → ∀ i ∈ is, ∀ file,
      (q.fate i).written? = some file → ∃ table, Declared t standardInput source table ∧
        file = classFile directory table.className := by
    intro is hinputs i hi file hfile
    obtain ⟨other, table, hother, hread, -, rfl⟩ := Request.exists_table_of_written hfile
    obtain rfl := Target.directory.inj (htarget.symm.trans hother)
    exact ⟨table, ⟨is, hinputs, i, hi, hread⟩, rfl⟩
  refine ⟨fun place hchanged => ?_, fun file hmem => ?_, ?_⟩
  · cases hinputs : inputs t standardInput source with
    | error why => simp [Request.run, hinputs] at hchanged
    | ok is =>
      rw [run_eq hinputs] at hchanged
      obtain ⟨i, hi, file, hfile, rfl⟩ : ∃ i ∈ is, q.WritesAt t.home place i := by
        by_contra hnone
        exact hchanged ((Request.agreesOutside_convertAll q t is).bytes_eq place hnone)
      obtain ⟨table, hdeclared, rfl⟩ := hclass is hinputs i hi file hfile
      exact ⟨table, hdeclared, rfl⟩
  · cases hinputs : inputs t standardInput source with
    | error why => simp [Request.run, hinputs] at hmem
    | ok is =>
      rw [run_eq hinputs, Report.written_append] at hmem
      obtain ⟨i, hi, hfile⟩ := Request.written_convertAll ((List.mem_append.mp hmem).resolve_left
        (List.not_mem_nil))
      exact hclass is hinputs i hi file hfile
  · rintro table ⟨is, -, i, -, hread⟩
    have hsound := Sql.soundTable_of_read hread
    have hdirect := Naming.isDirect_className hsound.name_ne
    rw [← hsound.className_eq] at hdirect
    constructor
    · intro hstays
      have hchild := isChildOf_classFile directory (hdirect.trans hstays)
      exact ⟨hchild, target_of_isChildOf hchild t.home⟩
    · intro hroot hchild
      exact hdirect.symm.trans (isDirect_of_isChildOf hroot hchild)

/-- A table whose name leads out of a directory but has a letter. -/
def dottedTable : Schema.Table where
  name := "../t"
  className := "T"
  columns := [{ name := "c", fieldName := "c", type := .integer, sqlType := "INT" }]

theorem read_dottedTable : Sql.read "CREATE TABLE `../t` (c INT)" = ⟨.ok dottedTable, []⟩ :=
  Sql.read_of_isStatement (by decide +kernel)

theorem contained_of_run_dottedTable :
    Declared {} "CREATE TABLE `../t` (c INT)" "-" dottedTable ∧
      (classFile ⟨.here, ["out"]⟩ "T").IsChildOf ⟨.here, ["out"]⟩ := by
  have hinputs : inputs {} "CREATE TABLE `../t` (c INT)" "-" =
      .ok [⟨"<stdin>", "CREATE TABLE `../t` (c INT)"⟩] := rfl
  have hdeclared : Declared {} "CREATE TABLE `../t` (c INT)" "-" dottedTable :=
    ⟨_, hinputs, _, List.mem_cons_self, by rw [read_dottedTable]⟩
  obtain ⟨-, -, hcontained⟩ := contained_of_run (q := {}) rfl {} _ "-"
  exact ⟨hdeclared, ((hcontained dottedTable hdeclared).1 (by decide +kernel)).1⟩

/-- A table whose name has no letter and leads out of a directory. -/
def dotsTable : Schema.Table where
  name := "../"
  className := "../"
  columns := [{ name := "c", fieldName := "c", type := .integer, sqlType := "INT" }]

theorem read_dotsTable : Sql.read "CREATE TABLE `../` (c INT)" = ⟨.ok dotsTable, []⟩ :=
  Sql.read_of_isStatement (by decide +kernel)

/-- A name of dots and slashes leads out of the directory, and its file is written there. -/
theorem not_contained_dots :
    (({} : Request).run {} "CREATE TABLE `../` (c INT)" "-").report.written =
        [⟨.here, ["out", "..", ".java"]⟩] ∧
      (({} : Request).run {} "CREATE TABLE `../` (c INT)" "-").tree.isFileAt [".java"] =
        true ∧
      ¬ (File.Path.mk .here ["out", "..", ".java"]).IsChildOf ⟨.here, ["out"]⟩ := by
  have hinputs : inputs {} "CREATE TABLE `../` (c INT)" "-" =
      .ok [⟨"<stdin>", "CREATE TABLE `../` (c INT)"⟩] := rfl
  refine ⟨?_, ?_, ?_⟩
  · rw [run_eq hinputs, Report.written_append, Request.convertAll_singleton,
      convertInput_of_read rfl rfl _ _ read_dotsTable]
    decide +kernel
  · rw [tree_run hinputs, Request.convertAll_singleton,
      convertInput_of_read rfl rfl _ _ read_dotsTable]
    decide +kernel
  · rintro ⟨name, hfile, -⟩
    have hlength := congrArg List.length (File.Path.mk.inj hfile).2
    cases hlength

end EntityMapper.Conversion
