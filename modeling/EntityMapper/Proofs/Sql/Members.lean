import EntityMapper.Proofs.Java.Agreement
import EntityMapper.Proofs.Naming.Collisions
import EntityMapper.Proofs.Sql.Tables

/-!
# The members of the class of a table that is read

Columns are told apart by their names in lower case, fields by their names in camel case.  So the
fields and the accessors of a class differ exactly if the names that are made for them do.  No
accessor has the name under which every object gives its class.
-/

namespace EntityMapper.Sql

open Schema Java

variable {columns : List Column}

/-- The names of the accessors of columns, in order. -/
def accessorNames (columns : List Column) : List String :=
  columns.flatMap fun c =>
    ["get" ++ String.ofList (Naming.capitalize c.fieldName.toList),
      "set" ++ String.ofList (Naming.capitalize c.fieldName.toList)]

/-- Getters and setters never meet, and two getters or two setters only if the names behind their
first words do. -/
theorem accessor_inj {start start' : String} (hstart : start ∈ ["get", "set"])
    (hstart' : start' ∈ ["get", "set"]) {suffix suffix' : String} :
    start ++ suffix = start' ++ suffix' ↔ start = start' ∧ suffix = suffix' := by
  have hlength : ∀ s ∈ ["get", "set"], s.toList.length = 3 := by decide
  constructor
  · intro h
    have hlists : start.toList ++ suffix.toList = start'.toList ++ suffix'.toList := by
      rw [← String.toList_append, h, String.toList_append]
    obtain ⟨hfront, hback⟩ := List.append_inj hlists
      ((hlength start hstart).trans (hlength start' hstart').symm)
    exact ⟨String.toList_inj.mp hfront, String.toList_inj.mp hback⟩
  · rintro ⟨rfl, rfl⟩
    rfl

/-- The accessors of columns differ if the capitalized names of their fields do. -/
theorem nodup_accessorNames_iff : (accessorNames columns).Nodup ↔
    (columns.map fun c => Naming.capitalize c.fieldName.toList).Nodup := by
  have hpairs : ∀ suffix suffix' : String,
      List.Disjoint ["get" ++ suffix, "set" ++ suffix] ["get" ++ suffix', "set" ++ suffix'] ↔
        suffix ≠ suffix' := by
    intro suffix suffix'
    simp [accessor_inj, eq_comm]
  rw [accessorNames, List.nodup_flatMap, List.nodup_iff_pairwise_ne, List.pairwise_map]
  constructor
  · rintro ⟨-, hpairwise⟩
    refine hpairwise.imp fun {c d} h => ?_
    have hsuffix := (hpairs _ _).mp h
    rwa [Ne, String.ofList_inj] at hsuffix
  · intro hpairwise
    refine ⟨fun c _ => by simp, hpairwise.imp fun {c d} h => (hpairs _ _).mpr ?_⟩
    rwa [Ne, String.ofList_inj]

/-- No accessor has the name under which every object gives its class. -/
theorem getClass_not_mem (hcolumns : ∀ c ∈ columns, c.fieldName = Naming.fieldName c.name) :
    "getClass" ∉ accessorNames columns := by
  have hclass : "getClass" = "get" ++ String.ofList ['C', 'l', 'a', 's', 's'] := by decide
  intro hmem
  obtain ⟨c, hc, hname⟩ := List.mem_flatMap.mp hmem
  rw [hclass, hcolumns c hc] at hname
  simp only [List.mem_cons, List.not_mem_nil, or_false] at hname
  rcases hname with hget | hset
  · have hsuffix := ((accessor_inj (by decide) (by decide)).mp hget).2
    exact Naming.capitalize_fieldName_ne c.name (String.ofList_inj.mp hsuffix).symm
  · exact absurd ((accessor_inj (by decide) (by decide)).mp hset).1 (by decide)

/-- The fields of the class of a table that is read differ exactly if their columns differ in camel
case and are not one and two underscores, and the accessors exactly if the capitalized names of the
fields differ. -/
theorem members_of_read {text : String} {t : Table} (h : (read text).result = .ok t) :
    ((t.columns.map (·.fieldName)).Nodup ↔ ∀ c ∈ t.columns, ∀ d ∈ t.columns, c ≠ d →
        Naming.camelCase c.name.toList ≠ Naming.camelCase d.name.toList ∧
          ¬ (c.name = "_" ∧ d.name = "__")) ∧
      ((accessorNames t.columns).Nodup ↔ ∀ c ∈ t.columns, ∀ d ∈ t.columns, c ≠ d →
        Naming.capitalize c.fieldName.toList ≠ Naming.capitalize d.fieldName.toList) ∧
      "getClass" ∉ accessorNames t.columns := by
  have hsound := soundTable_of_read h
  have hnodup : t.columns.Nodup := hsound.names_nodup.of_map
  have hfields : ∀ c ∈ t.columns, c.fieldName = Naming.fieldName c.name := fun c hc =>
    (hsound.columns_sound c hc).fieldName_eq
  refine ⟨?_, ?_, getClass_not_mem hfields⟩
  · rw [List.nodup_map_iff_inj_on hnodup]
    constructor
    · intro hinj c hc d hd hne
      have hdiffers : Naming.fieldName c.name ≠ Naming.fieldName d.name := by
        rw [← hfields c hc, ← hfields d hd]
        exact fun heq => hne (hinj c hc d hd heq)
      rw [Ne, Naming.fieldName_eq_iff, not_or, not_or] at hdiffers
      exact ⟨hdiffers.1, hdiffers.2.1⟩
    · intro hdiffer c hc d hd heq
      rw [hfields c hc, hfields d hd, Naming.fieldName_eq_iff] at heq
      by_contra hne
      rcases heq with hcamel | hscores | ⟨hscores, hscore⟩
      · exact (hdiffer c hc d hd hne).1 hcamel
      · exact (hdiffer c hc d hd hne).2 hscores
      · exact (hdiffer d hd c hc (Ne.symm hne)).2 ⟨hscore, hscores⟩
  · rw [nodup_accessorNames_iff, List.nodup_map_iff_inj_on hnodup]
    simp only [ne_eq, not_imp_not]

/-- A table whose columns differ in camel case. -/
def distinctTable : Table where
  name := "t"
  className := "T"
  columns := [
    { name := "user_name", fieldName := "userName", type := .integer, sqlType := "INT" },
    { name := "class", fieldName := "class_", type := .integer, sqlType := "INT" }]

theorem members_of_read_distinct :
    (read "CREATE TABLE t (user_name INT, class INT)").result = .ok distinctTable ∧
      (distinctTable.columns.map (·.fieldName)).Nodup ∧
      (accessorNames distinctTable.columns).Nodup ∧
      "getClass" ∉ accessorNames distinctTable.columns := by
  have hreading : read "CREATE TABLE t (user_name INT, class INT)" = ⟨.ok distinctTable, []⟩ :=
    read_of_isStatement (by decide +kernel)
  have hread := congrArg Reading.result hreading
  obtain ⟨hfields, haccessors, hclass⟩ := members_of_read hread
  exact ⟨hread, hfields.mpr (by decide +kernel), haccessors.mpr (by decide +kernel), hclass⟩

/-- A table with two names of one column in camel case. -/
def twinTable : Table where
  name := "t"
  className := "T"
  columns := [
    { name := "user_name", fieldName := "userName", type := .integer, sqlType := "INT" },
    { name := "userName", fieldName := "userName", type := .integer, sqlType := "INT" }]

/-- A table is read whose class has one field and its accessors twice, and what is written for it is
taken to agree with it. -/
theorem not_nodup_twin :
    (read "CREATE TABLE t (user_name INT, userName INT)").result = .ok twinTable ∧
      ¬ (twinTable.columns.map (·.fieldName)).Nodup ∧
      ¬ (accessorNames twinTable.columns).Nodup ∧
      ∀ o, outlineFor twinTable (classText o twinTable) = .ok (outlineOf o twinTable) := by
  have hread : read "CREATE TABLE t (user_name INT, userName INT)" = ⟨.ok twinTable, []⟩ :=
    read_of_isStatement (by decide +kernel)
  have hnames : HasNames twinTable := by
    constructor
    · decide +kernel
    · decide +kernel
  exact ⟨congrArg Reading.result hread, by decide, by decide +kernel,
    fun o => outlineFor_classText hnames⟩

end EntityMapper.Sql
