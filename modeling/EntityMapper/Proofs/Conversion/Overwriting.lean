import EntityMapper.Proofs.Conversion.Changes
import EntityMapper.Proofs.Sql.Tables

/-!
# Classes of one name

Two inputs with class files at one place write them in order, so the place holds the class text of
the later one.  Where all class files are at different places, each of them holds the class text of
its own input.
-/

namespace EntityMapper.Conversion

open File (Path Place Tree)

namespace Request

variable {q : Request} {t : Tree} {is : List Input}

/-- No two inputs have their class files at one place. -/
def Separate (q : Request) (home : Place) (is : List Input) : Prop :=
  is.Pairwise fun i j => ∀ place, q.WritesAt home place i → ¬ q.WritesAt home place j

/-- What a class file holds after a run. -/
structure HoldsLast (q : Request) (t after : Tree) (is : List Input) (file : Path) : Prop where
  find_eq : after.find file = .ok (some (file.target t.home))
  /-- The file holds the class text of the last input that has it. -/
  last : ∃ earlier i later table, is = earlier ++ i :: later ∧
    q.WritesAt t.home (file.target t.home) i ∧
    (∀ j ∈ later, ¬ q.WritesAt t.home (file.target t.home) j) ∧
    (Sql.read i.text).result = .ok table ∧
    after.bytes? (file.target t.home) = some (Text.encodeUtf8 (Java.classText q.options table))

/-- Where no two class files are at one place, each of them holds the class text of its own
input. -/
theorem HoldsLast.own {after : Tree} {file : Path} (h : q.HoldsLast t after is file)
    (hseparate : q.Separate t.home is) {i : Input} (hi : i ∈ is)
    (hfile : (q.fate i).written? = some file) :
    ∃ table, (Sql.read i.text).result = .ok table ∧
      after.bytes? (file.target t.home) =
        some (Text.encodeUtf8 (Java.classText q.options table)) := by
  obtain ⟨earlier, j, later, table, rfl, hj, hlater, hread, hbytes⟩ := h.last
  have hwrites : q.WritesAt t.home (file.target t.home) i := ⟨file, hfile, rfl⟩
  rcases List.mem_append.mp hi with hi | hi
  · have hapart := (List.pairwise_append.mp hseparate).2.2 i hi j List.mem_cons_self
    exact absurd hj (hapart _ hwrites)
  · rcases List.mem_cons.mp hi with rfl | hi
    · exact ⟨table, hread, hbytes⟩
    · exact absurd hwrites (hlater i hi)

end Request

/-- A run that goes on to its end with a directory as its target reports the class file of every
accepted input, which are all inputs if none has failed.  Each of these files holds the class text
of the last input that has it, and of its own input if no two are at one place. -/
theorem holdsLast_of_run {q : Request} {t : Tree} {standardInput source : String} {directory : Path}
    (htarget : q.target = .directory directory)
    (h : (q.run t standardInput source).failure = none) :
    ∃ is, inputs t standardInput source = .ok is ∧
      (q.run t standardInput source).report.written = is.filterMap (fun i => (q.fate i).written?) ∧
      ((q.run t standardInput source).report.ok = true →
        ∀ i ∈ is, ∃ file, (q.fate i).written? = some file) ∧
      (∀ i ∈ is, ∀ file, (q.fate i).written? = some file →
        q.HoldsLast t (q.run t standardInput source).tree is file) ∧
      (q.Separate t.home is → ∀ i ∈ is, ∀ file, (q.fate i).written? = some file →
        ∃ table, (Sql.read i.text).result = .ok table ∧
          (q.run t standardInput source).tree.bytes? (file.target t.home) =
            some (Text.encodeUtf8 (Java.classText q.options table))) := by
  cases hinputs : inputs t standardInput source with
  | error why => simp [Request.run, hinputs] at h
  | ok is =>
    have hrun := run_eq (q := q) hinputs
    have hreturns : (q.convertAll t is).failure = none := by
      rwa [hrun] at h
    have haccounts := Request.accounts hreturns
    have hlast : ∀ i ∈ is, ∀ file, (q.fate i).written? = some file →
        q.HoldsLast t (q.convertAll t is).tree is file := fun i hi file hfile =>
      { find_eq := Request.find_of_written hreturns hi hfile
        last := Request.holds_last hreturns ⟨i, hi, file, hfile, rfl⟩ }
    refine ⟨is, rfl, ?_, ?_, ?_, ?_⟩
    · rw [hrun, Report.written_append, haccounts.written_eq]
      rfl
    · intro hok i hi
      rw [hrun, Report.ok, Report.failed_append, haccounts.failed_eq, List.isEmpty_iff] at hok
      have hnot : (q.fate i).failed? = none := List.filterMap_eq_nil_iff.mp hok i hi
      cases hfate : q.fate i with
      | failed label =>
        rw [hfate] at hnot
        cases hnot
      | printed text =>
        have hnone := Request.printed?_eq_none htarget i
        rw [hfate] at hnone
        cases hnone
      | written file => exact ⟨file, rfl⟩
    · rw [hrun]
      exact hlast
    · intro hseparate i hi file hfile
      rw [hrun]
      exact (hlast i hi file hfile).own hseparate hi hfile

/-- A request for classes without annotations and accessors. -/
def bareRequest : Request where
  options := { jpa := false, lombok := false, jackson := false, accessors := false }

/-- A directory with two files that declare tables of one name. -/
def namesakes : Tree where
  files :=
    [(["in", "a.sql"], Text.encodeUtf8 "CREATE TABLE t (c INT)"),
     (["in", "b.sql"], Text.encodeUtf8 "CREATE TABLE t (d INT)")]
  directories := [["in"]]

theorem inputs_namesakes : inputs namesakes "" "in" =
    .ok [⟨"in/a.sql", "CREATE TABLE t (c INT)"⟩, ⟨"in/b.sql", "CREATE TABLE t (d INT)"⟩] :=
  (inputs_of_directory ["in"]
    [⟨⟨.here, ["in", "a.sql"]⟩, "CREATE TABLE t (c INT)"⟩,
      ⟨⟨.here, ["in", "b.sql"]⟩, "CREATE TABLE t (d INT)"⟩]
    (by decide) rfl rfl (by decide +kernel) (by decide +kernel) "").trans (by decide +kernel)

/-- The table of one of the files, which declares one column. -/
def namesakeTable (column : String) : Schema.Table :=
  ⟨"t", "T", [⟨column, column, .integer, "INT", false, false, true, false⟩]⟩

theorem read_first_namesake : Sql.read "CREATE TABLE t (c INT)" = ⟨.ok (namesakeTable "c"), []⟩ :=
  Sql.read_of_isStatement (by decide +kernel)

theorem read_second_namesake : Sql.read "CREATE TABLE t (d INT)" = ⟨.ok (namesakeTable "d"), []⟩ :=
  Sql.read_of_isStatement (by decide +kernel)

/-- The run writes the class file twice, and it holds the class text of the second table. -/
theorem run_namesakes : bareRequest.run namesakes "" "in" = {
    tree := {
      files := namesakes.files ++ [(["out", "T.java"],
        Text.encodeUtf8 (Java.classText bareRequest.options (namesakeTable "d")))]
      directories := [["in"], ["out"]] }
    report := {
      written := [⟨.here, ["out", "T.java"]⟩, ⟨.here, ["out", "T.java"]⟩]
      notices := [.found 2, .written ⟨.here, ["out", "T.java"]⟩,
        .written ⟨.here, ["out", "T.java"]⟩] } } := by
  rw [run_eq inputs_namesakes, Request.convertAll, Request.convertAll_singleton,
    convertInput_of_read rfl rfl _ _ read_first_namesake,
    convertInput_of_read rfl rfl _ _ read_second_namesake]
  decide +kernel

theorem returns_namesakes : (bareRequest.run namesakes "" "in").failure = none := by
  rw [run_namesakes]

theorem holdsLast_of_run_namesakes :
    (bareRequest.run namesakes "" "in").failure = none ∧
      bareRequest.HoldsLast namesakes (bareRequest.run namesakes "" "in").tree
        [⟨"in/a.sql", "CREATE TABLE t (c INT)"⟩, ⟨"in/b.sql", "CREATE TABLE t (d INT)"⟩]
        ⟨.here, ["out", "T.java"]⟩ := by
  obtain ⟨is, his, -, -, hlast, -⟩ := holdsLast_of_run rfl returns_namesakes
  obtain rfl := Except.ok.inj (his.symm.trans inputs_namesakes)
  refine ⟨returns_namesakes, hlast _ List.mem_cons_self _ ?_⟩
  rw [Request.fate_of_read rfl _ read_first_namesake]
  decide +kernel

/-- The run succeeds and reports the class file twice, and the class text of the first table is
lost. -/
theorem not_own_namesakes :
    (bareRequest.run namesakes "" "in").failure = none ∧
      (bareRequest.run namesakes "" "in").report.ok = true ∧
      (bareRequest.run namesakes "" "in").report.written =
        [⟨.here, ["out", "T.java"]⟩, ⟨.here, ["out", "T.java"]⟩] ∧
      (bareRequest.run namesakes "" "in").tree.bytes? ["out", "T.java"] ≠
        some (Text.encodeUtf8 (convert bareRequest.options "CREATE TABLE t (c INT)")) := by
  rw [run_namesakes, convert, read_first_namesake]
  decide +kernel

end EntityMapper.Conversion
