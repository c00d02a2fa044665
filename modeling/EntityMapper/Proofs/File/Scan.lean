import EntityMapper.File.Scan
import EntityMapper.Proofs.Sql.Opening

/-!
# Which files a scan keeps

A scan of a directory keeps the covered files that look as if they declared a table. Of the files
that a table is read from these are the ones whose opening is plain or that announce a declaration
elsewhere; the others are passed over in silence.
-/

namespace EntityMapper.File

/-- A covered file is found in a directory exactly if it looks as if it declared a table. -/
theorem mem_scan_iff {t : Tree} (rule : ScanRule) {p : Path} {place : Place}
    (hplace : t.find p = .ok (some place)) (hdirectory : t.isFileAt place = false)
    (names : List String) (hnames : names ∈ t.below place)
    (hcovers : rule.covers (p.join ⟨.here, names⟩) names = true) :
    ∃ found, scan t rule p = .ok found ∧
      (⟨p.join ⟨.here, names⟩, t.textAt (place ++ names)⟩ ∈ found ↔
        Sql.mayDeclare (t.textAt (place ++ names)) = true) := by
  rw [scan, hplace]
  change ∃ found, (if t.isFileAt place = true then _ else _) = Except.ok found ∧ _
  rw [if_neg (by simp [hdirectory])]
  refine ⟨_, rfl, ?_⟩
  rw [List.mem_mergeSort, List.mem_filterMap]
  constructor
  · rintro ⟨other, -, hother⟩
    dsimp only at hother
    split at hother
    · rename_i hcond
      have htext : t.textAt (place ++ other) = t.textAt (place ++ names) :=
        congrArg Found.text (Option.some.inj hother)
      exact htext ▸ (Bool.and_eq_true_iff.mp hcond).2
    · cases hother
  · intro hdeclare
    refine ⟨names, hnames, ?_⟩
    rw [if_pos (by simp [hcovers, hdeclare])]

/-- A text that a table is read from looks as if it declared one, and its file is found wherever it
is covered, exactly if its opening is seen. -/
theorem found_iff_of_read {text : String} {table : Schema.Table}
    (h : (Sql.read text).result = .ok table) :
    Nonempty (Sql.Opening text.toList) ∧ ∀ o : Sql.Opening text.toList,
      (Sql.mayDeclare text = true ↔ o.IsSeen) ∧
      ∀ (t : Tree) (rule : ScanRule) (p : Path) (place : Place) (names : List String),
        t.find p = .ok (some place) → t.isFileAt place = false → names ∈ t.below place →
        rule.covers (p.join ⟨.here, names⟩) names = true → t.textAt (place ++ names) = text →
        ∃ found, scan t rule p = .ok found ∧
          (⟨p.join ⟨.here, names⟩, text⟩ ∈ found ↔ o.IsSeen) := by
  refine ⟨Sql.nonempty_opening_iff.mpr ⟨table, h⟩, fun o => ?_⟩
  have hseen := Sql.mayDeclare_iff_of_opening o
  refine ⟨hseen, ?_⟩
  rintro t rule p place names hplace hdirectory hnames hcovers rfl
  obtain ⟨found, hscan, hmem⟩ := mem_scan_iff rule hplace hdirectory names hnames hcovers
  exact ⟨found, hscan, hmem.trans hseen⟩

/-- A directory with one file, whose declaration has a comment behind `CREATE`. -/
def commentedTree : Tree where
  files := [(["in", "a.sql"],
    "CREATE /* c */ TABLE t (id INT)".toList.map fun c => UInt8.ofNat c.toNat)]
  directories := [["in"]]

theorem read_comment : Sql.read "CREATE /* c */ TABLE t (id INT)" =
    ⟨.ok ⟨"t", "T", [⟨"id", "id", .integer, "INT", false, false, true, false⟩]⟩, []⟩ :=
  Sql.read_of_isStatement (by decide +kernel)

theorem found_iff_of_read_comment :
    (Sql.read "CREATE /* c */ TABLE t (id INT)").result =
        .ok ⟨"t", "T", [⟨"id", "id", .integer, "INT", false, false, true, false⟩]⟩ ∧
      ∃ o : Sql.Opening "CREATE /* c */ TABLE t (id INT)".toList,
        (Sql.mayDeclare "CREATE /* c */ TABLE t (id INT)" = true ↔ o.IsSeen) ∧
        ∃ found, scan commentedTree {} ⟨.here, ["in"]⟩ = .ok found ∧
          (⟨Path.join ⟨.here, ["in"]⟩ ⟨.here, ["a.sql"]⟩,
            "CREATE /* c */ TABLE t (id INT)"⟩ ∈ found ↔ o.IsSeen) := by
  have h := congrArg Sql.Reading.result read_comment
  obtain ⟨⟨o⟩, hall⟩ := found_iff_of_read h
  obtain ⟨hseen, hscan⟩ := hall o
  exact ⟨h, o, hseen, hscan commentedTree {} ⟨.here, ["in"]⟩ ["in"] ["a.sql"] (by decide +kernel)
    (by decide +kernel) (by decide +kernel) (by decide +kernel) (by decide +kernel)⟩

/-- A comment behind `CREATE` hides a declaration that is read. -/
theorem not_found_of_comment :
    (Sql.read "CREATE /* c */ TABLE t (id INT)").result =
        .ok ⟨"t", "T", [⟨"id", "id", .integer, "INT", false, false, true, false⟩]⟩ ∧
      Sql.mayDeclare "CREATE /* c */ TABLE t (id INT)" = false ∧
      ∃ found, scan commentedTree {} ⟨.here, ["in"]⟩ = .ok found ∧
        ⟨Path.join ⟨.here, ["in"]⟩ ⟨.here, ["a.sql"]⟩,
          "CREATE /* c */ TABLE t (id INT)"⟩ ∉ found := by
  have hread := congrArg Sql.Reading.result read_comment
  have hseen : Sql.mayDeclare "CREATE /* c */ TABLE t (id INT)" = false := by
    decide +kernel
  have htext : commentedTree.textAt (["in"] ++ ["a.sql"]) = "CREATE /* c */ TABLE t (id INT)" := by
    decide +kernel
  have hplace : commentedTree.find ⟨.here, ["in"]⟩ = .ok (some ["in"]) := by
    decide +kernel
  obtain ⟨found, hscan, hmem⟩ := mem_scan_iff {} hplace (by decide +kernel) ["a.sql"]
    (by decide +kernel) (by decide +kernel)
  rw [htext, hseen] at hmem
  exact ⟨hread, hseen, found, hscan, fun h => Bool.false_ne_true (hmem.mp h)⟩

end EntityMapper.File
