import EntityMapper.Proofs.File.Spared
import EntityMapper.Proofs.Sql.Announcement
import Mathlib.Data.List.Lex
import Mathlib.Data.List.Sort
import Mathlib.Data.String.Basic

/-!
# What a directory holds

A scan of a directory finds exactly the files below it that have a wanted suffix, lie under no
excluded name and announce a declaration, sorted by their parts. What leads to the directory does
not matter: wherever the same files stand the same ones are found.
-/

namespace EntityMapper.File

/-- No file of a tree is listed twice, and none stands where a directory is. -/
structure Tree.IsProper (t : Tree) : Prop where
  nodup : (t.files.map (·.1)).Nodup
  no_directory : ∀ file ∈ t.files, t.isDirectoryAt file.1 = false

/-- Names lead from a directory to a file that a scan looks for: its suffix is wanted, none of the
names is excluded, and its text announces a declaration. -/
structure Tree.Wants (t : Tree) (rule : ScanRule) (place : Place) (names : List String) : Prop where
  ne_nil : names ≠ []
  isFile : t.isFileAt (place ++ names) = true
  suffix_mem : Path.lowerSuffix ⟨.here, names⟩ ∈ rule.suffixes
  not_excluded : ∀ name ∈ names, name ∉ rule.excluded
  announced : ∃ n, Sql.AnnouncedAt (t.textAt (place ++ names)).toList n

/-- A file that was found, by the names that lead to it from the scanned directory. -/
def Found.seenFrom (p : Path) (f : Found) : List String × String :=
  (f.path.names.drop p.names.length, f.text)

/-! ## Files below a place -/

namespace Tree

variable {t : Tree} {place : Place} {names : List String}

/-- A place is a file iff the files of the tree list it. -/
theorem isFileAt_iff : t.isFileAt place = true ↔ place ∈ t.files.map (·.1) := by
  rw [isFileAt, bytes?, Option.isSome_iff_ne_none, ne_eq, List.lookup_eq_none_iff]
  simp

/-- In a proper tree no directory is a file. -/
theorem IsProper.isFileAt_eq_false (ht : t.IsProper) (h : t.isDirectoryAt place = true) :
    t.isFileAt place = false := by
  rw [← Bool.not_eq_true, isFileAt_iff, List.mem_map]
  rintro ⟨file, hfile, rfl⟩
  rw [ht.no_directory file hfile] at h
  cases h

/-- The files below a place are those with the place as a proper prefix. -/
theorem below_eq (t : Tree) (place : Place) : t.below place =
    (t.files.map (·.1)).filterMap fun file =>
      if place.isPrefixOf file ∧ place ≠ file then some (file.drop place.length) else none := by
  rw [below, List.filterMap_map]
  rfl

/-- The names that lead from a place to what stands at another one. -/
theorem drop_eq_some_iff {file : Place} :
    (if place.isPrefixOf file ∧ place ≠ file then some (file.drop place.length) else none) =
      some names ↔ names ≠ [] ∧ place ++ names = file := by
  constructor
  · intro h
    split at h
    · rename_i hinside
      obtain ⟨rest, rfl⟩ := List.isPrefixOf_iff_prefix.mp hinside.1
      rw [List.drop_left, Option.some.injEq] at h
      subst h
      refine ⟨?_, rfl⟩
      rintro rfl
      exact hinside.2 (List.append_nil place).symm
    · cases h
  · rintro ⟨hne, rfl⟩
    have hinside : place.isPrefixOf (place ++ names) = true ∧ place ≠ place ++ names := by
      refine ⟨List.isPrefixOf_iff_prefix.mpr (List.prefix_append place names), fun heq => hne ?_⟩
      exact List.append_right_eq_self.mp heq.symm
    rw [if_pos hinside, List.drop_left]

/-- Names lead from a place to a file below it iff the place that they make is a file. -/
theorem mem_below_iff : names ∈ t.below place ↔
    names ≠ [] ∧ t.isFileAt (place ++ names) = true := by
  rw [below_eq, List.mem_filterMap, isFileAt_iff]
  simp only [drop_eq_some_iff]
  constructor
  · rintro ⟨_, hfile, hne, rfl⟩
    exact ⟨hne, hfile⟩
  · rintro ⟨hne, hfile⟩
    exact ⟨_, hfile, hne, rfl⟩

/-- In a proper tree no file is listed twice below a place. -/
theorem IsProper.nodup_below (ht : t.IsProper) (place : Place) : (t.below place).Nodup := by
  rw [below_eq]
  refine ht.nodup.filterMap fun file file' names h h' => ?_
  rw [Option.mem_def, drop_eq_some_iff] at h h'
  exact h.2.symm.trans h'.2

end Tree

/-! ## Paths below a directory -/

/-- The parts of a joined path are those of both. -/
theorem Path.parts_join (p : Path) (names : List String) :
    (p.join ⟨.here, names⟩).parts = p.parts ++ names := by
  obtain ⟨root, front⟩ := p
  cases root <;> rfl

/-- The suffix of a joined path is that of the names joined. -/
theorem Path.lowerSuffix_join (p : Path) {names : List String} (hne : names ≠ []) :
    (p.join ⟨.here, names⟩).lowerSuffix = Path.lowerSuffix ⟨.here, names⟩ := by
  refine Path.lowerSuffix_congr ?_
  rw [Path.join, if_pos rfl, List.getLast?_append_of_ne_nil _ hne]

/-- The order of paths below a directory is that of the names behind it. -/
theorem append_lt_append_iff {front names names' : List String} :
    front ++ names < front ++ names' ↔ names < names' := by
  have hmono : StrictMono fun names : List String => front ++ names :=
    fun _ _ h => List.append_left_lt h
  exact hmono.lt_iff_lt

/-! ## What a scan finds -/

section Scan

variable {t t' : Tree} {rule : ScanRule} {p p' : Path} {place place' : Place} {names : List String}
  {f : Found}

/-- A file below a place is found iff the rule wants it, with its path and its text. -/
theorem wanted?_eq_some_iff (hnames : names ∈ t.below place) :
    t.wanted? rule p place names = some f ↔
      t.Wants rule place names ∧ ⟨p.join ⟨.here, names⟩, t.textAt (place ++ names)⟩ = f := by
  obtain ⟨hne, hfile⟩ := Tree.mem_below_iff.mp hnames
  have hwants : (rule.covers (p.join ⟨.here, names⟩) names &&
      Sql.mayDeclare (t.textAt (place ++ names))) = true ↔ t.Wants rule place names := by
    rw [ScanRule.covers, Path.lowerSuffix_join p hne, Bool.and_eq_true, Bool.and_eq_true,
      Sql.mayDeclare_iff, List.contains_iff_mem, Bool.not_eq_true', List.any_eq_false]
    simp only [List.contains_iff_mem]
    exact ⟨fun ⟨⟨hsuffix, hspared⟩, hannounced⟩ => ⟨hne, hfile, hsuffix, hspared, hannounced⟩,
      fun h => ⟨⟨h.suffix_mem, h.not_excluded⟩, h.announced⟩⟩
  rw [Tree.wanted?, ← hwants]
  split
  · rename_i h
    simp [h]
  · rename_i h
    simp [h]

/-- What a scan of a directory finds, before and after it is sorted. -/
theorem mem_filterMap_wanted?_iff : f ∈ (t.below place).filterMap (t.wanted? rule p place) ↔
    ∃ names, t.Wants rule place names ∧
      f = ⟨p.join ⟨.here, names⟩, t.textAt (place ++ names)⟩ := by
  rw [List.mem_filterMap]
  constructor
  · rintro ⟨names, hnames, h⟩
    obtain ⟨hwants, rfl⟩ := (wanted?_eq_some_iff hnames).mp h
    exact ⟨names, hwants, rfl⟩
  · rintro ⟨names, hwants, rfl⟩
    have hnames : names ∈ t.below place := Tree.mem_below_iff.mpr ⟨hwants.ne_nil, hwants.isFile⟩
    exact ⟨names, hnames, (wanted?_eq_some_iff hnames).mpr ⟨hwants, rfl⟩⟩

/-- No two files that are found have the same parts. -/
theorem pairwise_filterMap_wanted? (ht : t.IsProper) :
    ((t.below place).filterMap (t.wanted? rule p place)).Pairwise fun a b =>
      a.path.parts ≠ b.path.parts := by
  rw [List.pairwise_filterMap]
  refine (ht.nodup_below place).imp_of_mem fun {names names'} hnames hnames' hne a ha b hb heq => ?_
  obtain ⟨-, rfl⟩ := (wanted?_eq_some_iff hnames).mp ha
  obtain ⟨-, rfl⟩ := (wanted?_eq_some_iff hnames').mp hb
  rw [Path.parts_join, Path.parts_join] at heq
  exact hne (List.append_cancel_left heq)

/-- Files with different parts are sorted strictly. -/
theorem pairwise_mergeSort_parts {found : List Found}
    (h : found.Pairwise fun a b => a.path.parts ≠ b.path.parts) :
    (found.mergeSort fun a b => Path.le a.path b.path).Pairwise fun a b =>
      a.path.parts < b.path.parts := by
  have hle : ∀ a b : Found, Path.le a.path b.path = true ↔ a.path.parts ≤ b.path.parts := by
    intro a b
    rw [Path.le, decide_eq_true_iff, not_lt]
  have hsorted : (found.mergeSort fun a b => Path.le a.path b.path).Pairwise fun a b =>
      Path.le a.path b.path = true := by
    refine List.pairwise_mergeSort (fun a b c hab hbc => ?_) (fun a b => ?_) found
    · exact (hle a c).mpr (le_trans ((hle a b).mp hab) ((hle b c).mp hbc))
    · rw [Bool.or_eq_true, hle, hle]
      exact le_total _ _
  have hne : (found.mergeSort fun a b => Path.le a.path b.path).Pairwise fun a b =>
      a.path.parts ≠ b.path.parts :=
    ((List.mergeSort_perm found _).pairwise_iff fun h => Ne.symm h).mpr h
  exact hsorted.imp₂ (fun a b hab hne => lt_of_le_of_ne ((hle a b).mp hab) hne) hne

/-- A scan of a directory finds the files that it looks for, sorted strictly by their parts. -/
theorem exists_scan (ht : t.IsProper) (hfind : t.find p = .ok (some place))
    (hdirectory : t.isDirectoryAt place = true) (rule : ScanRule) :
    ∃ found, scan t rule p = .ok found ∧
      (found.Pairwise fun a b => a.path.parts < b.path.parts) ∧
      ∀ f, f ∈ found ↔ ∃ names, t.Wants rule place names ∧
        f = ⟨p.join ⟨.here, names⟩, t.textAt (place ++ names)⟩ := by
  refine ⟨_, scan_of_find hfind, ?_, fun f => ?_⟩
  · rw [ht.isFileAt_eq_false hdirectory]
    exact pairwise_mergeSort_parts (pairwise_filterMap_wanted? ht)
  · rw [ht.isFileAt_eq_false hdirectory, ← mem_filterMap_wanted?_iff]
    exact List.mem_mergeSort

/-- Seen from a path, a joined path is the names joined. -/
theorem seenFrom_join (p : Path) (names : List String) (text : String) :
    Found.seenFrom p ⟨p.join ⟨.here, names⟩, text⟩ = (names, text) := by
  rw [Found.seenFrom, Path.join, if_pos rfl, List.drop_left]

/-- Where the same files stand the same ones are looked for. -/
theorem Tree.Wants.congr (h : ∀ names, t'.bytes? (place' ++ names) = t.bytes? (place ++ names))
    (hwants : t.Wants rule place names) : t'.Wants rule place' names where
  ne_nil := hwants.ne_nil
  isFile := by
    rw [Tree.isFileAt, h]
    exact hwants.isFile
  suffix_mem := hwants.suffix_mem
  not_excluded := hwants.not_excluded
  announced := by
    rw [Tree.textAt, h]
    exact hwants.announced

/-- The files that a scan finds, as they are seen from the directory. -/
structure SeesExactly (t : Tree) (rule : ScanRule) (place : Place)
    (seen : List (List String × String)) : Prop where
  sorted : seen.Pairwise fun a b => a.1 < b.1
  mem_iff : ∀ x, x ∈ seen ↔ t.Wants rule place x.1 ∧ x.2 = t.textAt (place ++ x.1)

/-- A list of the wanted files in order is what the rule sees. -/
theorem seesExactly_of_found {found : List Found}
    (hsorted : found.Pairwise fun a b => a.path.parts < b.path.parts)
    (hmem : ∀ f, f ∈ found ↔ ∃ names, t.Wants rule place names ∧
      f = ⟨p.join ⟨.here, names⟩, t.textAt (place ++ names)⟩) :
    SeesExactly t rule place (found.map (Found.seenFrom p)) := by
  constructor
  · rw [List.pairwise_map]
    refine hsorted.imp_of_mem fun {a b} ha hb hlt => ?_
    obtain ⟨names, -, rfl⟩ := (hmem a).mp ha
    obtain ⟨names', -, rfl⟩ := (hmem b).mp hb
    rw [Path.parts_join, Path.parts_join, append_lt_append_iff] at hlt
    rwa [seenFrom_join, seenFrom_join]
  · rintro ⟨names, text⟩
    rw [List.mem_map]
    constructor
    · rintro ⟨f, hf, hseen⟩
      obtain ⟨names', hwants, rfl⟩ := (hmem f).mp hf
      rw [seenFrom_join] at hseen
      obtain ⟨rfl, rfl⟩ := Prod.mk.inj hseen
      exact ⟨hwants, rfl⟩
    · rintro ⟨hwants, htext⟩
      obtain rfl : text = t.textAt (place ++ names) := htext
      exact ⟨_, (hmem _).mpr ⟨names, hwants, rfl⟩, seenFrom_join p names _⟩

/-- What is seen of the same files is the same. -/
theorem SeesExactly.eq {seen seen' : List (List String × String)}
    (h : SeesExactly t rule place seen) (h' : SeesExactly t' rule place' seen')
    (hbytes : ∀ names, t'.bytes? (place' ++ names) = t.bytes? (place ++ names)) :
    seen' = seen := by
  have hwants (names : List String) : t'.Wants rule place' names ↔ t.Wants rule place names :=
    ⟨.congr fun names => (hbytes names).symm, .congr hbytes⟩
  have htext (names : List String) : t'.textAt (place' ++ names) = t.textAt (place ++ names) := by
    rw [Tree.textAt, hbytes, Tree.textAt]
  let before (a b : List String × String) : Prop := a.1 < b.1
  have : Std.Irrefl before := ⟨fun a => lt_irrefl a.1⟩
  have : Std.Antisymm before := ⟨fun a b hab hba => absurd hba (lt_asymm hab)⟩
  refine List.Pairwise.eq_of_mem_iff (r := before) h'.sorted h.sorted fun x => ?_
  rw [h'.mem_iff, h.mem_iff, hwants, htext]

/-- In a tree without links a scan of a directory finds exactly the files that lead down from it,
have a wanted suffix, lie under no excluded name and announce a declaration, each once and sorted by
their parts. The names that lead to the directory count for nothing: where the same files stand
below another directory, of this or another tree, the same ones are found there by the same
names. -/
theorem scan_of_isDirectory (ht : t.IsProper) (hfind : t.find p = .ok (some place))
    (hdirectory : t.isDirectoryAt place = true) (rule : ScanRule) :
    ∃ found, scan t rule p = .ok found ∧
      (found.Pairwise fun a b => a.path.parts < b.path.parts) ∧
      (∀ f, f ∈ found ↔ ∃ names, t.Wants rule place names ∧
        f = ⟨p.join ⟨.here, names⟩, t.textAt (place ++ names)⟩) ∧
      ∀ (t' : Tree) (p' : Path) (place' : Place), t'.IsProper →
        t'.find p' = .ok (some place') → t'.isDirectoryAt place' = true →
        (∀ names, t'.bytes? (place' ++ names) = t.bytes? (place ++ names)) →
        ∃ found', scan t' rule p' = .ok found' ∧
          found'.map (Found.seenFrom p') = found.map (Found.seenFrom p) := by
  obtain ⟨found, hscan, hsorted, hmem⟩ := exists_scan ht hfind hdirectory rule
  refine ⟨found, hscan, hsorted, hmem, fun t' p' place' ht' hfind' hdirectory' hbytes => ?_⟩
  obtain ⟨found', hscan', hsorted', hmem'⟩ := exists_scan ht' hfind' hdirectory' rule
  have hseen := seesExactly_of_found hsorted hmem
  have hseen' := seesExactly_of_found hsorted' hmem'
  exact ⟨found', hscan', hseen.eq hseen' hbytes⟩

end Scan

/-- Two directories of one name at different depths, the deeper one below an excluded name, and
below each of them a wanted file and one under an excluded name. -/
def nestedTree : Tree where
  files := [["build", "in", "a.b.SQL"], ["build", "in", "target", "c.sql"], ["in", "a.b.SQL"],
    ["in", "target", "c.sql"]].map
      fun place => (place, "CREATE TABLE t".toList.map fun c => UInt8.ofNat c.toNat)
  directories := [["build"], ["build", "in"], ["build", "in", "target"], ["in"], ["in", "target"]]

/-- What lies above a directory excludes nothing in it. -/
theorem scan_of_isDirectory_nestedTree :
    ∃ found found', scan nestedTree {} ⟨.here, ["in"]⟩ = .ok found ∧
      scan nestedTree {} ⟨.here, ["build", "..", "build", "in"]⟩ = .ok found' ∧
      (∀ f ∈ found, ∃ names, nestedTree.Wants {} ["in"] names ∧
        f = ⟨Path.join ⟨.here, ["in"]⟩ ⟨.here, names⟩, nestedTree.textAt (["in"] ++ names)⟩) ∧
      found'.map (Found.seenFrom ⟨.here, ["build", "..", "build", "in"]⟩) =
        found.map (Found.seenFrom ⟨.here, ["in"]⟩) ∧
      found.map (Found.seenFrom ⟨.here, ["in"]⟩) = [(["a.b.SQL"], "CREATE TABLE t")] := by
  have hproper : nestedTree.IsProper := ⟨by decide +kernel, by decide +kernel⟩
  have hbytes (names : List String) :
      nestedTree.bytes? (["build", "in"] ++ names) = nestedTree.bytes? (["in"] ++ names) := by
    simp [Tree.bytes?, nestedTree, List.lookup_cons]
  have hfind : nestedTree.find ⟨.here, ["in"]⟩ = .ok (some ["in"]) := by decide +kernel
  have hdirectory : nestedTree.isDirectoryAt ["in"] = true := by decide +kernel
  obtain ⟨found, hscan, -, hmem, hsame⟩ := scan_of_isDirectory hproper hfind hdirectory {}
  obtain ⟨found', hscan', heq⟩ := hsame nestedTree ⟨.here, ["build", "..", "build", "in"]⟩
    ["build", "in"] hproper (by decide +kernel) (by decide +kernel) hbytes
  refine ⟨found, found', hscan, hscan', fun f hf => (hmem f).mp hf, heq, ?_⟩
  have hfound : scan nestedTree {} ⟨.here, ["in"]⟩ =
      .ok [⟨⟨.here, ["in", "a.b.SQL"]⟩, "CREATE TABLE t"⟩] := by
    decide +kernel
  rw [hfound] at hscan
  cases hscan
  decide +kernel

end EntityMapper.File
