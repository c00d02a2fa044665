import EntityMapper.File.Scan
import EntityMapper.Proofs.File.Paths
import EntityMapper.Proofs.File.Trees

/-!
# Files that are spared

A tree may change while the files at some places stay as they are, in their order. A scan finds the
same files in it as before if the places of all that it looks into are among those.
-/

namespace EntityMapper.File

namespace Tree

/-- A tree has the directories of another one, and the same files in the same order at the places
that are kept. -/
structure Spares (kept : Place → Bool) (t t' : Tree) : Prop extends t.Within t' where
  files_eq : t'.files.filter (fun file => kept file.1) = t.files.filter (fun file => kept file.1)

variable {kept : Place → Bool} {t t' t'' : Tree}

theorem Spares.refl (t : Tree) : t.Spares kept t :=
  ⟨.refl t, rfl⟩

theorem Spares.trans (h : t.Spares kept t') (h' : t'.Spares kept t'') : t.Spares kept t'' :=
  ⟨h.toWithin.trans h'.toWithin, h'.files_eq.trans h.files_eq⟩

/-- Writing a file that is not kept leaves the kept ones. -/
theorem filter_putFiles {place : Place} (hplace : kept place = false) (bytes : List UInt8)
    (files : List (Place × List UInt8)) :
    (putFiles place bytes files).filter (fun file => kept file.1) =
      files.filter (fun file => kept file.1) := by
  induction files with
  | nil => simp [putFiles, hplace]
  | cons file files ih =>
    obtain ⟨other, old⟩ := file
    rw [putFiles]
    split
    · rename_i hother
      simp [hother, hplace]
    · rw [List.filter_cons, List.filter_cons, ih]

/-- A file that is put elsewhere spares what is kept. -/
theorem spares_put (t : Tree) {place : Place} (hplace : kept place = false) (bytes : List UInt8) :
    t.Spares kept (t.put place bytes) :=
  ⟨within_put t place bytes, filter_putFiles hplace bytes t.files⟩

/-- Making a directory spares all files. -/
theorem spares_makeDirectory (t : Tree) (p : Path) : t.Spares kept (t.makeDirectory p).1 := by
  obtain ⟨hfiles, hwithin⟩ := makeDirectory_spec t p
  exact ⟨hwithin, by rw [hfiles]⟩

/-- A kept file is found among the kept ones. -/
theorem lookup_filter {place : Place} (hplace : kept place = true)
    (files : List (Place × List UInt8)) :
    (files.filter fun file => kept file.1).lookup place = files.lookup place := by
  induction files with
  | nil => rfl
  | cons file files ih =>
    obtain ⟨other, bytes⟩ := file
    by_cases hother : place = other
    · subst hother
      simp [hplace]
    · rw [List.lookup_cons, beq_eq_false_iff_ne.mpr hother, List.filter_cons]
      split
      · rw [List.lookup_cons, beq_eq_false_iff_ne.mpr hother]
        exact ih
      · exact ih

/-- Where files are spared, a kept one has the same bytes. -/
theorem Spares.bytes?_eq (h : t.Spares kept t') {place : Place} (hplace : kept place = true) :
    t'.bytes? place = t.bytes? place := by
  rw [bytes?, bytes?, ← lookup_filter hplace t'.files, h.files_eq, lookup_filter hplace]

/-- Where files are spared, a kept place is a file as before. -/
theorem Spares.isFileAt_eq (h : t.Spares kept t') {place : Place} (hplace : kept place = true) :
    t'.isFileAt place = t.isFileAt place := by
  rw [isFileAt, isFileAt, h.bytes?_eq hplace]

/-- Where files are spared, a kept one has the same text. -/
theorem Spares.textAt_eq (h : t.Spares kept t') {place : Place} (hplace : kept place = true) :
    t'.textAt place = t.textAt place := by
  rw [textAt, textAt, h.bytes?_eq hplace]

end Tree

/-! ## Scanning again -/

/-- What a list yields outside of what is kept is nothing. -/
theorem filterMap_eq_of_kept {α β : Type} {f g : α → Option β} {kept : α → Bool} {xs ys : List α}
    (hf : ∀ a, kept a = false → f a = none) (hg : ∀ a, kept a = false → g a = none)
    (hfg : ∀ a, kept a = true → f a = g a) (h : xs.filter kept = ys.filter kept) :
    xs.filterMap f = ys.filterMap g := by
  have hall {f : α → Option β} (hf : ∀ a, kept a = false → f a = none) (xs : List α) :
      xs.filterMap f = (xs.filter kept).filterMap f := by
    rw [List.filterMap_filter]
    refine List.filterMap_congr fun a _ => ?_
    split
    · rfl
    · rename_i ha
      exact hf a (by simpa using ha)
  rw [hall hf, hall hg, h]
  refine List.filterMap_congr fun a ha => hfg a ?_
  exact (List.mem_filter.mp ha).2

/-- What a scan finds at the names that lead to a file below a directory, if it wants the file. -/
def Tree.wanted? (t : Tree) (rule : ScanRule) (p : Path) (place : Place) (names : List String) :
    Option Found :=
  if rule.covers (p.join ⟨.here, names⟩) names && Sql.mayDeclare (t.textAt (place ++ names)) then
    some ⟨p.join ⟨.here, names⟩, t.textAt (place ++ names)⟩
  else none

/-- A scan of a path that leads to a place finds the file there, or else the files below it. -/
theorem scan_of_find {rule : ScanRule} {t : Tree} {p : Path} {place : Place}
    (hfind : t.find p = .ok (some place)) : scan t rule p = .ok
      (if t.isFileAt place = true then [⟨p, t.textAt place⟩]
      else ((t.below place).filterMap (t.wanted? rule p place)).mergeSort
        fun a b => Path.le a.path b.path) := by
  rw [scan, hfind]
  change (if t.isFileAt place = true then _ else _) = _
  split
  · rfl
  · rfl

/-- What is below a place is the same again if all that is covered there is spared. -/
theorem filterMap_wanted?_below {rule : ScanRule} {kept : Place → Bool} {t t' : Tree} {p : Path}
    {place : Place} (h : t.Spares kept t')
    (hcovers : ∀ names, names ≠ [] → rule.covers (p.join ⟨.here, names⟩) names = true →
      kept (place ++ names) = true) :
    (t'.below place).filterMap (t'.wanted? rule p place) =
      (t.below place).filterMap (t.wanted? rule p place) := by
  rw [Tree.below, Tree.below, List.filterMap_filterMap, List.filterMap_filterMap]
  have hnone (u : Tree) : ∀ file : Place × List UInt8, kept file.1 = false →
      (if place.isPrefixOf file.1 ∧ place ≠ file.1 then some (file.1.drop place.length)
        else none).bind (u.wanted? rule p place) = none := by
    intro file hfile
    split
    · rename_i hinside
      obtain ⟨names, hnames⟩ := List.isPrefixOf_iff_prefix.mp hinside.1
      have hne : names ≠ [] := by
        rintro rfl
        exact hinside.2 (by rw [← hnames, List.append_nil])
      rw [← hnames, List.drop_left, Option.bind_some, Tree.wanted?, if_neg]
      intro hcond
      have hkept := hcovers names hne (Bool.and_eq_true_iff.mp hcond).1
      rw [hnames, hfile] at hkept
      cases hkept
    · rfl
  refine filterMap_eq_of_kept (hnone t') (hnone t) (fun file hfile => ?_) h.files_eq
  dsimp only
  split
  · rename_i hinside
    obtain ⟨names, hnames⟩ := List.isPrefixOf_iff_prefix.mp hinside.1
    rw [← hnames] at hfile
    rw [← hnames, List.drop_left, Option.bind_some, Option.bind_some, Tree.wanted?, Tree.wanted?,
      h.textAt_eq hfile]
  · rfl

/-- A scan of a place finds the same files again if the place and all that is covered below it are
spared. -/
theorem scan_of_spares {rule : ScanRule} {kept : Place → Bool} {t t' : Tree} {p : Path}
    {place : Place} (h : t.Spares kept t') (hfind : t.find p = .ok (some place))
    (hplace : kept place = true)
    (hcovers : ∀ names, names ≠ [] → rule.covers (p.join ⟨.here, names⟩) names = true →
      kept (place ++ names) = true) : scan t' rule p = scan t rule p := by
  rw [scan_of_find hfind, scan_of_find (Tree.find_mono h.toWithin hfind), h.isFileAt_eq hplace,
    h.textAt_eq hplace, filterMap_wanted?_below h hcovers]

end EntityMapper.File
