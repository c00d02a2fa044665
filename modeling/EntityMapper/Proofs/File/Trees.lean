import EntityMapper.File.Tree

/-!
# Looking up and writing in a tree

Where a path leads depends on the directories alone, and it stays there when directories are added.
Making a directory adds directories and changes no file, and a write changes one file and no
directory.
-/

namespace EntityMapper.File

/-- The place that a name leads to from a place. -/
def Place.enter (place : Place) (name : String) : Place :=
  if name = ".." then place.dropLast else place ++ [name]

/-- The place that a path leads to from a working directory, if its steps can be taken. -/
def Path.target (home : Place) (p : Path) : Place :=
  p.names.foldl Place.enter (if p.root = .here then home else [])

/-- A path leads to a place of its last name. -/
theorem Path.getLast_target (home : Place) {p : Path} {name : String}
    (h : p.names.getLast? = some name) (hname : name ≠ "..") :
    (p.target home).getLast? = some name := by
  obtain ⟨names, heq⟩ := List.getLast?_eq_some_iff.mp h
  rw [target, heq, List.foldl_append, List.foldl_cons, List.foldl_nil, Place.enter, if_neg hname,
    List.getLast?_concat]

namespace Tree

variable {t t' : Tree}

/-! ## Places and directories -/

/-- Writing a file gives its place the bytes and leaves every other place. -/
theorem bytes?_put (t : Tree) (place other : Place) (bytes : List UInt8) :
    (t.put place bytes).bytes? other = if other = place then some bytes else t.bytes? other := by
  obtain ⟨files, directories, home⟩ := t
  simp only [bytes?, put]
  induction files with
  | nil =>
    by_cases h : other = place
    · simp [putFiles, h]
    · simp [putFiles, List.lookup_cons, h, beq_eq_false_iff_ne.mpr h]
  | cons file files ih =>
    obtain ⟨first, old⟩ := file
    by_cases hfirst : first = place
    · by_cases h : other = place
      · simp [putFiles, hfirst, h]
      · simp [putFiles, List.lookup_cons, hfirst, h, beq_eq_false_iff_ne.mpr h]
    · rw [putFiles, if_neg hfirst]
      by_cases hother : other = first
      · have hne : other ≠ place := fun heq => hfirst (hother ▸ heq)
        simp [← hother, hne]
      · rw [List.lookup_cons, List.lookup_cons, beq_eq_false_iff_ne.mpr hother]
        exact ih

/-- Writing a file makes its place a file and leaves every other place. -/
theorem isFileAt_put (t : Tree) (place other : Place) (bytes : List UInt8) :
    (t.put place bytes).isFileAt other = (decide (other = place) || t.isFileAt other) := by
  rw [isFileAt, bytes?_put]
  by_cases h : other = place
  · simp [h]
  · simp [h, isFileAt]

/-- Writing a file leaves the texts at other places. -/
theorem textAt_put_of_ne {place other : Place} (h : other ≠ place) (t : Tree)
    (bytes : List UInt8) : (t.put place bytes).textAt other = t.textAt other := by
  rw [textAt, textAt, bytes?_put, if_neg h]

/-- Adding a directory makes its place one and leaves every other place. -/
theorem isDirectoryAt_addDirectory (t : Tree) (place other : Place) :
    (t.addDirectory place).isDirectoryAt other =
      (decide (other = place) || t.isDirectoryAt other) := by
  rw [addDirectory]
  split
  · rename_i h
    by_cases heq : other = place
    · simp [heq, h]
    · simp [heq]
  · by_cases heq : other = place
    · simp [isDirectoryAt, heq]
    · simp [isDirectoryAt, heq]

@[simp] theorem files_addDirectory (t : Tree) (place : Place) :
    (t.addDirectory place).files = t.files := by
  rw [addDirectory]
  split <;> rfl

@[simp] theorem home_addDirectory (t : Tree) (place : Place) :
    (t.addDirectory place).home = t.home := by
  rw [addDirectory]
  split <;> rfl

theorem bytes?_addDirectory (t : Tree) (place other : Place) :
    (t.addDirectory place).bytes? other = t.bytes? other := by
  rw [bytes?, files_addDirectory]
  rfl

/-- Adding a directory that is there changes nothing. -/
theorem addDirectory_of_isDirectoryAt {place : Place} (h : t.isDirectoryAt place = true) :
    t.addDirectory place = t := by
  rw [addDirectory, if_pos h]

/-- Trees with the same files have files at the same places. -/
theorem isFileAt_congr (h : t'.files = t.files) (place : Place) :
    t'.isFileAt place = t.isFileAt place := by
  rw [isFileAt, isFileAt, bytes?, bytes?, h]

/-! ## More directories -/

/-- The directories of a tree are directories of another one, which has the same working
directory. -/
structure Within (t t' : Tree) : Prop where
  home_eq : t'.home = t.home
  isDirectoryAt : ∀ place, t.isDirectoryAt place = true → t'.isDirectoryAt place = true

theorem Within.refl (t : Tree) : t.Within t :=
  ⟨rfl, fun _ h => h⟩

theorem Within.trans {t'' : Tree} (h : t.Within t') (h' : t'.Within t'') : t.Within t'' :=
  ⟨h'.home_eq.trans h.home_eq, fun place hplace => h'.isDirectoryAt place
    (h.isDirectoryAt place hplace)⟩

/-- Writing a file keeps all directories. -/
theorem within_put (t : Tree) (place : Place) (bytes : List UInt8) :
    t.Within (t.put place bytes) :=
  ⟨rfl, fun _ h => h⟩

/-- Adding a directory keeps all others. -/
theorem within_addDirectory (t : Tree) (place : Place) : t.Within (t.addDirectory place) :=
  ⟨home_addDirectory t place, fun other h => by simp [isDirectoryAt_addDirectory, h]⟩

/-- Names lead to one place only. -/
theorem follow_eq_some {place q : Place} {names : List String}
    (h : t.follow place names = .ok (some q)) : q = names.foldl Place.enter place := by
  induction names generalizing place with
  | nil =>
    rw [follow] at h
    cases h
    rfl
  | cons name names ih =>
    rw [follow] at h
    rw [List.foldl_cons, Place.enter]
    split at h
    · cases h
    · split at h
      · rename_i hname
        rw [if_pos hname]
        exact ih h
      · rename_i hname
        rw [if_neg hname]
        cases hcheck : checkName name with
        | error e => simp [hcheck, bind, Except.bind] at h
        | ok _ =>
          rw [hcheck] at h
          exact ih h

/-- Where names lead they lead among more directories. -/
theorem follow_mono (hw : t.Within t') {place q : Place} {names : List String}
    (h : t.follow place names = .ok (some q)) : t'.follow place names = .ok (some q) := by
  induction names generalizing place with
  | nil => exact h
  | cons name names ih =>
    rw [follow] at h ⊢
    split at h
    · cases h
    · rename_i hdirectory
      have hdirectory' : ¬ (!t'.isDirectoryAt place) = true := by
        simpa using hw.isDirectoryAt place (by simpa using hdirectory)
      rw [if_neg hdirectory']
      split at h
      · rename_i hname
        rw [if_pos hname]
        exact ih h
      · rename_i hname
        rw [if_neg hname]
        cases hcheck : checkName name with
        | error e => simp [hcheck, bind, Except.bind] at h
        | ok _ =>
          rw [hcheck] at h
          exact ih h

/-- A path that leads to a place has no null character and is short enough, and its names lead
there. -/
theorem find_eq_some_iff {p : Path} {q : Place} :
    t.find p = .ok (some q) ↔
      p.hasNull = false ∧ p.checkLength = .ok () ∧ t.follow (t.start p) p.names = .ok (some q) := by
  rw [find]
  cases hnull : p.hasNull with
  | true => simp [pure, Except.pure]
  | false =>
    cases hlength : p.checkLength with
    | error e => simp [bind, Except.bind]
    | ok _ => simp [bind, Except.bind]

/-- A path leads to its target or nowhere. -/
theorem eq_target_of_find {p : Path} {q : Place} (h : t.find p = .ok (some q)) :
    q = p.target t.home :=
  follow_eq_some (find_eq_some_iff.mp h).2.2

/-- Where a path leads it leads among more directories. -/
theorem find_mono (hw : t.Within t') {p : Path} {q : Place} (h : t.find p = .ok (some q)) :
    t'.find p = .ok (some q) := by
  obtain ⟨hnull, hlength, hfollow⟩ := find_eq_some_iff.mp h
  have hstart : t'.start p = t.start p := by
    rw [start, start, hw.home_eq]
  exact find_eq_some_iff.mpr ⟨hnull, hlength, hstart ▸ follow_mono hw hfollow⟩

/-! ## Making directories -/

/-- Making directories changes no file and takes no directory away. -/
theorem makeFrom_spec (t : Tree) (place : Place) (names : List String) :
    (t.makeFrom place names).1.files = t.files ∧ t.Within (t.makeFrom place names).1 := by
  induction names generalizing t place with
  | nil => exact ⟨rfl, .refl t⟩
  | cons name names ih =>
    rw [makeFrom]
    split
    · exact ih t place.dropLast
    · dsimp only
      split
      · exact ⟨rfl, .refl t⟩
      · split
        · exact ⟨rfl, .refl t⟩
        · obtain ⟨hfiles, hwithin⟩ := ih (t.addDirectory (place ++ [name])) (place ++ [name])
          exact ⟨hfiles.trans (files_addDirectory t _),
            (within_addDirectory t _).trans hwithin⟩

/-- Making a directory leaves the files and keeps all directories. -/
theorem makeDirectory_spec (t : Tree) (p : Path) :
    (t.makeDirectory p).1.files = t.files ∧ t.Within (t.makeDirectory p).1 := by
  rw [makeDirectory]
  split
  · exact ⟨rfl, .refl t⟩
  · split
    · exact ⟨rfl, .refl t⟩
    · exact makeFrom_spec t _ _

/-! ## Writing -/

/-- Nothing is in the way of names iff the first leads to a directory and nothing is in the way of
the others from there. -/
theorem obstacle?_cons_eq_none_iff {place : Place} {name : String} {names : List String} :
    t.obstacle? place (name :: names) = none ↔
      t.isDirectoryAt (Place.enter place name) = true ∧
        t.obstacle? (Place.enter place name) names = none := by
  rw [obstacle?]
  change (if t.isDirectoryAt (Place.enter place name) = true then _
    else if t.isFileAt (Place.enter place name) = true then _ else _) = none ↔ _
  by_cases hdirectory : t.isDirectoryAt (Place.enter place name) = true
  · rw [if_pos hdirectory]
    exact ⟨fun h => ⟨hdirectory, h⟩, fun h => h.2⟩
  · rw [if_neg hdirectory]
    simp only [hdirectory]
    split <;> simp

/-- Names that lead through directories lead through them where there are more. -/
theorem obstacle?_eq_none_of_directories (h : ∀ place, t.isDirectoryAt place = true →
    t'.isDirectoryAt place = true) {place : Place} {names : List String}
    (hnone : t.obstacle? place names = none) : t'.obstacle? place names = none := by
  induction names generalizing place with
  | nil => rfl
  | cons name names ih =>
    rw [obstacle?_cons_eq_none_iff] at hnone ⊢
    exact ⟨h _ hnone.1, ih hnone.2⟩

/-- A write puts the text in the file that the path leads to, through directories and to no
directory. -/
theorem write_eq_ok_iff {p : Path} {text : String} : t.write p text = .ok t' ↔
    ∃ place, t.find p = .ok (some place) ∧
      t.obstacle? (t.start p) p.names.dropLast = none ∧ t.isDirectoryAt place = false ∧
      t.put place (Text.encodeUtf8 text) = t' := by
  rw [write]
  cases hnull : p.hasNull with
  | true => simp [find_eq_some_iff, hnull, throw, throwThe, MonadExceptOf.throw, bind, Except.bind]
  | false =>
    cases hlength : p.checkLength with
    | error e => simp [find_eq_some_iff, hlength, bind, Except.bind]
    | ok _ =>
      cases hobstacle : t.obstacle? (t.start p) p.names.dropLast with
      | some e => simp [throw, throwThe, MonadExceptOf.throw, bind, Except.bind]
      | none =>
        simp only [find_eq_some_iff, hnull, hlength]
        cases hfollow : t.follow (t.start p) p.names with
        | error e => simp [bind, Except.bind]
        | ok found =>
          cases found with
          | none => simp [throw, throwThe, MonadExceptOf.throw, bind, Except.bind]
          | some place =>
            cases hdirectory : t.isDirectoryAt place with
            | true =>
              simp [hdirectory, throw, throwThe, MonadExceptOf.throw, bind, Except.bind]
            | false => simp [hdirectory, bind, Except.bind, pure, Except.pure]

/-! ## Frames -/

/-- A tree has the directories of another one and differs from it in files at the given places
only. -/
structure AgreesOutside (places : Place → Prop) (t t' : Tree) : Prop extends t.Within t' where
  bytes_eq : ∀ place, ¬ places place → t'.bytes? place = t.bytes? place

section AgreesOutside

variable {places : Place → Prop}

theorem AgreesOutside.refl (t : Tree) : t.AgreesOutside places t :=
  ⟨.refl t, fun _ _ => rfl⟩

theorem AgreesOutside.trans {t'' : Tree} (h : t.AgreesOutside places t')
    (h' : t'.AgreesOutside places t'') : t.AgreesOutside places t'' :=
  ⟨h.toWithin.trans h'.toWithin, fun place hplace =>
    (h'.bytes_eq place hplace).trans (h.bytes_eq place hplace)⟩

/-- Trees that agree outside some places agree outside more places. -/
theorem AgreesOutside.mono {more : Place → Prop} (h : t.AgreesOutside places t')
    (hmore : ∀ place, places place → more place) : t.AgreesOutside more t' :=
  ⟨h.toWithin, fun place hplace => h.bytes_eq place (mt (hmore place) hplace)⟩

/-- Making a directory changes no file. -/
theorem agreesOutside_makeDirectory (t : Tree) (p : Path) :
    t.AgreesOutside places (t.makeDirectory p).1 := by
  obtain ⟨hfiles, hwithin⟩ := makeDirectory_spec t p
  exact ⟨hwithin, fun place _ => by rw [bytes?, bytes?, hfiles]⟩

/-- A write changes the file at the target of its path. -/
theorem agreesOutside_write {p : Path} {text : String} (h : t.write p text = .ok t') :
    t.AgreesOutside (· = p.target t.home) t' := by
  obtain ⟨place, hfind, -, -, rfl⟩ := write_eq_ok_iff.mp h
  refine ⟨within_put t place _, fun other hother => ?_⟩
  rw [bytes?_put, if_neg]
  rwa [eq_target_of_find hfind]

end AgreesOutside

/-! ## The same directories -/

/-- Two trees have the same directories and the same working directory. -/
structure SameDirectories (t t' : Tree) : Prop where
  home_eq : t'.home = t.home
  isDirectoryAt_eq : ∀ place, t'.isDirectoryAt place = t.isDirectoryAt place

theorem SameDirectories.refl (t : Tree) : t.SameDirectories t :=
  ⟨rfl, fun _ => rfl⟩

theorem SameDirectories.symm (h : t.SameDirectories t') : t'.SameDirectories t :=
  ⟨h.home_eq.symm, fun place => (h.isDirectoryAt_eq place).symm⟩

theorem SameDirectories.trans {t'' : Tree} (h : t.SameDirectories t')
    (h' : t'.SameDirectories t'') : t.SameDirectories t'' :=
  ⟨h'.home_eq.trans h.home_eq, fun place =>
    (h'.isDirectoryAt_eq place).trans (h.isDirectoryAt_eq place)⟩

/-- Trees with the same directories keep each other's. -/
theorem SameDirectories.within (h : t.SameDirectories t') : t.Within t' :=
  ⟨h.home_eq, fun place hplace => (h.isDirectoryAt_eq place).trans hplace⟩

/-- Writing a file makes and removes no directory. -/
theorem sameDirectories_put (t : Tree) (place : Place) (bytes : List UInt8) :
    t.SameDirectories (t.put place bytes) :=
  ⟨rfl, fun _ => rfl⟩

/-- A text that can be written can be written among the same directories. -/
theorem SameDirectories.write (h : t.SameDirectories t') {p : Path} {text : String} {u : Tree}
    (hwrite : t.write p text = .ok u) : ∃ u', t'.write p text = .ok u' := by
  obtain ⟨place, hfind, hobstacle, hdirectory, -⟩ := write_eq_ok_iff.mp hwrite
  have hstart : t'.start p = t.start p := by
    rw [start, start, h.home_eq]
  refine ⟨_, write_eq_ok_iff.mpr ⟨place, find_mono h.within hfind, ?_, ?_, rfl⟩⟩
  · rw [hstart]
    exact obstacle?_eq_none_of_directories h.within.isDirectoryAt hobstacle
  · rw [h.isDirectoryAt_eq]
    exact hdirectory

/-- Where directories have been made they need not be made again, whatever has been put beside
them. -/
theorem makeFrom_again {place : Place} {names : List String} {made u : Tree}
    (hmade : t.makeFrom place names = (made, none)) (hsame : made.SameDirectories u)
    (hfiles : ∀ q, u.isFileAt q = true → made.isFileAt q = true ∨ made.isDirectoryAt q = false) :
    u.makeFrom place names = (u, none) := by
  induction names generalizing t place with
  | nil => rfl
  | cons name names ih =>
    rw [makeFrom] at hmade ⊢
    split at hmade
    · rename_i hname
      rw [if_pos hname]
      exact ih hmade
    · rename_i hname
      rw [if_neg hname]
      dsimp only at hmade ⊢
      split at hmade
      · cases (Prod.mk.inj hmade).2
      · rename_i hfile
        split at hmade
        · cases (Prod.mk.inj hmade).2
        · obtain ⟨hmadeFiles, hwithin⟩ := makeFrom_spec (t.addDirectory (place ++ [name]))
            (place ++ [name]) names
          rw [hmade] at hmadeFiles hwithin
          have hdirectory : made.isDirectoryAt (place ++ [name]) = true := by
            refine hwithin.isDirectoryAt _ ?_
            simp [isDirectoryAt_addDirectory]
          have hnofile : ¬ u.isFileAt (place ++ [name]) = true := by
            intro hput
            rcases hfiles _ hput with hold | hno
            · rw [isFileAt_congr (hmadeFiles.trans (files_addDirectory t _))] at hold
              exact hfile hold
            · simp [hdirectory] at hno
          rw [if_neg hnofile, addDirectory_of_isDirectoryAt
            ((hsame.isDirectoryAt_eq _).trans hdirectory)]
          exact ih hmade

/-- A directory that was made is there, as long as no file takes a place on the way. -/
theorem makeDirectory_again {p : Path} {made u : Tree} (hmade : t.makeDirectory p = (made, none))
    (hsame : made.SameDirectories u)
    (hfiles : ∀ q, u.isFileAt q = true → made.isFileAt q = true ∨ made.isDirectoryAt q = false) :
    u.makeDirectory p = (u, none) := by
  have hwithin := (makeDirectory_spec t p).2
  rw [hmade] at hwithin
  have hstart : u.start p = t.start p := by
    rw [start, start, hsame.home_eq, hwithin.home_eq]
  rw [makeDirectory] at hmade ⊢
  split at hmade
  · cases (Prod.mk.inj hmade).2
  · rename_i hnull
    rw [if_neg hnull]
    split at hmade
    · cases (Prod.mk.inj hmade).2
    · rw [hstart]
      exact makeFrom_again hmade hsame hfiles

end Tree

end EntityMapper.File
