import EntityMapper.Proofs.Conversion.ClassFiles
import EntityMapper.Proofs.Watch.History
import Mathlib.Data.Set.Function
import Mathlib.Logic.Relation

/-!
# Writes, events and conversions in any order

A flush takes the due paths out of the memory in one step and converts each of them in a step of its
own. Between any two of these steps files are written and events arrive late. As long as different
files have different class files, no write is lost: the class file of a file that has been written
is up to date, or an event, a pending path or a due path still leads to the file.
-/

namespace EntityMapper.Watch

open Conversion (Request classFile)
open File (Path Place Tree)

/-- The files of a project with the class that each of them declares, and how and where the classes
are written. -/
structure Project where
  files : Set Place
  className : Place → String
  options : Java.Options := {}
  directory : Path := ⟨.here, ["out"]⟩

/-- The conversion of a changed file of the project. -/
def Project.request (project : Project) : Request where
  options := project.options
  target := .directory project.directory

/-- The place of the class file of a file, where the working directory is given. -/
def Project.classPlace (project : Project) (home f : Place) : Place :=
  (classFile project.directory (project.className f)).target home

/-- Different files of the project have different class files. -/
def Project.Separates (project : Project) (home : Place) : Prop :=
  Set.InjOn (project.classPlace home) project.files

/-- Files and a watcher, with the events that have not been delivered yet, the paths of a flush that
are still to be converted, and the files that have been written. -/
structure Scene (τ : Type) where
  tree : Tree
  watcher : Watcher τ
  undelivered : List Event := []
  due : List Path := []
  written : List Place := []

variable {τ : Type}

namespace Scene

/-- The scene after a write of a watched file, of which an event is on its way. -/
def write (s : Scene τ) (source : String) (place : Place) (bytes : List UInt8) : Scene τ :=
  { s with
    tree := s.tree.put place bytes
    undelivered := s.undelivered ++ [{ source := source }]
    written := place :: s.written }

/-- The scene after the delivery of an event. -/
def deliver (s : Scene τ) (now : τ) (e : Event) : Scene τ :=
  { s with watcher := s.watcher.observe now e, undelivered := s.undelivered.erase e }

/-- The scene after a conversion, which leaves the given paths to be converted. -/
def convert (s : Scene τ) (p : Path) (rest : List Path) : Scene τ :=
  { s with tree := (conversion s.watcher.request s.tree p).tree, due := rest }

@[simp] theorem tree_convert (s : Scene τ) (p : Path) (rest : List Path) :
    (s.convert p rest).tree = (conversion s.watcher.request s.tree p).tree := rfl

@[simp] theorem watcher_convert (s : Scene τ) (p : Path) (rest : List Path) :
    (s.convert p rest).watcher = s.watcher := rfl

/-- A path leads to a file. -/
def Leads (s : Scene τ) (p : Path) (f : Place) : Prop :=
  s.tree.find p = .ok (some f)

/-- What is to come leads to a file: an event, a pending path, or a path that is due. -/
def Awaits (s : Scene τ) (f : Place) : Prop :=
  (∃ e ∈ s.undelivered, e.isChange = true ∧ s.Leads e.path f) ∨
    (∃ p ∈ s.watcher.pending.paths, s.Leads p f) ∨ ∃ p ∈ s.due, s.Leads p f

section Time

variable [Sub τ] [LE τ] [DecidableLE τ]

/-- The scene after a flush has taken the due paths. -/
def select (s : Scene τ) (now : τ) : Scene τ :=
  { s with
    watcher :=
      { s.watcher with pending := s.watcher.pending.waiting s.watcher.quietPeriod now }
    due := s.watcher.pending.due s.watcher.quietPeriod now }

@[simp] theorem tree_select (s : Scene τ) (now : τ) : (s.select now).tree = s.tree := rfl

@[simp] theorem request_select (s : Scene τ) (now : τ) :
    (s.select now).watcher.request = s.watcher.request := rfl

end Time

end Scene

namespace Project

variable (project : Project)

/-- The class file of a file holds the class of the table that the file declares now. -/
def IsCurrent (s : Scene τ) (f : Place) : Prop :=
  ∃ table file, (Sql.read (s.tree.textAt f)).result = .ok table ∧
    s.tree.find (classFile project.directory table.className) = .ok (some file) ∧
    s.tree.bytes? file = some (Text.encodeUtf8 (Java.classText project.options table))

/-- A scene in which nothing has happened. -/
def start (t : Tree) (quietPeriod : τ) : Scene τ where
  tree := t
  watcher := .fresh project.request quietPeriod

section Time

variable [Sub τ] [LE τ] [DecidableLE τ]

/-- What can happen next. -/
inductive Step : Scene τ → Scene τ → Prop where
  /-- A file of the project is written and declares its class. -/
  | write {s : Scene τ} (source : String) (place : Place) (bytes : List UInt8)
      (table : Schema.Table)
      (watched : (Path.ofString source).lowerSuffix ∈ watchedSuffixes)
      (leads : s.Leads (Path.ofString source) place)
      (no_directory : s.tree.isDirectoryAt place = false) (owned : place ∈ project.files)
      (declares : (Sql.read ((s.tree.put place bytes).textAt place)).result = .ok table)
      (named : table.className = project.className place) :
      Step s (s.write source place bytes)
  /-- A file that is not watched is written, other than a class file. -/
  | writeOther {s : Scene τ} (place : Place) (bytes : List UInt8)
      (unwatched : (File.Path.mk .slash place).lowerSuffix ∉ watchedSuffixes)
      (no_directory : s.tree.isDirectoryAt place = false)
      (no_class : ∀ f ∈ project.files, place ≠ project.classPlace s.tree.home f) :
      Step s { s with tree := s.tree.put place bytes }
  /-- A directory is made. -/
  | makeDirectory {s : Scene τ} (place : Place) :
      Step s { s with tree := s.tree.addDirectory place }
  /-- An event is delivered. -/
  | deliver {s : Scene τ} (now : τ) (e : Event) (undelivered : e ∈ s.undelivered) :
      Step s (s.deliver now e)
  /-- A flush takes the due paths, after the one before has converted its own. -/
  | select {s : Scene τ} (now : τ) (idle : s.due = []) : Step s (s.select now)
  /-- The next due path is converted. -/
  | convert {s : Scene τ} (p : Path) (rest : List Path) (due_eq : s.due = p :: rest)
      (returns : (conversion s.watcher.request s.tree p).failure = none) :
      Step s (s.convert p rest)

/-- A scene that steps lead to. -/
def Reaches (s s' : Scene τ) : Prop :=
  Relation.ReflTransGen project.Step s s'

end Time

/-! ## Places of watched files and of class files -/

/-- A watched path has a last name, which does not lead back. -/
theorem exists_name_of_watched {p : Path} (h : p.lowerSuffix ∈ watchedSuffixes) :
    ∃ name, p.names.getLast? = some name ∧ name ≠ ".." := by
  cases hlast : p.names.getLast? with
  | none =>
    rw [File.Path.lowerSuffix, File.Path.suffix, File.Path.name, hlast] at h
    exact absurd h (by decide)
  | some name =>
    refine ⟨name, rfl, ?_⟩
    rintro rfl
    rw [File.Path.lowerSuffix, File.Path.suffix_of_getLast hlast] at h
    exact absurd h (by decide)

/-- A watched path leads to a place that is watched. -/
theorem watched_of_find {t : Tree} {p : Path} {f : Place} (h : p.lowerSuffix ∈ watchedSuffixes)
    (hfind : t.find p = .ok (some f)) : (File.Path.mk .slash f).lowerSuffix ∈ watchedSuffixes := by
  obtain ⟨name, hlast, hname⟩ := exists_name_of_watched h
  have htarget : f.getLast? = some name := by
    rw [Tree.eq_target_of_find hfind]
    exact File.Path.getLast_target t.home hlast hname
  rwa [File.Path.lowerSuffix_congr (q := p) (htarget.trans hlast.symm)]

/-- A watched path is not the dash that stands for standard input. -/
theorem ne_dash_of_watched {p : Path} (hnormal : p.IsNormal)
    (h : p.lowerSuffix ∈ watchedSuffixes) : p.toString ≠ "-" := by
  intro hdash
  have hp := File.Path.ofString_toString hnormal
  rw [hdash] at hp
  rw [← hp] at h
  exact absurd h (by decide)

/-- No class file stands in the place of a watched file. -/
theorem ne_classPlace_of_watched {f : Place}
    (h : (File.Path.mk .slash f).lowerSuffix ∈ watchedSuffixes) (home g : Place) :
    f ≠ project.classPlace home g := by
  rintro rfl
  have hclass := Conversion.lowerSuffix_classFile home project.directory (project.className g)
  rw [List.mem_cons, List.mem_singleton] at hclass
  rcases hclass with heq | heq
  · rw [classPlace, heq] at h
    exact absurd h (by decide)
  · rw [classPlace, heq] at h
    exact absurd h (by decide)

end Project

/-! ## What every step preserves -/

/-- A path is watched and leads to a file that has been written. -/
structure Scene.Announces (s : Scene τ) (p : Path) : Prop where
  normal : p.IsNormal
  watched : p.lowerSuffix ∈ watchedSuffixes
  leads : ∃ f ∈ s.written, s.Leads p f

/-- An announcement lasts as long as the directories and the written files do. -/
theorem Scene.Announces.mono {s s' : Scene τ} {p : Path} (h : s.Announces p)
    (hw : s.tree.Within s'.tree) (hwritten : ∀ f ∈ s.written, f ∈ s'.written) : s'.Announces p where
  normal := h.normal
  watched := h.watched
  leads := by
    obtain ⟨f, hf, hleads⟩ := h.leads
    exact ⟨f, hwritten f hf, Tree.find_mono hw hleads⟩

/-- What leads to a file still does when more is on its way. -/
theorem Scene.Awaits.mono {s s' : Scene τ} {f : Place} (h : s.Awaits f)
    (hw : s.tree.Within s'.tree) (hundelivered : ∀ e ∈ s.undelivered, e ∈ s'.undelivered)
    (hpending : ∀ p ∈ s.watcher.pending.paths, p ∈ s'.watcher.pending.paths)
    (hdue : ∀ p ∈ s.due, p ∈ s'.due) : s'.Awaits f := by
  rcases h with ⟨e, he, hchange, hleads⟩ | ⟨p, hp, hleads⟩ | ⟨p, hp, hleads⟩
  · exact .inl ⟨e, hundelivered e he, hchange, Tree.find_mono hw hleads⟩
  · exact .inr (.inl ⟨p, hpending p hp, Tree.find_mono hw hleads⟩)
  · exact .inr (.inr ⟨p, hdue p hp, Tree.find_mono hw hleads⟩)

namespace Project

variable {project : Project} {s s' : Scene τ} {f : Place}

/-- A written file is one of the project, is there, and declares its own class. -/
structure Declares (project : Project) (s : Scene τ) (f : Place) : Prop where
  owned : f ∈ project.files
  watched : (File.Path.mk .slash f).lowerSuffix ∈ watchedSuffixes
  isFileAt : s.tree.isFileAt f = true
  declares : ∃ table, (Sql.read (s.tree.textAt f)).result = .ok table ∧
    table.className = project.className f

/-- A file with the same bytes declares the same. -/
theorem Declares.congr (h : project.Declares s f) (hf : s'.tree.bytes? f = s.tree.bytes? f) :
    project.Declares s' f where
  owned := h.owned
  watched := h.watched
  isFileAt := by
    rw [Tree.isFileAt, hf]
    exact h.isFileAt
  declares := by
    rw [Tree.textAt, hf]
    exact h.declares

/-- A class file stays up to date while its bytes and those of the declaring file stay. -/
theorem IsCurrent.congr (h : project.IsCurrent s f) (hd : project.Declares s f)
    (hw : s.tree.Within s'.tree) (hf : s'.tree.bytes? f = s.tree.bytes? f)
    (hclass : s'.tree.bytes? (project.classPlace s.tree.home f) =
      s.tree.bytes? (project.classPlace s.tree.home f)) : project.IsCurrent s' f := by
  obtain ⟨table, file, hread, hfind, hbytes⟩ := h
  obtain ⟨table', hread', hname⟩ := hd.declares
  obtain rfl : table = table' := Except.ok.inj (hread.symm.trans hread')
  have hfile : file = project.classPlace s.tree.home f := by
    rw [classPlace, ← hname]
    exact Tree.eq_target_of_find hfind
  refine ⟨table, file, ?_, Tree.find_mono hw hfind, ?_⟩
  · rw [Tree.textAt, hf]
    exact hread
  · rw [hfile, hclass, ← hfile]
    exact hbytes

/-- What holds in every scene: all that is on its way leads to files that have been written, each of
which declares its class and is awaited or current. -/
structure Sound (project : Project) (home : Place) (s : Scene τ) : Prop where
  home_eq : s.tree.home = home
  request_eq : s.watcher.request = project.request
  undelivered : ∀ e ∈ s.undelivered, e.isChange = true ∧ s.Announces e.path
  pending : ∀ p ∈ s.watcher.pending.paths, s.Announces p
  due : ∀ p ∈ s.due, s.Announces p
  declares : ∀ f ∈ s.written, project.Declares s f
  accounted : ∀ f ∈ s.written, s.Awaits f ∨ project.IsCurrent s f

variable {home : Place}

/-- A scene is sound at the start. -/
theorem sound_start (t : Tree) (quietPeriod : τ) :
    project.Sound t.home (project.start t quietPeriod) where
  home_eq := rfl
  request_eq := rfl
  undelivered _ he := nomatch he
  pending _ hp := nomatch hp
  due _ hp := nomatch hp
  declares _ hf := nomatch hf
  accounted _ hf := nomatch hf

/-- Other files may change as long as each class file stays as it is or becomes up to date. -/
theorem Sound.changeTree (h : project.Sound home s) {t : Tree} (hw : s.tree.Within t)
    (hfiles : ∀ f ∈ s.written, t.bytes? f = s.tree.bytes? f)
    (hclasses : ∀ f ∈ s.written,
      t.bytes? (project.classPlace home f) = s.tree.bytes? (project.classPlace home f) ∨
        project.IsCurrent { s with tree := t } f) :
    project.Sound home { s with tree := t } where
  home_eq := hw.home_eq.trans h.home_eq
  request_eq := h.request_eq
  undelivered e he := ⟨(h.undelivered e he).1, (h.undelivered e he).2.mono hw fun _ hf => hf⟩
  pending p hp := (h.pending p hp).mono hw fun _ hf => hf
  due p hp := (h.due p hp).mono hw fun _ hf => hf
  declares f hf := (h.declares f hf).congr (hfiles f hf)
  accounted f hf := by
    rcases h.accounted f hf with hawaits | hcurrent
    · exact .inl (hawaits.mono hw (fun _ he => he) (fun _ hp => hp) fun _ hp => hp)
    · rcases hclasses f hf with hsame | hnew
      · refine .inr (hcurrent.congr (h.declares f hf) hw (hfiles f hf) ?_)
        rwa [h.home_eq]
      · exact .inr hnew

/-- A write of a watched file puts an event on its way and changes no other file. -/
theorem Sound.write (h : project.Sound home s) {source : String} {place : Place}
    {bytes : List UInt8} {table : Schema.Table}
    (hwatched : (Path.ofString source).lowerSuffix ∈ watchedSuffixes)
    (hleads : s.Leads (Path.ofString source) place) (howned : place ∈ project.files)
    (hdeclares : (Sql.read ((s.tree.put place bytes).textAt place)).result = .ok table)
    (hnamed : table.className = project.className place) :
    project.Sound home (s.write source place bytes) := by
  have hw : s.tree.Within (s.write source place bytes).tree := Tree.within_put s.tree place bytes
  have hwritten : ∀ f ∈ s.written, f ∈ (s.write source place bytes).written := fun f hf =>
    List.mem_cons_of_mem place hf
  have hplace := watched_of_find hwatched hleads
  have hannounces : (s.write source place bytes).Announces (Path.ofString source) :=
    ⟨File.Path.isNormal_ofString source, hwatched, place, List.mem_cons_self,
      Tree.find_mono hw hleads⟩
  have hchange : Event.isChange { source := source } = true := by
    simpa [Event.isChange, Event.path] using hwatched
  have hsame : ∀ other, other ≠ place →
      (s.write source place bytes).tree.bytes? other = s.tree.bytes? other := fun other hne =>
    (Tree.bytes?_put s.tree place other bytes).trans (if_neg hne)
  exact {
    home_eq := h.home_eq
    request_eq := h.request_eq
    undelivered := by
      intro e he
      rcases List.mem_append.mp he with he | he
      · exact ⟨(h.undelivered e he).1, (h.undelivered e he).2.mono hw hwritten⟩
      · rw [List.mem_singleton.mp he]
        exact ⟨hchange, hannounces⟩
    pending := fun p hp => (h.pending p hp).mono hw hwritten
    due := fun p hp => (h.due p hp).mono hw hwritten
    declares := by
      intro f hf
      by_cases heq : f = place
      · subst heq
        refine ⟨howned, hplace, ?_, table, hdeclares, hnamed⟩
        simp [Scene.write, Tree.isFileAt_put]
      · exact (h.declares f ((List.mem_cons.mp hf).resolve_left heq)).congr (hsame f heq)
    accounted := by
      intro f hf
      by_cases heq : f = place
      · refine .inl (.inl ⟨{ source := source }, by simp [Scene.write], hchange, ?_⟩)
        rw [heq]
        exact Tree.find_mono hw hleads
      · have hf := (List.mem_cons.mp hf).resolve_left heq
        rcases h.accounted f hf with hawaits | hcurrent
        · exact .inl (hawaits.mono hw (fun e he => List.mem_append_left _ he) (fun _ hp => hp)
            fun _ hp => hp)
        · exact .inr (hcurrent.congr (h.declares f hf) hw (hsame f heq)
            (hsame _ (ne_classPlace_of_watched project hplace _ f).symm)) }

/-- Steps that leave the files alone need to keep account of what is on its way only. -/
theorem Sound.changeWaiting (h : project.Sound home s) (htree : s'.tree = s.tree)
    (hwritten : s'.written = s.written) (hrequest : s'.watcher.request = s.watcher.request)
    (hundelivered : ∀ e ∈ s'.undelivered, e ∈ s.undelivered)
    (hpending : ∀ p ∈ s'.watcher.pending.paths, s.Announces p)
    (hdue : ∀ p ∈ s'.due, s.Announces p)
    (haccounted : ∀ f ∈ s.written, s.Awaits f → s'.Awaits f ∨ project.IsCurrent s f) :
    project.Sound home s' := by
  have hw : s.tree.Within s'.tree := htree ▸ Tree.Within.refl s.tree
  have hmem : ∀ f ∈ s.written, f ∈ s'.written := fun f hf => hwritten ▸ hf
  have hbytes : ∀ place, s'.tree.bytes? place = s.tree.bytes? place := fun place => by rw [htree]
  exact {
    home_eq := hw.home_eq.trans h.home_eq
    request_eq := hrequest.trans h.request_eq
    undelivered := fun e he =>
      ⟨(h.undelivered e (hundelivered e he)).1,
        (h.undelivered e (hundelivered e he)).2.mono hw hmem⟩
    pending := fun p hp => (hpending p hp).mono hw hmem
    due := fun p hp => (hdue p hp).mono hw hmem
    declares := fun f hf => (h.declares f (hwritten ▸ hf)).congr (hbytes f)
    accounted := by
      intro f hf
      have hf : f ∈ s.written := hwritten ▸ hf
      have hkeep : project.IsCurrent s f → project.IsCurrent s' f := fun hcurrent =>
        hcurrent.congr (h.declares f hf) hw (hbytes f) (hbytes _)
      rcases h.accounted f hf with hawaits | hcurrent
      · exact (haccounted f hf hawaits).imp_right hkeep
      · exact .inr (hkeep hcurrent) }

/-- An event that is delivered makes its path pending. -/
theorem Sound.deliver (h : project.Sound home s) {e : Event} (now : τ)
    (he : e ∈ s.undelivered) : project.Sound home (s.deliver now e) := by
  obtain ⟨hchange, hannounces⟩ := h.undelivered e he
  have hpaths : ∀ p, p ∈ (s.deliver now e).watcher.pending.paths ↔
      p = e.path ∨ p ∈ s.watcher.pending.paths := by
    intro p
    change p ∈ (if e.isChange = true then _ else _ : Pending τ).paths ↔ _
    rw [if_pos hchange]
    exact Pending.mem_paths_mark_iff
  refine h.changeWaiting rfl rfl rfl (fun _ => List.mem_of_mem_erase) ?_ h.due ?_
  · intro p hp
    rcases (hpaths p).mp hp with rfl | hp
    · exact hannounces
    · exact h.pending p hp
  · intro f _ hawaits
    refine .inl ?_
    rcases hawaits with ⟨other, hother, hother', hleads⟩ | ⟨p, hp, hleads⟩ | hdue
    · by_cases heq : other = e
      · exact .inr (.inl ⟨e.path, (hpaths _).mpr (.inl rfl), heq ▸ hleads⟩)
      · exact .inl ⟨other, (List.mem_erase_of_ne heq).mpr hother, hother', hleads⟩
    · exact .inr (.inl ⟨p, (hpaths p).mpr (.inr hp), hleads⟩)
    · exact .inr (.inr hdue)

/-- A due path that leads to a current file need not be due. -/
theorem Sound.finish (h : project.Sound home s) {p : Path} {rest : List Path}
    (hdue : s.due = p :: rest) (hleads : s.Leads p f) (hcurrent : project.IsCurrent s f) :
    project.Sound home { s with due := rest } := by
  refine h.changeWaiting rfl rfl rfl (fun _ he => he) h.pending
    (fun q hq => h.due q (hdue ▸ List.mem_cons_of_mem p hq)) ?_
  intro g _ hawaits
  rcases hawaits with hevent | hpending | ⟨q, hq, hq'⟩
  · exact .inl (.inl hevent)
  · exact .inl (.inr (.inl hpending))
  · rw [hdue] at hq
    rcases List.mem_cons.mp hq with rfl | hq
    · obtain rfl : f = g := Option.some.inj (Except.ok.inj (hleads.symm.trans hq'))
      exact .inr hcurrent
    · exact .inl (.inr (.inr ⟨q, hq, hq'⟩))

/-- The conversion of a due path puts the class that its file declares into the class file, and
changes no other file. -/
theorem Sound.converted (h : project.Sound home s) {p : Path} (hp : s.Announces p)
    (hf : f ∈ s.written) (hleads : s.Leads p f)
    (hreturns : (conversion project.request s.tree p).failure = none) :
    ∃ table, (Sql.read (s.tree.textAt f)).result = .ok table ∧
      s.tree.Within (conversion project.request s.tree p).tree ∧
      (conversion project.request s.tree p).tree.find
        (classFile project.directory table.className) = .ok (some (project.classPlace home f)) ∧
      ∀ place, (conversion project.request s.tree p).tree.bytes? place =
        if place = project.classPlace home f then
          some (Text.encodeUtf8 (Java.classText project.options table))
        else s.tree.bytes? place := by
  obtain ⟨table, hread, hname⟩ := (h.declares f hf).declares
  obtain ⟨r, hrun, hfailure⟩ := Conversion.run_of_file (q := project.request) rfl rfl hp.normal
    (ne_dash_of_watched hp.normal hp.watched) hleads (h.declares f hf).isFileAt hread
  obtain ⟨made, file, hmade, hfind, htree⟩ := Conversion.tree_deliver
    (q := project.request) rfl (hfailure.symm.trans hreturns)
  obtain ⟨hfiles, hwithin⟩ : made.files = s.tree.files ∧ s.tree.Within made := by
    have hspec := Tree.makeDirectory_spec s.tree project.directory
    rwa [hmade] at hspec
  obtain rfl : file = project.classPlace home f := by
    rw [classPlace, ← hname, ← h.home_eq, ← hwithin.home_eq]
    exact Tree.eq_target_of_find hfind
  rw [conversion, hrun, htree]
  refine ⟨table, hread, hwithin.trans (Tree.within_put made _ _),
    Tree.find_mono (Tree.within_put made _ _) hfind, fun place => ?_⟩
  rw [Tree.bytes?_put, Tree.bytes?, hfiles]
  rfl

/-- The first due path is converted: its file is current from then on, and no other class file
changes. -/
theorem Sound.convert (h : project.Sound home s) (hseparate : project.Separates home) {p : Path}
    {rest : List Path} (hdue : s.due = p :: rest)
    (hreturns : (conversion s.watcher.request s.tree p).failure = none) :
    project.Sound home (s.convert p rest) := by
  have hp := h.due p (hdue ▸ List.mem_cons_self)
  obtain ⟨f, hf, hleads⟩ := hp.leads
  rw [Scene.convert]
  rw [h.request_eq] at hreturns ⊢
  obtain ⟨table, hread, hw, hfind, hbytes⟩ := h.converted hp hf hleads hreturns
  set t := (conversion project.request s.tree p).tree with ht
  have hfiles : ∀ g ∈ s.written, t.bytes? g = s.tree.bytes? g := fun g hg =>
    (hbytes g).trans (if_neg (ne_classPlace_of_watched project (h.declares g hg).watched home f))
  have hcurrent : project.IsCurrent { s with tree := t } f := by
    refine ⟨table, project.classPlace home f, ?_, hfind, (hbytes _).trans (if_pos rfl)⟩
    rw [Tree.textAt, hfiles f hf]
    exact hread
  have hclasses : ∀ g ∈ s.written,
      t.bytes? (project.classPlace home g) = s.tree.bytes? (project.classPlace home g) ∨
        project.IsCurrent { s with tree := t } g := by
    intro g hg
    by_cases heq : g = f
    · exact .inr (heq ▸ hcurrent)
    · exact .inl ((hbytes _).trans (if_neg fun hplace =>
        heq (hseparate (h.declares g hg).owned (h.declares f hf).owned hplace)))
  exact (h.changeTree hw hfiles hclasses).finish hdue (Tree.find_mono hw hleads) hcurrent

section Time

variable [Sub τ] [LE τ] [DecidableLE τ]

/-- A pending path that a flush takes is due, and the others stay pending. -/
theorem Sound.select (h : project.Sound home s) (now : τ) (hidle : s.due = []) :
    project.Sound home (s.select now) := by
  refine h.changeWaiting rfl rfl rfl (fun _ he => he) ?_ ?_ ?_
  · exact fun p hp => h.pending p ((Pending.waiting_sublist.map Prod.fst).mem hp)
  · exact fun p hp => h.pending p (Pending.due_sublist.mem hp)
  · intro f _ hawaits
    refine .inl ?_
    rcases hawaits with hevent | ⟨p, hp, hleads⟩ | ⟨p, hp, -⟩
    · exact .inl hevent
    · obtain ⟨time, hmem⟩ := Pending.mem_paths_iff.mp hp
      by_cases hquiet : s.watcher.quietPeriod ≤ now - time
      · exact .inr (.inr ⟨p, Pending.mem_due_iff.mpr ⟨time, hmem, hquiet⟩, hleads⟩)
      · exact .inr (.inl ⟨p, Pending.mem_paths_iff.mpr
          ⟨time, Pending.mem_waiting_iff.mpr ⟨hmem, hquiet⟩⟩, hleads⟩)
    · rw [hidle] at hp
      cases hp

/-- Every step keeps account of the files that have been written. -/
theorem Sound.step (h : project.Sound home s) (hseparate : project.Separates home)
    (hstep : project.Step s s') : project.Sound home s' := by
  cases hstep with
  | write source place bytes table watched leads _ owned declares named =>
    exact h.write watched leads owned declares named
  | writeOther place bytes unwatched _ no_class =>
    have hbytes : ∀ other, other ≠ place →
        (s.tree.put place bytes).bytes? other = s.tree.bytes? other := fun other hne =>
      (Tree.bytes?_put s.tree place other bytes).trans (if_neg hne)
    refine h.changeTree (Tree.within_put s.tree place bytes) (fun f hf => hbytes f ?_)
      fun f hf => .inl (hbytes _ ?_)
    · rintro rfl
      exact unwatched (h.declares f hf).watched
    · rw [← h.home_eq]
      exact (no_class f (h.declares f hf).owned).symm
  | makeDirectory place =>
    have hbytes := s.tree.bytes?_addDirectory place
    exact h.changeTree (Tree.within_addDirectory s.tree place) (fun f _ => hbytes f)
      fun f _ => .inl (hbytes _)
  | deliver now e undelivered => exact h.deliver now undelivered
  | select now idle => exact h.select now idle
  | convert p rest due_eq returns => exact h.convert hseparate due_eq returns

/-- Every scene that is reached from the start is sound. -/
theorem sound_of_reaches {t : Tree} {quietPeriod : τ} (hseparate : project.Separates t.home)
    (h : project.Reaches (project.start t quietPeriod) s) : project.Sound t.home s := by
  induction h with
  | refl => exact sound_start t quietPeriod
  | tail _ hstep ih => exact ih.step hseparate hstep

/-! ## Flushes and names -/

/-- Due paths are converted step by step. -/
theorem reaches_of_convertPaths {paths : List Path} (hdue : s.due = paths)
    (hreturns : (convertPaths s.watcher.request s.tree paths).failure = none) :
    project.Reaches s
      { s with tree := (convertPaths s.watcher.request s.tree paths).tree, due := [] } := by
  induction paths generalizing s with
  | nil =>
    obtain ⟨tree, watcher, undelivered, due, written⟩ := s
    obtain rfl : due = [] := hdue
    exact .refl
  | cons p rest ih =>
    have hfirst : (conversion s.watcher.request s.tree p).failure = none := by
      by_contra hne
      obtain ⟨why, hwhy⟩ := Option.ne_none_iff_exists'.mp hne
      rw [convertPaths_cons_of_failure hwhy] at hreturns
      exact hne hreturns
    rw [convertPaths_cons_of_returns hfirst] at hreturns ⊢
    exact .head (.convert p rest hdue hfirst) (ih (s := s.convert p rest) rfl hreturns)

/-- A flush that is not interrupted is one selection and the conversions of what it takes. -/
theorem reaches_of_flush (now : τ) (hidle : s.due = [])
    (hreturns : (s.watcher.flush s.tree now).run.failure = none) :
    project.Reaches s
      { s with
        tree := (s.watcher.flush s.tree now).run.tree
        watcher := (s.watcher.flush s.tree now).watcher
        due := [] } :=
  .head (.select now hidle) (reaches_of_convertPaths (s := s.select now) rfl hreturns)

/-- Class names without slashes that are different for different files keep the class files
apart. -/
theorem separates_of_names (hdistinct : Set.InjOn project.className project.files)
    (hslash : ∀ f ∈ project.files, '/' ∉ (project.className f).toList) (home : Place) :
    project.Separates home := by
  intro f hf g hg heq
  have hlast : ∀ f ∈ project.files,
      (project.classPlace home f).getLast? = some (project.className f ++ ".java") := by
    intro f hf
    refine File.Path.getLast_target home ?_ ?_
    · rw [Conversion.classFile_of_not_mem _ (hslash f hf)]
      simp
    · intro hdots
      simpa using congrArg (fun name => name.toList.length) hdots
  have hnames : project.className f ++ ".java" = project.className g ++ ".java" := by
    have hsame := hlast f hf
    rw [heq, hlast g hg] at hsame
    exact (Option.some.inj hsame).symm
  refine hdistinct hf hg (String.toList_injective ?_)
  simpa using congrArg String.toList hnames

/-! ## No write is lost -/

/-- Whatever happens in whatever order, the class of a file that has been written is up to date, or
an event, a pending path or a due path still leads to the file. -/
theorem awaits_or_isCurrent (project : Project) (t : Tree) (quietPeriod : τ)
    (hseparate : project.Separates t.home) {s : Scene τ}
    (h : project.Reaches (project.start t quietPeriod) s) {f : Place} (hf : f ∈ s.written) :
    s.Awaits f ∨ project.IsCurrent s f :=
  (sound_of_reaches hseparate h).accounted f hf

end Time

/-- The conversion of a watched file whose class can be written. -/
theorem conversion_of_write (project : Project) {t made t' : Tree} {p : Path} {f : Place}
    {table : Schema.Table} {shown : String} (hnormal : p.IsNormal)
    (hwatched : p.lowerSuffix ∈ watchedSuffixes) (hfind : t.find p = .ok (some f))
    (hfile : t.isFileAt f = true) (hread : (Sql.read (t.textAt f)).result = .ok table)
    (hmade : t.makeDirectory project.directory = (made, none))
    (hwrite : made.write (classFile project.directory table.className)
      (Java.classText project.options table) = .ok t')
    (hnotice : (Conversion.Notice.written
      (classFile project.directory table.className)).text = .ok shown) :
    (conversion project.request t p).tree = t' ∧
      (conversion project.request t p).failure = none := by
  obtain ⟨r, htree, hfailure⟩ := Conversion.run_of_file (q := project.request) rfl rfl hnormal
    (ne_dash_of_watched hnormal hwatched) hfind hfile hread
  have hdelivered := Conversion.deliver_of_write (q := project.request) (r := r) rfl hmade hwrite
    hnotice
  exact ⟨htree.trans (congrArg _ hdelivered), hfailure.trans (congrArg _ hdelivered)⟩

/-- Two files that declare tables of different names. -/
def twoTables : Project where
  files := {["a.sql"], ["b.sql"]}
  className f := if f = ["a.sql"] then "Alpha" else "Beta"

/-- The bytes of a declaration of a table with one column. -/
def declarationBytes (table column : String) : List UInt8 :=
  Text.encodeUtf8 ("CREATE TABLE " ++ table ++ " (" ++ column ++ " INT)")

/-- The table of such a declaration. -/
def declaredTable (table className column : String) : Schema.Table :=
  ⟨table, className, [{ name := column, fieldName := column, type := .integer, sqlType := "INT" }]⟩

/-- Both files are written, and each event is delivered before the next write. -/
def written : Scene Int :=
  ((((twoTables.start {} (1 : Int)).write "a.sql" ["a.sql"]
    (declarationBytes "alpha" "id")).deliver 0 { source := "a.sql" }).write "b.sql" ["b.sql"]
    (declarationBytes "beta" "id")).deliver 1 { source := "b.sql" }

/-- The first file is written again under another spelling of its path. -/
def rewritten : Scene Int :=
  (written.write "./a.sql" ["a.sql"] (declarationBytes "alpha" "name")).deliver 2
    { source := "./a.sql" }

/-- A flush converts both files. -/
def flushed : Scene Int :=
  { rewritten with
    tree := (rewritten.watcher.flush rewritten.tree 5).run.tree
    watcher := (rewritten.watcher.flush rewritten.tree 5).watcher
    due := [] }

/-- The files when the class of the first has been written. -/
def alphaTree : Tree :=
  (rewritten.tree.addDirectory ["out"]).put ["out", "Alpha.java"]
    (Text.encodeUtf8 (Java.classText {} (declaredTable "alpha" "Alpha" "name")))

/-- A declaration of a table with one column is read as that table. -/
theorem read_alpha_id : Sql.read "CREATE TABLE alpha (id INT)" =
    ⟨.ok (declaredTable "alpha" "Alpha" "id"), []⟩ :=
  Sql.read_of_isStatement (by decide +kernel)

/-- With another column it is another table. -/
theorem read_alpha_name : Sql.read "CREATE TABLE alpha (name INT)" =
    ⟨.ok (declaredTable "alpha" "Alpha" "name"), []⟩ :=
  Sql.read_of_isStatement (by decide +kernel)

/-- Under another name it is another table. -/
theorem read_beta_id : Sql.read "CREATE TABLE beta (id INT)" =
    ⟨.ok (declaredTable "beta" "Beta" "id"), []⟩ :=
  Sql.read_of_isStatement (by decide +kernel)

theorem awaits_or_isCurrent_flushed :
    twoTables.Separates [] ∧ twoTables.Reaches (twoTables.start {} (1 : Int)) flushed ∧
      (¬ flushed.Awaits ["a.sql"] ∧ twoTables.IsCurrent flushed ["a.sql"]) ∧
      ¬ flushed.Awaits ["b.sql"] ∧ twoTables.IsCurrent flushed ["b.sql"] := by
  have hseparate : twoTables.Separates [] := by
    refine separates_of_names ?_ ?_ []
    · rintro f (rfl | rfl) g (rfl | rfl) heq
      · rfl
      · exact absurd heq (by decide)
      · exact absurd heq (by decide)
      · rfl
    · rintro f (rfl | rfl)
      · change '/' ∉ "Alpha".toList
        decide
      · change '/' ∉ "Beta".toList
        decide
  have hfirst : (Sql.read (((twoTables.start {} (1 : Int)).tree.put ["a.sql"]
      (declarationBytes "alpha" "id")).textAt ["a.sql"])).result =
      .ok (declaredTable "alpha" "Alpha" "id") := by
    have htext : ((twoTables.start {} (1 : Int)).tree.put ["a.sql"]
        (declarationBytes "alpha" "id")).textAt ["a.sql"] = "CREATE TABLE alpha (id INT)" := by
      decide +kernel
    rw [htext, read_alpha_id]
  have hother : (Sql.read (written.tree.textAt ["b.sql"])).result =
      .ok (declaredTable "beta" "Beta" "id") := by
    have htext : written.tree.textAt ["b.sql"] = "CREATE TABLE beta (id INT)" := by
      decide +kernel
    rw [htext, read_beta_id]
  have hsecond : (Sql.read (rewritten.tree.textAt ["a.sql"])).result =
      .ok (declaredTable "alpha" "Alpha" "name") := by
    have htext : rewritten.tree.textAt ["a.sql"] = "CREATE TABLE alpha (name INT)" := by
      decide +kernel
    rw [htext, read_alpha_name]
  have hafter : (Sql.read (alphaTree.textAt ["b.sql"])).result =
      .ok (declaredTable "beta" "Beta" "id") := by
    have htree : rewritten.tree = written.tree.put ["a.sql"] (declarationBytes "alpha" "name") :=
      rfl
    rw [alphaTree, Tree.textAt_put_of_ne (by decide), Tree.textAt, Tree.bytes?_addDirectory,
      ← Tree.textAt, htree, Tree.textAt_put_of_ne (by decide)]
    exact hother
  have hwrites : twoTables.Reaches (twoTables.start {} (1 : Int)) rewritten :=
    .tail (.tail (.tail (.tail (.tail (.single
      (.write "a.sql" ["a.sql"] _ _ (by decide) (by rfl) (by rfl) (.inl rfl) hfirst (by rfl)))
      (.deliver 0 _ (by decide)))
      (.write "b.sql" ["b.sql"] _ _ (by decide) (by rfl) (by rfl) (.inr rfl) hother (by rfl)))
      (.deliver 1 _ (by decide)))
      (.write "./a.sql" ["a.sql"] _ _ (by decide) (by rfl) (by rfl) (.inl rfl) hsecond (by rfl)))
      (.deliver 2 _ (by decide))
  obtain ⟨halpha, hreturns⟩ :
      (conversion twoTables.request rewritten.tree ⟨.here, ["a.sql"]⟩).tree = alphaTree ∧
        (conversion twoTables.request rewritten.tree ⟨.here, ["a.sql"]⟩).failure = none :=
    conversion_of_write twoTables (by decide) (by decide) (by rfl) (by rfl) hsecond (by rfl)
      (Tree.write_eq_ok_iff.mpr ⟨["out", "Alpha.java"], by rfl, by rfl, by rfl, by rfl⟩) (by rfl)
  obtain ⟨-, hreturns'⟩ := conversion_of_write twoTables (t := alphaTree)
    (p := ⟨.here, ["b.sql"]⟩) (by decide) (by decide) (by rfl) (by rfl) hafter (by rfl)
    (Tree.write_eq_ok_iff.mpr ⟨["out", "Beta.java"], by rfl, by rfl, by rfl, rfl⟩) (by rfl)
  have hflush : (rewritten.watcher.flush rewritten.tree 5).run.failure = none := by
    have hdue : (rewritten.watcher.flush rewritten.tree 5).due =
        [⟨.here, ["a.sql"]⟩, ⟨.here, ["b.sql"]⟩] := rfl
    have hrequest : rewritten.watcher.request = twoTables.request := rfl
    rw [Watcher.run_flush, hdue, hrequest, convertPaths_cons_of_returns hreturns, halpha,
      convertPaths_cons_of_returns hreturns']
    rfl
  have hreaches : twoTables.Reaches (twoTables.start {} (1 : Int)) flushed :=
    hwrites.trans (reaches_of_flush 5 rfl hflush)
  have hnothing : ∀ f, ¬ flushed.Awaits f := by
    rintro f (⟨e, he, -⟩ | ⟨p, hp, -⟩ | ⟨p, hp, -⟩)
    · cases he
    · cases hp
    · cases hp
  exact ⟨hseparate, hreaches,
    ⟨hnothing _, (awaits_or_isCurrent twoTables {} 1 hseparate hreaches
      List.mem_cons_self).resolve_left (hnothing _)⟩,
    hnothing _, (awaits_or_isCurrent twoTables {} 1 hseparate hreaches
      (List.mem_cons_of_mem _ List.mem_cons_self)).resolve_left (hnothing _)⟩

/-- Two files that declare classes of different names, which are spellings of one file. -/
def dotNames : Project where
  files := {["a.sql"], ["b.sql"]}
  className f := if f = ["a.sql"] then "./" else ".//"

/-- Both files are written, and their events are delivered. -/
def bothWritten : Scene Int :=
  ((((dotNames.start {} (1 : Int)).write "a.sql" ["a.sql"]
    (declarationBytes "\x60./\x60" "id")).write "b.sql" ["b.sql"]
    (declarationBytes "\x60.//\x60" "name")).deliver 0 { source := "a.sql" }).deliver 0
    { source := "b.sql" }

/-- Both files are selected, and the first is converted. -/
def firstConverted : Scene Int :=
  (bothWritten.select 5).convert ⟨.here, ["a.sql"]⟩ [⟨.here, ["b.sql"]⟩]

/-- The second file is converted as well. -/
def bothConverted : Scene Int :=
  firstConverted.convert ⟨.here, ["b.sql"]⟩ []

/-- The files when both are written and the class of the first as well. -/
def firstTree : Tree :=
  (bothWritten.tree.addDirectory ["out"]).put ["out", ".java"]
    (Text.encodeUtf8 (Java.classText {} (declaredTable "./" "./" "id")))

/-- The files when the class of the second has been written as well. -/
def secondTree : Tree :=
  firstTree.put ["out", ".java"]
    (Text.encodeUtf8 (Java.classText {} (declaredTable ".//" ".//" "name")))

/-- The first of two tables whose class files have the same place. -/
theorem read_dot_id : Sql.read "CREATE TABLE `./` (id INT)" =
    ⟨.ok (declaredTable "./" "./" "id"), []⟩ :=
  Sql.read_of_isStatement (by decide +kernel)

/-- The second of two tables whose class files have the same place. -/
theorem read_dot_name : Sql.read "CREATE TABLE `.//` (name INT)" =
    ⟨.ok (declaredTable ".//" ".//" "name"), []⟩ :=
  Sql.read_of_isStatement (by decide +kernel)

/-- Different class names alone do not keep the class files apart: nothing leads to the first file
any more, and its class has been replaced by that of the second. -/
theorem not_isCurrent_bothConverted :
    Set.InjOn dotNames.className dotNames.files ∧
      dotNames.Reaches (dotNames.start {} (1 : Int)) bothConverted ∧
      ["a.sql"] ∈ bothConverted.written ∧ ¬ bothConverted.Awaits ["a.sql"] ∧
      ¬ dotNames.IsCurrent bothConverted ["a.sql"] := by
  have hdistinct : Set.InjOn dotNames.className dotNames.files := by
    intro f hf g hg heq
    rcases hf with rfl | rfl <;> rcases hg with rfl | rfl
    · rfl
    · exact absurd heq (by decide)
    · exact absurd heq (by decide)
    · rfl
  have hread : (Sql.read (bothWritten.tree.textAt ["a.sql"])).result =
      .ok (declaredTable "./" "./" "id") := by
    have htext : bothWritten.tree.textAt ["a.sql"] = "CREATE TABLE `./` (id INT)" := by
      decide +kernel
    rw [htext, read_dot_id]
  have hread' : (Sql.read (bothWritten.tree.textAt ["b.sql"])).result =
      .ok (declaredTable ".//" ".//" "name") := by
    have htext : bothWritten.tree.textAt ["b.sql"] = "CREATE TABLE `.//` (name INT)" := by
      decide +kernel
    rw [htext, read_dot_name]
  have hwrites : dotNames.Reaches (dotNames.start {} (1 : Int)) bothWritten :=
    .tail (.tail (.tail (.single
      (.write "a.sql" ["a.sql"] _ _ (by decide) (by rfl) (by rfl) (.inl rfl) hread (by rfl)))
      (.write "b.sql" ["b.sql"] _ _ (by decide) (by rfl) (by rfl) (.inr rfl) hread' (by rfl)))
      (.deliver 0 _ (by decide)))
      (.deliver 0 _ (by decide))
  have htext : ∀ place, place ≠ ["out", ".java"] →
      firstTree.textAt place = bothWritten.tree.textAt place := by
    intro place hne
    rw [firstTree, Tree.textAt_put_of_ne hne, Tree.textAt, Tree.bytes?_addDirectory]
    rfl
  have hafter : (Sql.read (firstTree.textAt ["b.sql"])).result =
      .ok (declaredTable ".//" ".//" "name") := by
    rw [htext _ (by decide)]
    exact hread'
  obtain ⟨hfirst, hreturns⟩ :
      (conversion dotNames.request bothWritten.tree ⟨.here, ["a.sql"]⟩).tree = firstTree ∧
        (conversion dotNames.request bothWritten.tree ⟨.here, ["a.sql"]⟩).failure = none :=
    conversion_of_write dotNames (by decide) (by decide) (by rfl) (by rfl) hread (by rfl)
      (Tree.write_eq_ok_iff.mpr ⟨["out", ".java"], by rfl, by rfl, by rfl, by rfl⟩) (by rfl)
  obtain ⟨hsecond, hreturns'⟩ :
      (conversion dotNames.request firstTree ⟨.here, ["b.sql"]⟩).tree = secondTree ∧
        (conversion dotNames.request firstTree ⟨.here, ["b.sql"]⟩).failure = none :=
    conversion_of_write dotNames (by decide) (by decide) (by rfl) (by rfl) hafter (by rfl)
      (Tree.write_eq_ok_iff.mpr ⟨["out", ".java"], by rfl, by rfl, by rfl, by rfl⟩) (by rfl)
  have hrequest : bothWritten.watcher.request = dotNames.request := rfl
  have htree : bothConverted.tree = secondTree := by
    rw [bothConverted, firstConverted, Scene.tree_convert, Scene.watcher_convert,
      Scene.tree_convert, Scene.tree_select, Scene.request_select, hrequest, hfirst, hsecond]
  have hreaches : dotNames.Reaches (dotNames.start {} (1 : Int)) bothConverted := by
    refine .tail (.tail (.tail hwrites (.select 5 rfl)) (.convert _ _ (by rfl) ?_))
      (.convert _ [] rfl ?_)
    · rwa [Scene.tree_select, Scene.request_select, hrequest]
    · rwa [Scene.tree_convert, Scene.watcher_convert, Scene.tree_select, Scene.request_select,
        hrequest, hfirst]
  refine ⟨hdistinct, hreaches, .tail _ (.head _), ?_, ?_⟩
  · rintro (⟨e, he, -⟩ | ⟨p, hp, -⟩ | ⟨p, hp, -⟩)
    · cases he
    · cases hp
    · cases hp
  · rintro ⟨table, file, htable, hfind, hbytes⟩
    rw [htree, secondTree, Tree.textAt_put_of_ne (by decide), htext _ (by decide)] at htable
    obtain rfl : table = declaredTable "./" "./" "id" := Except.ok.inj (htable.symm.trans hread)
    have hfile : file = ["out", ".java"] := by
      rw [htree] at hfind
      exact (Tree.eq_target_of_find hfind).trans (by rfl)
    rw [htree, secondTree, hfile, Tree.bytes?_put, if_pos rfl] at hbytes
    exact absurd (congrArg List.length (Option.some.inj hbytes)) (by decide +kernel)

end Project

end EntityMapper.Watch
