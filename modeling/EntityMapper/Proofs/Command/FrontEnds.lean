import EntityMapper.Proofs.Command.ExitCode
import EntityMapper.Proofs.File.Spared
import Mathlib.Data.List.Induction

/-!
# Converting with and without commands

The plain program and the command that converts read the options that both know alike, and they
run the same conversion of a source that exists or cannot be looked up. Of a source that does not
exist the command complains, while the plain program converts nothing and ends well.
-/

namespace EntityMapper

namespace File

/-- Every file stands in directories. -/
def Tree.IsSound (t : Tree) : Prop :=
  ∀ (place : Place) (names : List String), names ≠ [] → t.isFileAt (place ++ names) = true →
    t.isDirectoryAt place = true

/-- Nothing is below a place that is no directory. -/
theorem Tree.IsSound.below_eq_nil {t : Tree} (h : t.IsSound) {place : Place}
    (hplace : t.isDirectoryAt place = false) : t.below place = [] := by
  rw [Tree.below, List.filterMap_eq_nil_iff]
  rintro ⟨file, bytes⟩ hfile
  dsimp only
  rw [if_neg]
  rintro ⟨hbegins, hne⟩
  obtain ⟨names, rfl⟩ := List.isPrefixOf_iff_prefix.mp hbegins
  have hnames : names ≠ [] := by
    rintro rfl
    exact hne (List.append_nil place).symm
  have hlookup : t.isFileAt (place ++ names) = true := by
    rw [Tree.isFileAt, Tree.bytes?, Option.isSome_iff_ne_none, ne_eq, List.lookup_eq_none_iff]
    intro hnone
    simpa using hnone _ hfile
  rw [h place names hnames hlookup] at hplace
  cases hplace

/-- A scan of a path that leads to nothing finds nothing. -/
theorem scan_of_not_exists {t : Tree} (hsound : t.IsSound) {p : Path}
    (h : t.exists_ p = .ok false) (rule : ScanRule) : scan t rule p = .ok [] := by
  rw [Tree.exists_] at h
  cases hfind : t.find p with
  | error e => simp [hfind, bind, Except.bind] at h
  | ok found =>
    rw [hfind] at h
    cases found with
    | none =>
      rw [scan, hfind]
      rfl
    | some place =>
      have hnothing : (t.isFileAt place || t.isDirectoryAt place) = false := Except.ok.inj h
      obtain ⟨hfile, hdirectory⟩ := Bool.or_eq_false_iff.mp hnothing
      rw [scan_of_find hfind, hfile, hsound.below_eq_nil hdirectory]
      simp

end File

namespace Command

open Conversion (inputs)
open File (Path Place Tree)

/-! ## Options that both programs know -/

/-- An option of the plain program in full. -/
inductive SharedOption where
  | noJpa
  | noLombok
  | noJackson
  | noAccessors
  | console
  | directory (path : String)
  deriving DecidableEq, Repr

namespace SharedOption

/-- The arguments that give the option. -/
def arguments : SharedOption → List String
  | noJpa => ["--no-jpa"]
  | noLombok => ["--no-lombok"]
  | noJackson => ["--no-jackson"]
  | noAccessors => ["--no-accessors"]
  | console => ["--stdout"]
  | directory path => ["--out-dir", path]

/-- What the option sets. -/
def setting : SharedOption → Setting
  | noJpa => .jpa false
  | noLombok => .lombok false
  | noJackson => .jackson false
  | noAccessors => .accessors false
  | console => .console
  | directory path => .directory (some path)

/-- A directory that the option names is not written like an option and can be looked up. -/
def IsOrdinary : SharedOption → Prop
  | directory path => isOptionLike path = false ∧ (Path.ofString path).hasNull = false
  | _ => True

end SharedOption

/-- The arguments of options. -/
def argumentsOf (options : List SharedOption) : List String :=
  options.flatMap SharedOption.arguments

/-- The arguments of a call with options in front of the source and behind it. -/
def callFor (before : List SharedOption) (source : String) (after : List SharedOption) :
    List String :=
  argumentsOf before ++ source :: argumentsOf after

/-- What is read of such a call. -/
def readingOf (before : List SharedOption) (source : String) (after : List SharedOption) :
    Arguments Setting where
  settings := (before ++ after).map SharedOption.setting
  operands := [source]

/-! ## Reading options -/

variable {rules : List (OptionRule Setting)} {following rest : List String}

theorem ne_twoDashes {argument : String} (h : isOptionLike argument = false) : argument ≠ "--" := by
  rintro rfl
  revert h
  decide

/-- Arguments with more settings in front. -/
def Arguments.withSettings (settings : List Setting) (a : Arguments Setting) : Arguments Setting :=
  { a with settings := settings ++ a.settings }

/-- The command reads an option with its value. -/
theorem readOption_convertRules (o : SharedOption) (following : List String) :
    ∃ name values, o.arguments = name :: values ∧ name ≠ "--" ∧ isOptionLike name = true ∧
      readOption convertRules name (values ++ following) = .ok ([o.setting], following) := by
  cases o with
  | directory path => exact ⟨"--out-dir", [path], rfl, by decide, by decide, rfl⟩
  | _ => exact ⟨_, [], rfl, by decide, by decide, rfl⟩

/-- The command reads options one after the other, and then what is left. -/
theorem readWithin_options (options : List SharedOption) (rest : List String) (fuel : Nat)
    (h : (argumentsOf options ++ rest).length ≤ fuel) : ∃ left, rest.length ≤ left ∧
      readWithin convertRules true fuel (argumentsOf options ++ rest) =
        (readWithin convertRules true left rest).map
          (·.withSettings (options.map SharedOption.setting)) := by
  induction options generalizing fuel with
  | nil =>
    refine ⟨fuel, h, ?_⟩
    change readWithin convertRules true fuel rest = _
    cases readWithin convertRules true fuel rest <;> rfl
  | cons o options ih =>
    obtain ⟨name, values, harguments, hdashes, hlike, hread⟩ :=
      readOption_convertRules o (argumentsOf options ++ rest)
    have hall : argumentsOf (o :: options) ++ rest =
        name :: (values ++ (argumentsOf options ++ rest)) := by
      rw [argumentsOf, List.flatMap_cons, harguments, List.append_assoc]
      rfl
    rw [hall, List.length_cons, List.length_append] at h
    obtain ⟨fuel, rfl⟩ : ∃ n, fuel = n + 1 := ⟨fuel - 1, by omega⟩
    obtain ⟨left, hleft, hrest⟩ := ih fuel (by omega)
    refine ⟨left, hleft, ?_⟩
    rw [hall, readWithin, if_neg hdashes, if_pos hlike, hread]
    change (readWithin convertRules true fuel (argumentsOf options ++ rest)).bind _ = _
    rw [hrest]
    cases readWithin convertRules true left rest <;> rfl

/-- The command reads a call as the options and the source that it gives. -/
theorem readMixed_callFor (before : List SharedOption) {source : String}
    (hsource : isOptionLike source = false) (after : List SharedOption) :
    readMixed convertRules (callFor before source after) = .ok (readingOf before source after) := by
  obtain ⟨left, hleft, hbefore⟩ := readWithin_options before (source :: argumentsOf after)
    (callFor before source after).length (Nat.le_refl _)
  rw [List.length_cons] at hleft
  obtain ⟨left, rfl⟩ : ∃ n, left = n + 1 := ⟨left - 1, by omega⟩
  obtain ⟨last, -, hafter⟩ := readWithin_options after [] left (by
    rw [List.append_nil]
    omega)
  rw [List.append_nil] at hafter
  have hend : readWithin convertRules true last [] = .ok {} := by cases last <;> rfl
  have hall : readMixed convertRules (callFor before source after) = _ := hbefore
  rw [hall, readWithin, if_neg (ne_twoDashes hsource), if_neg (by simp [hsource]), if_pos rfl,
    hafter, hend, readingOf, List.map_append]
  simp [Except.map, bind, Except.bind, pure, Except.pure, Arguments.withSettings,
    Arguments.withOperand]

/-! ## Reading options that can be abbreviated -/

/-- The plain program takes an argument that is not written like an option as an operand. -/
theorem takeArgument_plainRules {argument : String} (h : isOptionLike argument = false) :
    takeArgument plainRules argument = .operand := by
  by_cases hhead : argument.toList.head? = some '-'
  · obtain rfl : argument = "-" := by
      obtain ⟨cs, hcs⟩ := List.head?_eq_some_iff.mp hhead
      rw [isOptionLike, hcs] at h
      cases cs with
      | nil => exact String.toList_inj.mp hcs
      | cons c cs => cases h
    rfl
  · rw [takeArgument, if_pos hhead]

/-- The plain program reads an option with its value. -/
theorem applyOption_plainRules {o : SharedOption} (ho : o.IsOrdinary) (following : List String) :
    ∃ name values meaning, o.arguments = name :: values ∧ name ≠ "--" ∧
      takeArgument plainRules name = .option name meaning none ∧
      applyOption plainRules name.length name meaning none (values ++ following) =
        .ok ([o.setting], following) := by
  cases o with
  | directory path =>
    refine ⟨"--out-dir", [path], .valued plainDirectory, rfl, by decide, rfl, ?_⟩
    have hvalue : isValue plainRules path = true := by
      rw [isValue, takeArgument_plainRules ho.1, bne_iff_ne.mpr (ne_twoDashes ho.1)]
      rfl
    have hdirectory : plainDirectory path = .directory (some path) := by
      rw [plainDirectory, if_neg (ne_twoDashes ho.1)]
    rw [List.singleton_append, applyOption, if_pos hvalue, hdirectory]
    rfl
  | _ => exact ⟨_, [], _, rfl, by decide, rfl, rfl⟩

/-- The plain program reads options one after the other, and then what is left. -/
theorem readAbbreviatedWithin_options (options : List SharedOption)
    (hoptions : ∀ o ∈ options, o.IsOrdinary) (rest : List String) (fuel : Nat) (behind : Bool)
    (h : (argumentsOf options ++ rest).length ≤ fuel) : ∃ left behind', rest.length ≤ left ∧
      readAbbreviatedWithin plainRules fuel behind (argumentsOf options ++ rest) =
        (readAbbreviatedWithin plainRules left behind' rest).map
          (·.withSettings (options.map SharedOption.setting)) := by
  induction options generalizing fuel behind with
  | nil =>
    refine ⟨fuel, behind, h, ?_⟩
    change readAbbreviatedWithin plainRules fuel behind rest = _
    cases readAbbreviatedWithin plainRules fuel behind rest <;> rfl
  | cons o options ih =>
    obtain ⟨ho, hothers⟩ := List.forall_mem_cons.mp hoptions
    obtain ⟨name, values, meaning, harguments, hdashes, htake, hread⟩ :=
      applyOption_plainRules ho (argumentsOf options ++ rest)
    have hall : argumentsOf (o :: options) ++ rest =
        name :: (values ++ (argumentsOf options ++ rest)) := by
      rw [argumentsOf, List.flatMap_cons, harguments, List.append_assoc]
      rfl
    rw [hall, List.length_cons, List.length_append] at h
    obtain ⟨fuel, rfl⟩ : ∃ n, fuel = n + 1 := ⟨fuel - 1, by omega⟩
    obtain ⟨left, behind', hleft, hrest⟩ := ih hothers fuel true (by omega)
    refine ⟨left, behind', hleft, ?_⟩
    rw [hall, readAbbreviatedWithin, if_neg hdashes, htake]
    dsimp only
    rw [hread]
    change (readAbbreviatedWithin plainRules fuel true (argumentsOf options ++ rest)).bind _ = _
    rw [hrest]
    cases readAbbreviatedWithin plainRules left behind' rest <;> rfl

/-- The plain program reads a call as the command does. -/
theorem readAbbreviated_callFor {before after : List SharedOption}
    (hoptions : ∀ o ∈ before ++ after, o.IsOrdinary) {source : String}
    (hsource : isOptionLike source = false) :
    readAbbreviated plainRules (callFor before source after) =
      .ok (readingOf before source after) := by
  obtain ⟨hbefore, hafter⟩ := List.forall_mem_append.mp hoptions
  obtain ⟨left, behind, hleft, hfirst⟩ := readAbbreviatedWithin_options before hbefore
    (source :: argumentsOf after) (callFor before source after).length false (Nat.le_refl _)
  rw [List.length_cons] at hleft
  obtain ⟨left, rfl⟩ : ∃ n, left = n + 1 := ⟨left - 1, by omega⟩
  obtain ⟨last, behind', -, hsecond⟩ := readAbbreviatedWithin_options after hafter []
    left false (by
      rw [List.append_nil]
      omega)
  rw [List.append_nil] at hsecond
  have hend : readAbbreviatedWithin plainRules last behind' [] = .ok {} := by cases last <;> rfl
  have hall : readAbbreviated plainRules (callFor before source after) = _ := hfirst
  rw [hall, readAbbreviatedWithin, if_neg (ne_twoDashes hsource), takeArgument_plainRules hsource]
  dsimp only
  rw [hsecond, hend, readingOf, List.map_append]
  simp [Except.map, bind, Except.bind, pure, Except.pure, Arguments.withSettings,
    Arguments.withOperand]

/-! ## Running -/

variable {before after : List SharedOption} {source : String} {s : Surroundings}

theorem no_help_in_readingOf : Setting.help ∉ (readingOf before source after).settings := by
  rw [readingOf, List.mem_map]
  rintro ⟨o, -, ho⟩
  cases o <;> cases ho

/-- The directory that options name can be looked up. -/
theorem checkPath_readingOf (source : String) (hoptions : ∀ o ∈ before ++ after, o.IsOrdinary) :
    (directoryOf? (readingOf before source after).settings).toList.forM checkPath = .ok () := by
  have hfound : ∀ options : List SharedOption, (∀ o ∈ options, o.IsOrdinary) →
      ∀ path ∈ directoryOf? (options.map SharedOption.setting), checkPath path = .ok () := by
    intro options
    induction options using List.reverseRecOn with
    | nil => exact fun _ path hpath => absurd hpath (by simp [directoryOf?])
    | append_singleton options o ih =>
      intro hordinary
      obtain ⟨hothers, ho⟩ := List.forall_mem_append.mp hordinary
      have ho := List.forall_mem_singleton.mp ho
      rw [List.map_append, directoryOf?, List.foldl_append]
      cases o with
      | directory path =>
        intro other hother
        obtain rfl := Option.mem_some_iff.mp hother
        rw [checkPath, ho.2]
        rfl
      | _ => exact ih hothers
  have hall := hfound (before ++ after) hoptions
  change ∀ path ∈ directoryOf? (readingOf before source after).settings, _ at hall
  cases hdirectory : directoryOf? (readingOf before source after).settings with
  | none => rfl
  | some path =>
    have hpath := hall path hdirectory
    simp [hpath, bind, Except.bind]
    rfl

/-- With the default settings the command converts as soon as it is named. -/
theorem run_commands_convert (hsettings : s.settings = {}) (arguments : List String) :
    run .commands s ("convert" :: arguments) =
      convertCommand s convertRules (.ok ()) arguments := by
  have hlevel : checkLogLevel s [] = .ok () := by
    rw [checkLogLevel, hsettings]
    decide +kernel
  have hcall : run .commands s ("convert" :: arguments) =
      s.call CommonSetting.help (.ok ⟨[], "convert" :: arguments⟩) fun _ =>
        s.unlessCrash (checkLogLevel s [])
          (.ok (convertCommand s convertRules (.ok ()) arguments)) := rfl
  rw [hcall, hlevel]
  rfl

/-- The plain program converts what its source stands for. -/
theorem run_plain_eq (hsettings : s.settings = {})
    (hoptions : ∀ o ∈ before ++ after, o.IsOrdinary) (hsource : isOptionLike source = false) :
    run .plain s (callFor before source after) =
      outcomeOf ((s.requestFor (readingOf before source after)).run s.tree s.standardInput
        source) := by
  rw [run, runPlain, readAbbreviated_callFor hoptions hsource, Surroundings.call]
  dsimp only
  rw [if_neg no_help_in_readingOf, Surroundings.requestFor, hsettings]
  rfl

/-- The standard input matters for a dash only. -/
theorem run_standardInput (q : Conversion.Request) (t : Tree) (hdash : source ≠ "-")
    (standardInput other : String) : q.run t standardInput source = q.run t other source := by
  rw [Conversion.Request.run, Conversion.Request.run, inputs, inputs, if_neg hdash, if_neg hdash]

/-- The command converts a source that exists or cannot be looked up. -/
theorem convertCommand_of_exists (hoptions : ∀ o ∈ before ++ after, o.IsOrdinary)
    (hsource : isOptionLike source = false) (hdash : source ≠ "-")
    (hexists : s.tree.exists_ (Path.ofString source) ≠ .ok false) :
    convertCommand s convertRules (.ok ()) (callFor before source after) =
      outcomeOf ((s.requestFor (readingOf before source after)).run s.tree s.inputText source) := by
  have hread := readMixed_callFor before hsource after
  have hchecked := checkPath_readingOf source hoptions
  cases hfound : s.tree.exists_ (Path.ofString source) with
  | ok found =>
    obtain rfl : found = true := by
      cases found with
      | true => rfl
      | false => exact absurd hfound hexists
    exact convertCommand_of_understood
      { read_eq := hread
        no_help := no_help_in_readingOf
        paths_checked := hchecked
        operand_eq := rfl
        checked := rfl
        source_exists := .inr hfound }
  | error why =>
    have hfind : s.tree.find (Path.ofString source) = .error why := by
      rw [Tree.exists_] at hfound
      cases hfind : s.tree.find (Path.ofString source) with
      | error e =>
        rw [hfind] at hfound
        exact congrArg _ (Except.error.inj hfound)
      | ok found => simp [hfind, bind, Except.bind, pure, Except.pure] at hfound
    have hinputs : inputs s.tree s.inputText source = .error why := by
      rw [inputs, if_neg hdash, File.scan, hfind]
      rfl
    have hoperand : (readingOf before source after).soleOperand = .ok source := rfl
    simp only [convertCommand, Surroundings.call, hread, if_neg no_help_in_readingOf, hchecked,
      hoperand, Surroundings.unlessCrash, bind, Except.bind, if_pos hdash, hfound,
      Conversion.Request.run, hinputs]
    rfl

/-- The command complains of a source that does not exist. -/
theorem convertCommand_of_not_exists (hoptions : ∀ o ∈ before ++ after, o.IsOrdinary)
    (hsource : isOptionLike source = false) (hdash : source ≠ "-")
    (hexists : s.tree.exists_ (Path.ofString source) = .ok false) :
    convertCommand s convertRules (.ok ()) (callFor before source after) =
      s.leave (.misuse (.noSuchPath source)) := by
  have hread := readMixed_callFor before hsource after
  have hchecked := checkPath_readingOf source hoptions
  have hoperand : (readingOf before source after).soleOperand = .ok source := rfl
  simp only [convertCommand, Surroundings.call, hread, if_neg no_help_in_readingOf, hchecked,
    hoperand, Surroundings.unlessCrash, bind, Except.bind, if_pos hdash, hexists]
  rfl

/-- The plain program converts nothing where its source does not exist. -/
theorem run_of_not_exists (hsound : s.tree.IsSound) (hdash : source ≠ "-")
    (hexists : s.tree.exists_ (Path.ofString source) = .ok false) (q : Conversion.Request) :
    q.run s.tree s.standardInput source =
      { tree := s.tree, report := { notices := [.found 0] } } := by
  have hinputs : inputs s.tree s.standardInput source = .ok [] := by
    rw [inputs, if_neg hdash, File.scan_of_not_exists hsound hexists]
    rfl
  rw [Conversion.run_eq hinputs]
  rfl

/-- The plain program ends as the command does, whatever options that both know are given, if the
source exists or cannot be looked up. If it does not exist the command complains, while the plain
program ends as if all had been converted; neither prints anything or changes a file. -/
theorem run_plain_or_not_exists (hsettings : s.settings = {}) (hsound : s.tree.IsSound)
    (hoptions : ∀ o ∈ before ++ after, o.IsOrdinary) (hsource : isOptionLike source = false)
    (hdash : source ≠ "-") :
    (s.tree.exists_ (Path.ofString source) ≠ .ok false →
      run .plain s (callFor before source after) =
        run .commands s ("convert" :: callFor before source after)) ∧
    (s.tree.exists_ (Path.ofString source) = .ok false →
      run .commands s ("convert" :: callFor before source after) =
        s.leave (.misuse (.noSuchPath source)) ∧
      run .plain s (callFor before source after) =
        { s.leave (.finished true) with
          notices := Conversion.Report.noticeText { notices := [.found 0] } }) := by
  rw [run_plain_eq hsettings hoptions hsource, run_commands_convert hsettings]
  refine ⟨fun hexists => ?_, fun hexists => ⟨?_, ?_⟩⟩
  · rw [convertCommand_of_exists hoptions hsource hdash hexists,
      run_standardInput _ s.tree hdash s.standardInput s.inputText]
  · exact convertCommand_of_not_exists hoptions hsource hdash hexists
  · rw [run_of_not_exists hsound hdash hexists]
    rfl

theorem isSound_mixedTree : mixedTree.IsSound := by
  intro place names hne hfile
  have hfiles : place ++ names = ["in", "a.sql"] ∨ place ++ names = ["in", "b.sql"] := by
    by_contra hother
    rw [not_or] at hother
    rw [Tree.isFileAt, Tree.bytes?, Option.isSome_iff_ne_none, ne_eq, List.lookup_eq_none_iff]
      at hfile
    exact hfile (by simp [mixedTree, hother])
  rcases place with _ | ⟨first, _ | ⟨second, more⟩⟩
  · rfl
  · have hfirst : first = "in" := by
      rcases hfiles with h | h
      · exact (List.cons.inj h).1
      · exact (List.cons.inj h).1
    rw [hfirst]
    decide
  · have hnames : names = [] := by
      rcases hfiles with h | h
      · exact (List.append_eq_nil_iff.mp (List.cons.inj (List.cons.inj h).2).2).2
      · exact (List.append_eq_nil_iff.mp (List.cons.inj (List.cons.inj h).2).2).2
    exact absurd hnames hne

/-- A directory is converted alike, and a source that does not exist is told apart. -/
theorem run_plain_or_not_exists_mixedTree :
    run .plain ⟨mixedTree, "", {}⟩ (callFor [.noLombok] "in" [.directory "gen"]) =
        run .commands ⟨mixedTree, "", {}⟩
          ("convert" :: callFor [.noLombok] "in" [.directory "gen"]) ∧
      (run .plain ⟨mixedTree, "", {}⟩ (callFor [.noLombok] "on" [.directory "gen"])).ending.code =
        0 ∧
      (run .commands ⟨mixedTree, "", {}⟩
        ("convert" :: callFor [.noLombok] "on" [.directory "gen"])).ending.code = 2 := by
  have hoptions : ∀ o ∈ [SharedOption.noLombok] ++ [.directory "gen"], o.IsOrdinary := by
    simp only [List.cons_append, List.nil_append, List.forall_mem_cons]
    exact ⟨trivial, ⟨by decide, by decide⟩, by simp⟩
  have hin := run_plain_or_not_exists (s := ⟨mixedTree, "", {}⟩) rfl isSound_mixedTree hoptions
    (by decide : isOptionLike "in" = false) (by decide)
  have hon := run_plain_or_not_exists (s := ⟨mixedTree, "", {}⟩) rfl isSound_mixedTree hoptions
    (by decide : isOptionLike "on" = false) (by decide)
  have hexists : mixedTree.exists_ (Path.ofString "in") = .ok true := by decide +kernel
  have hmissing : mixedTree.exists_ (Path.ofString "on") = .ok false := by decide +kernel
  refine ⟨hin.1 (by simp [hexists]), ?_, ?_⟩
  · rw [(hon.2 hmissing).2]
    rfl
  · rw [(hon.2 hmissing).1]
    rfl

/-- The programs end with different exit codes where there are no files at all. -/
theorem code_ne_of_not_exists :
    (run .plain {} ["nope.sql"]).ending.code ≠
      (run .commands {} ["convert", "nope.sql"]).ending.code := by
  decide +kernel

end Command

end EntityMapper
