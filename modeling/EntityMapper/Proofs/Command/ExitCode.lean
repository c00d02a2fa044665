import EntityMapper.Command.Program
import EntityMapper.Proofs.Conversion.Accounts
import EntityMapper.Proofs.Sql.Tables

/-!
# The exit code of a conversion

A call that is understood runs one conversion. If that goes on to its end, the exit code tells
whether any input failed, and the run accounts for all inputs of the source.
-/

namespace EntityMapper.Command

open Conversion (Notice Request inputs)
open File (Path Tree)

/-- A call for a conversion is understood: it names one source, which exists, no help is asked for,
and no check crashes. -/
structure Understood (s : Surroundings) (rules : List (OptionRule Setting))
    (check : Except Crash Unit) (arguments : List String) (a : Arguments Setting)
    (source : String) : Prop where
  read_eq : readMixed rules arguments = .ok a
  no_help : Setting.help ∉ a.settings
  paths_checked : (directoryOf? a.settings).toList.forM checkPath = .ok ()
  operand_eq : a.soleOperand = .ok source
  checked : check = .ok ()
  source_exists : source = "-" ∨ s.tree.exists_ (Path.ofString source) = .ok true

/-- The text of the standard input of a call. -/
def Surroundings.inputText (s : Surroundings) : String :=
  String.ofList (Text.normalizeLines s.standardInput.toList)

/-- The request of a call. -/
def Surroundings.requestFor (s : Surroundings) (a : Arguments Setting) : Request :=
  requestOf s.settings.options s.settings.outputDirectory a.settings

/-- A call that is understood runs a conversion. -/
theorem convertCommand_of_understood {s : Surroundings} {rules : List (OptionRule Setting)}
    {check : Except Crash Unit} {arguments : List String} {a : Arguments Setting} {source : String}
    (h : Understood s rules check arguments a source) :
    convertCommand s rules check arguments =
      outcomeOf ((s.requestFor a).run s.tree s.inputText source) := by
  simp only [convertCommand, Surroundings.call, h.read_eq, if_neg h.no_help, h.paths_checked,
    h.operand_eq, h.checked, Surroundings.unlessCrash]
  by_cases hdash : source = "-"
  · simp only [hdash, bind, Except.bind]
    rfl
  · have hexists := h.source_exists.resolve_left hdash
    simp only [hexists, bind, Except.bind, if_pos hdash]
    rfl

/-- The exit code of a conversion that goes on to its end. -/
theorem code_outcomeOf {run : Conversion.Run} (h : run.failure = none) :
    (outcomeOf run).ending.code = if run.report.failed = [] then 0 else 1 := by
  rw [outcomeOf, h]
  cases hfailed : run.report.failed with
  | nil => simp [Conversion.Report.ok, hfailed, Ending.code]
  | cons label labels => simp [Conversion.Report.ok, hfailed, Ending.code]

/-- A run that goes on to its end accounts for each of the inputs that its source stands for, on the
files as they were at the beginning; a call for it that is understood ends with the exit code that
tells whether any input failed. -/
theorem accounts_of_run (q : Request) (t : Tree) (standardInput source : String)
    (h : (q.run t standardInput source).failure = none) :
    ∃ is, inputs t standardInput source = .ok is ∧ q.Accounts t is ∧
      (q.run t standardInput source).tree = (q.convertAll t is).tree ∧
      (q.run t standardInput source).report =
        { notices := [.found is.length] } ++ (q.convertAll t is).report ∧
      { q with summaries := .none }.run t standardInput source =
        (q.run t standardInput source).withoutSummaries ∧
      ∀ (s : Surroundings) (rules : List (OptionRule Setting)) (check : Except Crash Unit)
        (arguments : List String) (a : Arguments Setting),
        Understood s rules check arguments a source → s.requestFor a = q → s.tree = t →
        s.inputText = standardInput →
        (convertCommand s rules check arguments).ending.code =
          if (q.run t standardInput source).report.failed = [] then 0 else 1 := by
  cases hinputs : inputs t standardInput source with
  | error why => simp [Request.run, hinputs] at h
  | ok is =>
    have hrun : q.run t standardInput source = { q.convertAll t is with
        report := { notices := [.found is.length] } ++ (q.convertAll t is).report } := by
      simp only [Request.run, hinputs]
    have hreturns : (q.convertAll t is).failure = none := by
      rwa [hrun] at h
    have haccounts := Request.accounts hreturns
    refine ⟨is, rfl, haccounts, ?_, ?_, ?_, ?_⟩
    · rw [hrun]
    · rw [hrun]
    · rw [hrun]
      simp only [Request.run, hinputs, haccounts.summaries]
      rfl
    · rintro s rules check arguments a hunderstood rfl rfl rfl
      rw [convertCommand_of_understood hunderstood, code_outcomeOf h]

/-- A directory with a file that declares a table and one that does not. -/
def mixedTree : Tree where
  files :=
    [(["in", "a.sql"], Text.encodeUtf8 "CREATE TABLE a (c INT)"),
     (["in", "b.sql"], Text.encodeUtf8 "CREATE TABLE (c INT)")]
  directories := [["in"]]

/-- The inputs that the directory stands for. -/
def mixedInputs : List Conversion.Input :=
  [⟨"in/a.sql", "CREATE TABLE a (c INT)"⟩, ⟨"in/b.sql", "CREATE TABLE (c INT)"⟩]

theorem inputs_mixedTree : inputs mixedTree "" "in" = .ok mixedInputs :=
  (Conversion.inputs_of_directory ["in"]
    [⟨⟨.here, ["in", "a.sql"]⟩, "CREATE TABLE a (c INT)"⟩,
      ⟨⟨.here, ["in", "b.sql"]⟩, "CREATE TABLE (c INT)"⟩]
    (by decide) rfl rfl (by decide +kernel) (by decide +kernel) "").trans (by decide +kernel)

theorem read_mixed_first : Sql.read "CREATE TABLE a (c INT)" =
    ⟨.ok ⟨"a", "A", [⟨"c", "c", .integer, "INT", false, false, true, false⟩]⟩, []⟩ :=
  Sql.read_of_isStatement (by decide +kernel)

theorem read_mixed_second :
    (Sql.read "CREATE TABLE (c INT)").result = .error .noTableDeclaration :=
  Sql.read_result_of_none (by decide +kernel)

theorem accounts_of_run_mixedTree :
    ({} : Request).Accounts mixedTree mixedInputs ∧
      (({} : Request).run mixedTree "" "in").report.failed = ["in/b.sql"] := by
  have hends : (({} : Request).run mixedTree "" "in").failure = none ∧
      (({} : Request).run mixedTree "" "in").report.failed = ["in/b.sql"] := by
    rw [Conversion.run_eq inputs_mixedTree, mixedInputs, Request.convertAll,
      Request.convertAll_singleton,
      Conversion.convertInput_of_read rfl rfl _ _ read_mixed_first,
      Conversion.convertInput_of_unreadable _ _ _ read_mixed_second]
    decide +kernel
  obtain ⟨is, his, haccounts, -⟩ := accounts_of_run {} mixedTree "" "in" hends.1
  obtain rfl := Except.ok.inj (his.symm.trans inputs_mixedTree)
  exact ⟨haccounts, hends.2⟩

end EntityMapper.Command
