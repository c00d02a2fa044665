import EntityMapper.Proofs.Conversion.Fates

/-!
# What a run reports

A run that goes on to its end gives each input its fate, in order. Its report is that of the inputs
converted one by one on the files as they were at the beginning, and only accepted inputs change
files. Summaries change nothing but the summaries, and checks only take the inputs that they reject
from the others.
-/

namespace EntityMapper.Conversion

open File (Path Tree)

/-- A report without its summaries. -/
def Report.withoutSummaries (r : Report) : Report :=
  { r with summaries := [] }

@[simp] theorem Report.withoutSummaries_append (a b : Report) :
    (a ++ b).withoutSummaries = a.withoutSummaries ++ b.withoutSummaries := rfl

/-- A run without the summaries of its report. -/
def Run.withoutSummaries (run : Run) : Run :=
  { run with report := run.report.withoutSummaries }

/-- A notice is shown alike without the summaries. -/
theorem withoutSummaries_notify (run : Run) (n : Notice) (following : Report) :
    (run.notify n following).withoutSummaries =
      run.withoutSummaries.notify n following.withoutSummaries := by
  cases hshown : n.text with
  | error why => simp [Run.notify, hshown, Run.withoutSummaries]
  | ok shown =>
    simp only [Run.notify, hshown, Run.withoutSummaries, Report.withoutSummaries_append]
    rfl

/-- The inputs of a directory whose wanted files are in order. -/
theorem inputs_of_directory {t : Tree} {source : String} (place : File.Place)
    (found : List File.Found) (hdash : source ≠ "-")
    (hfind : t.find (Path.ofString source) = .ok (some place)) (hplace : t.isFileAt place = false)
    (hwanted : (t.below place).filterMap (fun names =>
      if File.ScanRule.covers {} ((Path.ofString source).join ⟨.here, names⟩) names &&
          Sql.mayDeclare (t.textAt (place ++ names)) then
        some (⟨(Path.ofString source).join ⟨.here, names⟩, t.textAt (place ++ names)⟩ : File.Found)
      else none) = found)
    (hsorted : found.Pairwise fun a b => Path.le a.path b.path = true) (standardInput : String) :
    inputs t standardInput source =
      .ok (found.map fun file => ⟨file.path.toString, file.text⟩) := by
  have hscan : File.scan t {} (Path.ofString source) = .ok found := by
    rw [File.scan, hfind]
    change (if t.isFileAt place = true then _ else _) = _
    rw [if_neg (by simp [hplace])]
    change Except.ok (List.mergeSort _ _) = _
    rw [hwanted, List.mergeSort_of_pairwise hsorted]
  rw [inputs, if_neg hdash, hscan]
  rfl

/-- A run whose source stands for inputs converts them. -/
theorem run_eq {q : Request} {t : Tree} {standardInput source : String} {is : List Input}
    (h : inputs t standardInput source = .ok is) : q.run t standardInput source =
      { q.convertAll t is with
        report := { notices := [.found is.length] } ++ (q.convertAll t is).report } := by
  rw [Request.run, h]

/-- A run leaves the files that converting its inputs leaves. -/
theorem tree_run {q : Request} {t : Tree} {standardInput source : String} {is : List Input}
    (h : inputs t standardInput source = .ok is) :
    (q.run t standardInput source).tree = (q.convertAll t is).tree := by
  rw [run_eq h]

/-- A run ends as converting its inputs ends. -/
theorem failure_run {q : Request} {t : Tree} {standardInput source : String} {is : List Input}
    (h : inputs t standardInput source = .ok is) :
    (q.run t standardInput source).failure = (q.convertAll t is).failure := by
  rw [run_eq h]

namespace Request

variable {q : Request} {t : Tree} {i : Input} {is : List Input}

/-! ## Input by input -/

/-- An input that is converted is followed by the others. -/
theorem convertAll_cons_of_returns (h : (q.convertInput t i).failure = none) :
    q.convertAll t (i :: is) = { q.convertAll (q.convertInput t i).tree is with
      report := (q.convertInput t i).report ++
        (q.convertAll (q.convertInput t i).tree is).report } := by
  rw [convertAll]
  simp only [h]

/-- A run goes on to its end if each of its conversions does. -/
theorem returns_cons_iff : (q.convertAll t (i :: is)).failure = none ↔
    (q.convertInput t i).failure = none ∧
      (q.convertAll (q.convertInput t i).tree is).failure = none := by
  cases hfirst : (q.convertInput t i).failure with
  | none => simp [convertAll_cons_of_returns hfirst]
  | some why => simp [convertAll, hfirst]

/-- The conversion of one input by itself. -/
theorem convertAll_singleton (q : Request) (t : Tree) (i : Input) :
    q.convertAll t [i] = q.convertInput t i := by
  cases hfirst : (q.convertInput t i).failure with
  | none =>
    rw [convertAll_cons_of_returns hfirst, convertAll]
    simp [← hfirst]
  | some why => simp [convertAll, hfirst]

/-- Inputs are converted on files that others can be reached from as each of them is on those. -/
theorem Prepared.convertAll {t' : Tree} (hp : Prepared q t t')
    (h : (q.convertAll t' is).failure = none) :
    (∀ i ∈ is, (q.convertInput t i).failure = none) ∧
      (q.convertAll t' is).report =
        Report.joined (is.map fun i => (q.convertInput t i).report) := by
  induction is generalizing t' with
  | nil => exact ⟨fun i hi => (List.not_mem_nil hi).elim, rfl⟩
  | cons i is ih =>
    obtain ⟨hfirst, hrest⟩ := returns_cons_iff.mp h
    obtain ⟨hreturns, hreport, hnext⟩ := hp.convertInput hfirst
    obtain ⟨hothers, hjoined⟩ := ih hnext hrest
    refine ⟨List.forall_mem_cons.mpr ⟨hreturns, hothers⟩, ?_⟩
    rw [convertAll_cons_of_returns hfirst, hjoined, List.map_cons, Report.joined_cons, hreport]

/-- Reports that are put together from fates. -/
theorem joined_of_fates (h : ∀ i ∈ is, (q.convertInput t i).failure = none) :
    (Report.joined (is.map fun i => (q.convertInput t i).report)).failed =
        is.filterMap (fun i => (q.fate i).failed?) ∧
      (Report.joined (is.map fun i => (q.convertInput t i).report)).printed =
        String.join (is.filterMap fun i => (q.fate i).printed?) ∧
      (Report.joined (is.map fun i => (q.convertInput t i).report)).written =
        is.filterMap (fun i => (q.fate i).written?) := by
  induction is with
  | nil => exact ⟨rfl, rfl, rfl⟩
  | cons i is ih =>
    obtain ⟨hfirst, hothers⟩ := List.forall_mem_cons.mp h
    obtain ⟨hfailed, hprinted, hwritten⟩ := report_convertInput hfirst
    obtain ⟨ihfailed, ihprinted, ihwritten⟩ := ih hothers
    simp only [List.map_cons, Report.joined_cons, Report.failed_append, Report.printed_append,
      Report.written_append, hfailed, hprinted, hwritten, ihfailed, ihprinted, ihwritten,
      List.filterMap_cons]
    refine ⟨?_, ?_, ?_⟩
    · cases (q.fate i).failed? <;> rfl
    · cases (q.fate i).printed? with
      | none => exact String.empty_append
      | some text => exact String.join_cons.symm
    · cases (q.fate i).written? <;> rfl

/-- Every fate is one of the three. -/
theorem length_of_fates (is : List Input) :
    (is.filterMap fun i => (q.fate i).failed?).length +
      (is.filterMap fun i => (q.fate i).printed?).length +
      (is.filterMap fun i => (q.fate i).written?).length = is.length := by
  induction is with
  | nil => rfl
  | cons i is ih =>
    rw [List.filterMap_cons, List.filterMap_cons, List.filterMap_cons, List.length_cons, ← ih]
    cases q.fate i with
    | failed label =>
      simp only [Fate.failed?, Fate.printed?, Fate.written?, List.length_cons]
      omega
    | printed text =>
      simp only [Fate.failed?, Fate.printed?, Fate.written?, List.length_cons]
      omega
    | written file =>
      simp only [Fate.failed?, Fate.printed?, Fate.written?, List.length_cons]
      omega

/-- Nothing is printed where classes are written to a directory. -/
theorem printed?_eq_none {directory : Path} (htarget : q.target = .directory directory)
    (i : Input) : (q.fate i).printed? = none := by
  rcases fate_cases q i with hfate | ⟨table, -, hjudge⟩
  · rw [hfate]
    rfl
  · rw [fate_of_accepted q i hjudge, htarget]
    rfl

/-! ## Fewer inputs -/

/-- A run on some of the inputs, where the others change no file, leaves the same files. -/
theorem returns_filter {p : Input → Bool} {q' : Request}
    (hother : ∀ i, p i = false → ∀ t, (q.convertInput t i).tree = t)
    (hsame : ∀ i, p i = true → ∀ t, q'.convertInput t i = q.convertInput t i)
    (h : (q.convertAll t is).failure = none) :
    (q'.convertAll t (is.filter p)).failure = none ∧
      (q'.convertAll t (is.filter p)).tree = (q.convertAll t is).tree := by
  induction is generalizing t with
  | nil => exact ⟨rfl, rfl⟩
  | cons i is ih =>
    obtain ⟨hfirst, hrest⟩ := returns_cons_iff.mp h
    obtain ⟨hreturns, htree⟩ := ih hrest
    rw [convertAll_cons_of_returns hfirst]
    cases hp : p i with
    | false =>
      rw [List.filter_cons_of_neg (by simp [hp])]
      rw [hother i hp] at hreturns htree ⊢
      exact ⟨hreturns, htree⟩
    | true =>
      rw [List.filter_cons_of_pos hp, ← hsame i hp] at *
      rw [convertAll_cons_of_returns hfirst]
      exact ⟨hreturns, htree⟩

/-! ## Summaries -/

/-- A class text is delivered alike without the summaries. -/
theorem withoutSummaries_deliver (q : Request) (t : Tree) (r : Report) (table : Schema.Table)
    (text : String) : (q.deliver t r table text).withoutSummaries =
      q.deliver t r.withoutSummaries table text := by
  cases htarget : q.target with
  | console =>
    rw [deliver_console htarget, deliver_console htarget]
    rfl
  | directory directory =>
    simp only [deliver, htarget]
    cases writeClass t directory table.className text with
    | mk t' result =>
      cases result with
      | error e => rfl
      | ok path => exact withoutSummaries_notify _ _ _

/-- A summary that can be made changes nothing but the summaries of the report. -/
theorem convertInput_withoutSummaries {r : Report}
    (h : q.summary (Sql.read i.text).result = .ok r) (t : Tree) :
    { q with summaries := .none }.convertInput t i = (q.convertInput t i).withoutSummaries := by
  have hread : ∀ log : Report, log.summaries = [] →
      (log ++ r).withoutSummaries = log ++ ({} : Report) := by
    rintro log hlog
    rw [summary_eq_ok h, Report.withoutSummaries_append]
    obtain ⟨written, failed, printed, notices, log, summaries⟩ := log
    obtain rfl : summaries = [] := hlog
    rfl
  have hsummary : { q with summaries := .none }.summary (Sql.read i.text).result = .ok {} := rfl
  have hsame : { q with summaries := .none }.judge (Sql.read i.text).result =
      q.judge (Sql.read i.text).result := rfl
  rw [convertInput, convertInput]
  dsimp only
  rw [h, hsummary, hsame]
  rcases judge_cases q i with ⟨why, -, hjudge⟩ | ⟨table, why, -, hjudge⟩ | ⟨table, -, hjudge⟩
  · simp only [hjudge, withoutSummaries_notify]
    rfl
  · simp only [hjudge, withoutSummaries_notify]
    rw [Run.withoutSummaries, hread _ (by rfl)]
    rfl
  · simp only [hjudge, withoutSummaries_deliver]
    rw [hread _ (by rfl)]
    rfl

/-- A run ends early if a summary cannot be made. -/
theorem failure_of_summary {why : Text.MarkupError}
    (h : q.summary (Sql.read i.text).result = .error why) (t : Tree) :
    (q.convertInput t i).failure ≠ none := by
  rw [convertInput]
  dsimp only
  rw [h]
  simp

/-- A run goes on to its end if it does without summaries and each summary can be made. -/
theorem returns_iff_withoutSummaries : (q.convertAll t is).failure = none ↔
    ({ q with summaries := .none }.convertAll t is).failure = none ∧
      ∀ i ∈ is, ∃ r, q.summary (Sql.read i.text).result = .ok r := by
  induction is generalizing t with
  | nil => simp [convertAll]
  | cons i is ih =>
    rw [returns_cons_iff, returns_cons_iff, ih, List.forall_mem_cons]
    cases hsummary : q.summary (Sql.read i.text).result with
    | error why =>
      have hfails := failure_of_summary hsummary t
      simp [hfails]
    | ok r =>
      rw [convertInput_withoutSummaries hsummary]
      constructor
      · rintro ⟨hfirst, hrest, hothers⟩
        exact ⟨⟨hfirst, hrest⟩, ⟨r, rfl⟩, hothers⟩
      · rintro ⟨⟨hfirst, hrest⟩, -, hothers⟩
        exact ⟨hfirst, hrest, hothers⟩

/-- Summaries change nothing but the summaries of the report. -/
theorem convertAll_withoutSummaries (h : (q.convertAll t is).failure = none) :
    { q with summaries := .none }.convertAll t is = (q.convertAll t is).withoutSummaries := by
  induction is generalizing t with
  | nil => rfl
  | cons i is ih =>
    obtain ⟨hfirst, hrest⟩ := returns_cons_iff.mp h
    obtain ⟨r, hsummary⟩ : ∃ r, q.summary (Sql.read i.text).result = .ok r :=
      (returns_iff_withoutSummaries.mp h).2 i List.mem_cons_self
    have hsame := convertInput_withoutSummaries hsummary t
    have hfirst' : ({ q with summaries := .none }.convertInput t i).failure = none := by
      rw [hsame]
      exact hfirst
    rw [convertAll_cons_of_returns hfirst, convertAll_cons_of_returns hfirst', hsame]
    change Run.mk _ _ _ = _
    rw [show ((q.convertInput t i).withoutSummaries).tree = (q.convertInput t i).tree from rfl,
      ih hrest]
    rfl

/-! ## The account of a run -/

/-- What is known of a run that goes on to its end. -/
structure Accounts (q : Request) (t : Tree) (is : List Input) : Prop where
  /-- An input fails if it declares no table, or is rejected by checks that are asked for. -/
  fails_iff : ∀ i label, q.fate i = .failed label ↔ label = i.label ∧
    ((∃ why, (Sql.read i.text).result = .error why) ∨ q.verify = true ∧ ∃ table why,
      (Sql.read i.text).result = .ok table ∧
        Java.outlineFor table (Java.classText q.options table) = .error why)
  failed_eq : (q.convertAll t is).report.failed = is.filterMap fun i => (q.fate i).failed?
  printed_eq : (q.convertAll t is).report.printed =
    String.join (is.filterMap fun i => (q.fate i).printed?)
  written_eq : (q.convertAll t is).report.written = is.filterMap fun i => (q.fate i).written?
  /-- Without the console every input fails or is written. -/
  length_eq : ∀ directory, q.target = .directory directory →
    (q.convertAll t is).report.failed.length + (q.convertAll t is).report.written.length =
      is.length
  /-- The report is put together from those of the inputs by themselves. -/
  alone : ∀ i ∈ is, (q.convertAll t [i]).failure = none
  report_eq : (q.convertAll t is).report =
    Report.joined (is.map fun i => (q.convertAll t [i]).report)
  /-- An input that fails changes no file. -/
  tree_of_failed : ∀ i label, q.fate i = .failed label → (q.convertAll t [i]).tree = t
  /-- The files are those of a run on the inputs that do not fail. -/
  accepted : (q.convertAll t (is.filter q.accepts)).failure = none ∧
    (q.convertAll t (is.filter q.accepts)).tree = (q.convertAll t is).tree
  /-- Summaries change nothing else. -/
  summaries : { q with summaries := .none }.convertAll t is =
    (q.convertAll t is).withoutSummaries
  /-- Checks change the fate of the inputs that they reject, which fail, and of no other. -/
  checks : ∀ i, q.fate i =
    if q.rejects i = true then .failed i.label else { q with verify := false }.fate i
  /-- The files are those of a run without checks on the other inputs. -/
  checked : ({ q with verify := false }.convertAll t (is.filter fun i => !q.rejects i)).failure =
      none ∧
    ({ q with verify := false }.convertAll t (is.filter fun i => !q.rejects i)).tree =
      (q.convertAll t is).tree
  ok_iff : (q.convertAll t is).report.ok = true ↔ (q.convertAll t is).report.failed = []

/-- A run that goes on to its end accounts for each of its inputs. -/
theorem accounts (h : (q.convertAll t is).failure = none) : Accounts q t is := by
  obtain ⟨halone, hreport⟩ := Prepared.same.convertAll h
  obtain ⟨hfailed, hprinted, hwritten⟩ := joined_of_fates halone
  rw [← hreport] at hfailed hprinted hwritten
  have hreports : (is.map fun i => (q.convertInput t i).report) =
      is.map fun i => (q.convertAll t [i]).report :=
    List.map_congr_left fun i _ => by rw [convertAll_singleton]
  exact {
    fails_iff := fun i label => by rw [fate_eq_failed_iff, rejects_iff]
    failed_eq := hfailed
    printed_eq := hprinted
    written_eq := hwritten
    length_eq := by
      intro directory htarget
      have hnone : (is.filterMap fun i => (q.fate i).printed?) = [] := by
        simp [printed?_eq_none htarget]
      have hlength := length_of_fates (q := q) is
      rw [hnone] at hlength
      rw [hfailed, hwritten]
      exact hlength
    alone := fun i hi => by
      rw [convertAll_singleton]
      exact halone i hi
    report_eq := hreport.trans (congrArg _ hreports)
    tree_of_failed := fun i label hlabel => by
      rw [convertAll_singleton]
      exact tree_convertInput_of_failed (by simp [accepts, hlabel, Fate.failed?]) t
    accepted := returns_filter (fun i hi t => tree_convertInput_of_failed hi t)
      (fun i _ t => rfl) h
    summaries := convertAll_withoutSummaries h
    checks := q.fate_eq_of_verify
    checked := by
      refine returns_filter (fun i hi t => ?_) (fun i hi t => ?_) h
      · refine tree_convertInput_of_failed ?_ t
        rw [Bool.not_eq_false'] at hi
        rw [accepts, fate_eq_of_verify, if_pos hi]
        rfl
      · exact convertInput_of_not_rejects (by simpa using hi) t
    ok_iff := List.isEmpty_iff }

end Request

end EntityMapper.Conversion
