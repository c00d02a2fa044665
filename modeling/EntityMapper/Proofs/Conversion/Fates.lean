import EntityMapper.Proofs.Conversion.ClassFiles

/-!
# What becomes of an input

An input fails, or its class text is printed, or it is written to the file of its class. Which of
these happens depends on the input and the request alone; of the files only the directories matter,
and only for whether the run goes on.
-/

namespace EntityMapper.Conversion

open File (Path Tree)

/-- What becomes of an input. -/
inductive Fate where
  | failed (label : String)
  | printed (text : String)
  | written (file : Path)
  deriving DecidableEq, Repr

namespace Fate

/-- The label of an input that fails. -/
def failed? : Fate → Option String
  | .failed label => some label
  | _ => none

/-- The text that is printed for an input. -/
def printed? : Fate → Option String
  | .printed text => some text
  | _ => none

/-- The file that is written for an input. -/
def written? : Fate → Option Path
  | .written file => some file
  | _ => none

end Fate

/-- A notice that can be shown is reported with what follows from it. -/
theorem notify_of_returns {run : Run} {n : Notice} {following : Report}
    (h : (run.notify n following).failure = none) : run.notify n following =
      { run with report := run.report ++ { notices := [n] } ++ following } := by
  cases hshown : n.text with
  | error why => simp [Run.notify, hshown] at h
  | ok shown => simp [Run.notify, hshown]

/-- A notice is shown alike whatever the files are. -/
theorem notify_congr (t t' : Tree) (r : Report) (n : Notice) (following : Report) :
    (Run.notify ⟨t, r, none⟩ n following).failure =
        (Run.notify ⟨t', r, none⟩ n following).failure ∧
      (Run.notify ⟨t, r, none⟩ n following).report =
        (Run.notify ⟨t', r, none⟩ n following).report := by
  cases hshown : n.text with
  | error why => simp [Run.notify, hshown]
  | ok shown => simp [Run.notify, hshown]

namespace Request

variable (q : Request) (i : Input)

/-- What becomes of an input, if the run goes on. -/
def fate : Fate :=
  match q.judge (Sql.read i.text).result with
  | .accepted table text =>
    match q.target with
    | .console => .printed (Text.onConsole text)
    | .directory directory => .written (classFile directory table.className)
  | _ => .failed i.label

/-- Whether an input declares a table that the class text is checked against in vain. -/
def rejects : Bool :=
  match q.judge (Sql.read i.text).result with
  | .rejected _ _ => true
  | _ => false

/-- Whether an input is accepted. -/
def accepts : Bool :=
  (q.fate i).failed? = none

variable {q i} in
/-- A table is accepted if no checks are asked for. -/
theorem judge_of_not_verify (hverify : q.verify = false) (table : Schema.Table) :
    q.judge (.ok table) = .accepted table (Java.classText q.options table) := by
  simp [judge, hverify]

variable {q i} in
/-- A table whose class text passes the checks is accepted. -/
theorem judge_of_ok {table : Schema.Table} {found : Java.Outline}
    (h : Java.outlineFor table (Java.classText q.options table) = .ok found) :
    q.judge (.ok table) = .accepted table (Java.classText q.options table) := by
  simp [judge, h]

variable {q i} in
/-- A table whose class text does not pass the checks is rejected. -/
theorem judge_of_error (hverify : q.verify = true) {table : Schema.Table}
    {why : Java.Disagreement}
    (h : Java.outlineFor table (Java.classText q.options table) = .error why) :
    q.judge (.ok table) = .rejected table why := by
  simp [judge, hverify, h]

/-- An input is rejected if checks are asked for and its class text does not pass them. -/
theorem rejects_iff : q.rejects i = true ↔ q.verify = true ∧ ∃ table why,
    (Sql.read i.text).result = .ok table ∧
      Java.outlineFor table (Java.classText q.options table) = .error why := by
  rw [rejects]
  cases hread : (Sql.read i.text).result with
  | error why => simp [judge]
  | ok table =>
    cases hverify : q.verify with
    | false => simp [judge_of_not_verify hverify]
    | true =>
      cases houtline : Java.outlineFor table (Java.classText q.options table) with
      | error why =>
        rw [judge_of_error hverify houtline]
        exact ⟨fun _ => ⟨rfl, table, why, rfl, houtline⟩, fun _ => rfl⟩
      | ok found =>
        rw [judge_of_ok houtline]
        constructor
        · intro h
          cases h
        · rintro ⟨-, other, why, hother, hrejected⟩
          obtain rfl := Except.ok.inj hother
          cases houtline.symm.trans hrejected

/-- What becomes of an input whose table is accepted. -/
theorem fate_of_accepted {table : Schema.Table} {text : String}
    (h : q.judge (Sql.read i.text).result = .accepted table text) : q.fate i =
      match q.target with
      | .console => .printed (Text.onConsole text)
      | .directory directory => .written (classFile directory table.className) := by
  rw [fate, h]

/-- An input that declares no table fails. -/
theorem fate_of_unreadable {why : Sql.ReadingFailure}
    (h : q.judge (Sql.read i.text).result = .unreadable why) : q.fate i = .failed i.label := by
  rw [fate, h]

/-- An input whose table is rejected fails. -/
theorem fate_of_rejected {table : Schema.Table} {why : Java.Disagreement}
    (h : q.judge (Sql.read i.text).result = .rejected table why) :
    q.fate i = .failed i.label := by
  rw [fate, h]

variable {q} in
/-- Without checks an input that declares a table has its class text printed or written. -/
theorem fate_of_read (hverify : q.verify = false) (label : String) {text : String}
    {table : Schema.Table} {remarks : List Sql.Remark}
    (hread : Sql.read text = ⟨.ok table, remarks⟩) : q.fate ⟨label, text⟩ =
      match q.target with
      | .console => .printed (Text.onConsole (Java.classText q.options table))
      | .directory directory => .written (classFile directory table.className) := by
  refine fate_of_accepted q _ ?_
  rw [hread]
  exact judge_of_not_verify hverify table

/-- An input whose table is accepted does not fail. -/
theorem fate_ne_failed {table : Schema.Table} {text : String}
    (h : q.judge (Sql.read i.text).result = .accepted table text) (label : String) :
    q.fate i ≠ .failed label := by
  rw [fate_of_accepted q i h]
  cases q.target <;> simp

/-- An input declares no table, is rejected, or is accepted with the class text of its table. -/
theorem judge_cases :
    (∃ why, (Sql.read i.text).result = .error why ∧
        q.judge (Sql.read i.text).result = .unreadable why) ∨
      (∃ table why, (Sql.read i.text).result = .ok table ∧
        q.judge (Sql.read i.text).result = .rejected table why) ∨
      ∃ table, (Sql.read i.text).result = .ok table ∧
        q.judge (Sql.read i.text).result =
          .accepted table (Java.classText q.options table) := by
  cases hread : (Sql.read i.text).result with
  | error why => exact .inl ⟨why, rfl, rfl⟩
  | ok table =>
    refine .inr ?_
    cases hverify : q.verify with
    | false => exact .inr ⟨table, rfl, judge_of_not_verify hverify table⟩
    | true =>
      cases houtline : Java.outlineFor table (Java.classText q.options table) with
      | error why => exact .inl ⟨table, why, rfl, judge_of_error hverify houtline⟩
      | ok found => exact .inr ⟨table, rfl, judge_of_ok houtline⟩

/-- An input fails, or the class text of the table that it declares is accepted. -/
theorem fate_cases : q.fate i = .failed i.label ∨
    ∃ table, (Sql.read i.text).result = .ok table ∧
      q.judge (Sql.read i.text).result = .accepted table (Java.classText q.options table) := by
  rcases judge_cases q i with ⟨why, -, hjudge⟩ | ⟨table, why, -, hjudge⟩ | haccepted
  · exact .inl (fate_of_unreadable q i hjudge)
  · exact .inl (fate_of_rejected q i hjudge)
  · exact .inr haccepted

/-- An input fails if it declares no table or is rejected. -/
theorem fate_eq_failed_iff (label : String) : q.fate i = .failed label ↔ label = i.label ∧
    ((∃ why, (Sql.read i.text).result = .error why) ∨ q.rejects i = true) := by
  rcases judge_cases q i with ⟨why, hread, hjudge⟩ | ⟨table, why, hread, hjudge⟩ |
    ⟨table, hread, hjudge⟩
  · rw [fate_of_unreadable q i hjudge, Fate.failed.injEq, eq_comm]
    exact ⟨fun h => ⟨h, .inl ⟨why, hread⟩⟩, And.left⟩
  · have hrejects : q.rejects i = true := by rw [rejects, hjudge]
    rw [fate_of_rejected q i hjudge, Fate.failed.injEq, eq_comm]
    exact ⟨fun h => ⟨h, .inr hrejects⟩, And.left⟩
  · have hrejects : q.rejects i = false := by rw [rejects, hjudge]
    refine ⟨fun h => absurd h (fate_ne_failed q i hjudge label), ?_⟩
    rintro ⟨-, ⟨why, hwhy⟩ | h⟩
    · cases hread.symm.trans hwhy
    · cases hrejects.symm.trans h

/-- Without checks an input has the same fate, unless it is rejected. -/
theorem fate_eq_of_verify : q.fate i =
    if q.rejects i = true then .failed i.label else { q with verify := false }.fate i := by
  rcases judge_cases q i with ⟨why, hread, hjudge⟩ | ⟨table, why, -, hjudge⟩ |
    ⟨table, hread, hjudge⟩
  · have hrejects : q.rejects i = false := by rw [rejects, hjudge]
    rw [hrejects, fate, hjudge, fate, hread]
    rfl
  · have hrejects : q.rejects i = true := by rw [rejects, hjudge]
    rw [if_pos hrejects, fate_of_rejected q i hjudge]
  · have hrejects : q.rejects i = false := by rw [rejects, hjudge]
    have hunchecked : { q with verify := false }.judge (Sql.read i.text).result =
        .accepted table (Java.classText q.options table) := by
      rw [hread]
      exact judge_of_not_verify rfl table
    rw [fate_of_accepted _ i hunchecked, fate_of_accepted q i hjudge, hrejects]
    rfl

/-! ## The report of an input -/

variable {q i} in
/-- A summary reports nothing but itself. -/
theorem summary_eq_ok {declared : Except Sql.ReadingFailure Schema.Table} {r : Report}
    (h : q.summary declared = .ok r) : r = { summaries := r.summaries } := by
  unfold summary at h
  split at h
  · obtain rfl := Except.ok.inj h
    rfl
  · rename_i table _
    cases hcheck : checkSummary table with
    | error why => simp [hcheck, Except.map] at h
    | ok _ =>
      rw [hcheck] at h
      obtain rfl := Except.ok.inj h
      rfl
  · obtain rfl := Except.ok.inj h
    rfl

/-- What converting an input comes to, whatever the files are.  What is logged and summarized
before depends on the input alone. -/
inductive Outcome : Prop where
  /-- The run ends at the summary of the table. -/
  | stopped (why : Failure) (log : List Record)
      (eq : ∀ t, q.convertInput t i = ⟨t, { log := log }, some why⟩)
  /-- The input fails, and a notice says so. -/
  | failed (fate_eq : q.fate i = .failed i.label) (log : List Record)
      (summaries : List Schema.Table) (n : Notice)
      (eq : ∀ t, q.convertInput t i = Run.notify
        ⟨t, { log := log, summaries := summaries }, none⟩ n { failed := [i.label] })
  /-- The class text of the table is delivered. -/
  | delivered (table : Schema.Table)
      (judge_eq : q.judge (Sql.read i.text).result =
        .accepted table (Java.classText q.options table))
      (log : List Record) (summaries : List Schema.Table)
      (eq : ∀ t, q.convertInput t i = q.deliver t { log := log, summaries := summaries } table
        (Java.classText q.options table))

theorem outcome : q.Outcome i := by
  let log := (Sql.read i.text).remarks.map Record.remark
  cases hsummary : q.summary (Sql.read i.text).result with
  | error why =>
    exact .stopped (.markup why) log fun t => by simp only [convertInput, hsummary, log]
  | ok summary =>
    have hjoined : ({ log := log } : Report) ++ summary =
        { log := log, summaries := summary.summaries } := by
      rw [summary_eq_ok hsummary]
      change Report.append _ _ = _
      simp [Report.append]
    rcases judge_cases q i with ⟨why, -, hjudge⟩ | ⟨table, why, -, hjudge⟩ | ⟨table, -, hjudge⟩
    · refine .failed (fate_of_unreadable q i hjudge) (log ++ [.unreadable i.label why]) []
        (.unreadable i.label) fun t => ?_
      simp only [convertInput, hsummary, hjudge]
      rfl
    · refine .failed (fate_of_rejected q i hjudge) log summary.summaries (.rejected i.label why)
        fun t => ?_
      simp only [convertInput, hsummary, hjudge, ← hjoined, log]
    · refine .delivered table hjudge log summary.summaries fun t => ?_
      simp only [convertInput, hsummary, hjudge, ← hjoined, log]

variable {q i} in
/-- If the run goes on, the report tells what has become of the input. -/
theorem report_convertInput {t : Tree} (h : (q.convertInput t i).failure = none) :
    (q.convertInput t i).report.failed = (q.fate i).failed?.toList ∧
      (q.convertInput t i).report.printed = (q.fate i).printed?.getD "" ∧
      (q.convertInput t i).report.written = (q.fate i).written?.toList := by
  cases q.outcome i with
  | stopped why log heq => simp [heq] at h
  | failed hfate log summaries n heq =>
    rw [heq] at h ⊢
    rw [notify_of_returns h, hfate]
    simp [Fate.failed?, Fate.printed?, Fate.written?]
  | delivered table hjudge log summaries heq =>
    rw [heq] at h ⊢
    rw [fate_of_accepted q i hjudge]
    cases htarget : q.target with
    | console =>
      rw [deliver_console htarget]
      simp [Fate.failed?, Fate.printed?, Fate.written?]
    | directory directory =>
      obtain ⟨made, t', shown, hmade, hwrite, hnotice⟩ := exists_write_of_deliver htarget h
      rw [deliver_of_write htarget hmade hwrite hnotice]
      simp [Fate.failed?, Fate.printed?, Fate.written?]

/-! ## Other files -/

/-- Files from which others can be reached by delivering class texts: these have not changed, or the
directory of classes has been made and nothing but files has been put into it since then. -/
inductive Prepared (q : Request) (t : Tree) : Tree → Prop where
  | same : Prepared q t t
  | made {directory : Path} {made t' : Tree} (target_eq : q.target = .directory directory)
      (made_eq : t.makeDirectory directory = (made, none)) (same : made.SameDirectories t')
      (again : t'.makeDirectory directory = (t', none)) : Prepared q t t'

variable {q i} in
/-- A class text is delivered alike to files that others can be reached from. -/
theorem Prepared.deliver {t t' : Tree} (hp : Prepared q t t') {r : Report} {table : Schema.Table}
    {text : String} (h : (q.deliver t' r table text).failure = none) :
    (q.deliver t r table text).failure = none ∧
      (q.deliver t r table text).report = (q.deliver t' r table text).report ∧
      Prepared q t (q.deliver t' r table text).tree := by
  cases htarget : q.target with
  | console =>
    rw [deliver_console htarget, deliver_console htarget]
    exact ⟨rfl, rfl, hp⟩
  | directory directory =>
    obtain ⟨m', u', shown, hmade', hwrite', hnotice⟩ := exists_write_of_deliver htarget h
    obtain ⟨m, hmade, hsame⟩ : ∃ m, t.makeDirectory directory = (m, none) ∧
        m.SameDirectories m' := by
      cases hp with
      | same => exact ⟨m', hmade', .refl m'⟩
      | @made other m _ target_eq made_eq same again =>
        obtain rfl : directory = other := Target.directory.inj (htarget.symm.trans target_eq)
        obtain rfl : t' = m' := (Prod.mk.inj (again.symm.trans hmade')).1
        exact ⟨m, made_eq, same⟩
    obtain ⟨u, hwrite⟩ := hsame.symm.write hwrite'
    rw [deliver_of_write htarget hmade hwrite hnotice,
      deliver_of_write htarget hmade' hwrite' hnotice]
    refine ⟨rfl, rfl, .made htarget hmade ?_ ?_⟩
    · obtain ⟨place, -, -, -, rfl⟩ := Tree.write_eq_ok_iff.mp hwrite'
      exact hsame.trans (Tree.sameDirectories_put m' place _)
    · obtain ⟨place, -, -, hplace, rfl⟩ := Tree.write_eq_ok_iff.mp hwrite'
      refine Tree.makeDirectory_again hmade' (Tree.sameDirectories_put m' place _) fun p hfile => ?_
      rw [Tree.isFileAt_put, Bool.or_eq_true, decide_eq_true_iff] at hfile
      rcases hfile with rfl | hfile
      · exact .inr hplace
      · exact .inl hfile

variable {q i} in
/-- An input is converted alike on files that others can be reached from. -/
theorem Prepared.convertInput {t t' : Tree} (hp : Prepared q t t')
    (h : (q.convertInput t' i).failure = none) :
    (q.convertInput t i).failure = none ∧
      (q.convertInput t i).report = (q.convertInput t' i).report ∧
      Prepared q t (q.convertInput t' i).tree := by
  cases q.outcome i with
  | stopped why log heq => simp [heq] at h
  | failed hfate log summaries n heq =>
    rw [heq] at h
    rw [heq, heq, tree_notify]
    exact ⟨(notify_congr t t' _ _ _).1.trans h, (notify_congr t t' _ _ _).2, hp⟩
  | delivered table hjudge log summaries heq =>
    rw [heq] at h
    rw [heq, heq]
    exact hp.deliver h

/-! ## Other requests -/

variable {q i} in
/-- An input that fails changes no file. -/
theorem tree_convertInput_of_failed (h : q.accepts i = false) (t : Tree) :
    (q.convertInput t i).tree = t := by
  cases q.outcome i with
  | stopped why log heq => rw [heq]
  | failed hfate log summaries n heq => rw [heq, tree_notify]
  | delivered table hjudge log summaries heq =>
    rw [accepts, fate_of_accepted q i hjudge] at h
    cases htarget : q.target <;> simp [htarget, Fate.failed?] at h

variable {q i} in
/-- An input that is not rejected is converted alike without checks. -/
theorem convertInput_of_not_rejects (h : q.rejects i = false) (t : Tree) :
    { q with verify := false }.convertInput t i = q.convertInput t i := by
  have hjudge : { q with verify := false }.judge (Sql.read i.text).result =
      q.judge (Sql.read i.text).result := by
    rcases judge_cases q i with ⟨why, hread, -⟩ | ⟨table, why, -, hjudge⟩ | ⟨table, hread, hjudge⟩
    · rw [hread]
      rfl
    · rw [rejects, hjudge] at h
      cases h
    · rw [hjudge, hread]
      exact judge_of_not_verify rfl table
  rw [convertInput, convertInput]
  dsimp only
  rw [hjudge]
  rfl

end Request

end EntityMapper.Conversion
