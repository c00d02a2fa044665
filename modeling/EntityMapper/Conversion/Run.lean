import EntityMapper.Conversion.Report

/-!
# Conversion runs

A run converts each of its inputs in order.  An input fails if it declares no table or, where that
is asked for, if its class text does not agree with the table; otherwise the class text is printed
or written to a file named for the class.  A file that cannot be reached or written ends the run,
and so does a notice or a summary that cannot be shown.
-/

namespace EntityMapper.Conversion

open File (AccessError Path Tree)

/-- Where class texts go. -/
inductive Target where
  | console
  | directory (path : Path)
  deriving DecidableEq, Repr

/-- What is done with summaries of tables. -/
inductive Summaries where
  | none
  /-- They are kept in the report. -/
  | kept
  /-- They are drawn on the console as well. -/
  | drawn
  deriving DecidableEq, Repr

/-- What is asked of a run. -/
structure Request where
  options : Java.Options := {}
  target : Target := .directory ⟨.here, ["out"]⟩
  /-- Whether class texts are checked against their tables. -/
  verify : Bool := false
  summaries : Summaries := .none
  deriving DecidableEq, Repr

/-- A text to convert and the name that it goes by. -/
structure Input where
  label : String
  text : String
  deriving DecidableEq, Repr

/-- The inputs that a source stands for: standard input for a dash, and files otherwise. -/
def inputs (t : Tree) (standardInput source : String) : Except AccessError (List Input) :=
  if source = "-" then .ok [⟨"<stdin>", standardInput⟩]
  else
    (File.scan t {} (Path.ofString source)).map fun files =>
      files.map fun file => ⟨file.path.toString, file.text⟩

/-- Why a run has ended early. -/
inductive Failure where
  | access (why : AccessError)
  | markup (why : Text.MarkupError)
  deriving DecidableEq, Repr

/-- The state of a run: the files, the report so far, and why the run has ended, if it has. -/
structure Run where
  tree : Tree
  report : Report := {}
  failure : Option Failure := none
  deriving DecidableEq, Repr

/-- A run after a notice, which ends the run if it cannot be shown; what follows from the notice is
reported only if it can. -/
def Run.notify (run : Run) (n : Notice) (following : Report := {}) : Run :=
  match n.text with
  | .ok _ => { run with report := run.report ++ { notices := [n] } ++ following }
  | .error why => { run with failure := some (.markup why) }

/-- The file of a class in a directory. -/
def classFile (directory : Path) (className : String) : Path :=
  directory.join (Path.ofString (className ++ ".java"))

/-- Writes a class text into a directory, which is made if it is missing. -/
def writeClass (t : Tree) (directory : Path) (className text : String) :
    Tree × Except AccessError Path :=
  match t.makeDirectory directory with
  | (t, some e) => (t, .error e)
  | (t, none) =>
    let file := classFile directory className
    match t.write file text with
    | .ok t => (t, .ok file)
    | .error e => (t, .error e)

/-- What becomes of an input before anything is written. -/
inductive Verdict where
  | unreadable (why : Sql.ReadingFailure)
  | rejected (table : Schema.Table) (why : Java.Disagreement)
  | accepted (table : Schema.Table) (text : String)
  deriving DecidableEq, Repr

/-- Judges what an input declares. -/
def Request.judge (q : Request) (declared : Except Sql.ReadingFailure Schema.Table) : Verdict :=
  match declared with
  | .error why => .unreadable why
  | .ok table =>
    let text := Java.classText q.options table
    if q.verify then
      match Java.outlineFor table text with
      | .error why => .rejected table why
      | .ok _ => .accepted table text
    else .accepted table text

/-- Delivers the class text of a table, where a report is given to begin with. -/
def Request.deliver (q : Request) (t : Tree) (r : Report) (table : Schema.Table) (text : String) :
    Run :=
  match q.target with
  | .console => { tree := t, report := r ++ { printed := Text.onConsole text } }
  | .directory directory =>
    match writeClass t directory table.className text with
    | (t, .ok path) => Run.notify ⟨t, r ++ { written := [path] }, none⟩ (.written path)
    | (t, .error e) => ⟨t, r, some (.access e)⟩

/-- The summary that a request asks for. -/
def Request.summary (q : Request) (declared : Except Sql.ReadingFailure Schema.Table) :
    Except Text.MarkupError Report :=
  match q.summaries, declared with
  | .kept, .ok table => .ok { summaries := [table] }
  | .drawn, .ok table => (checkSummary table).map fun _ => { summaries := [table] }
  | _, _ => .ok {}

/-- Converts one input. -/
def Request.convertInput (q : Request) (t : Tree) (i : Input) : Run :=
  let reading := Sql.read i.text
  let read : Report := { log := reading.remarks.map .remark }
  match q.summary reading.result with
  | .error why => ⟨t, read, some (.markup why)⟩
  | .ok summary =>
    let failed : Report := { failed := [i.label] }
    match q.judge reading.result with
    | .unreadable why =>
      let logged := read ++ { log := [.unreadable i.label why] }
      Run.notify ⟨t, logged, none⟩ (.unreadable i.label) failed
    | .rejected _ why => Run.notify ⟨t, read ++ summary, none⟩ (.rejected i.label why) failed
    | .accepted table text => q.deliver t (read ++ summary) table text

/-- Converts inputs in order until the run ends. -/
def Request.convertAll (q : Request) (t : Tree) : List Input → Run
  | [] => { tree := t }
  | i :: is =>
    let first := q.convertInput t i
    match first.failure with
    | some _ => first
    | none =>
      let rest := q.convertAll first.tree is
      { rest with report := first.report ++ rest.report }

/-- Runs a conversion of a source. -/
def Request.run (q : Request) (t : Tree) (standardInput source : String) : Run :=
  match inputs t standardInput source with
  | .error e => { tree := t, failure := some (.access e) }
  | .ok is =>
    let run := q.convertAll t is
    { run with report := { notices := [.found is.length] } ++ run.report }

end EntityMapper.Conversion
