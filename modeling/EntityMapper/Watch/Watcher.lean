import EntityMapper.Conversion.Run

/-!
# Watching for changes

A watcher remembers the SQL files that have changed and when each changed last.  A file is due when
it has been quiet for long enough; files that are due are taken out of the memory and converted.
Times are of any type with subtraction and an order.
-/

namespace EntityMapper.Watch

open File (Path Tree)

/-- What happened to a file. -/
inductive EventKind where
  | created
  | modified
  | moved
  | deleted
  | opened
  /-- Closed after writing. -/
  | closed
  /-- Closed without writing. -/
  | closedUnwritten
  /-- Anything else. -/
  | other
  deriving DecidableEq, Repr

/-- Something that happened to a file or directory. -/
structure Event where
  kind : EventKind := .modified
  isDirectory : Bool := false
  source : String := ""
  /-- Where a file was moved to. -/
  destination : Option String := none
  deriving DecidableEq, Repr

/-- The suffixes of the files that are watched. -/
def watchedSuffixes : List String :=
  [".sql", ".ddl"]

/-- The path that an event is judged by: where the file is now. -/
def Event.path (e : Event) : Path :=
  match e.destination with
  | some destination =>
    Path.ofString (if destination = "" then e.source else destination)
  | none => Path.ofString e.source

/-- Whether an event marks its path as changed. -/
def Event.isChange (e : Event) : Bool :=
  !e.isDirectory && e.kind != .deleted && watchedSuffixes.contains e.path.lowerSuffix

/-- The paths that have changed, in the order of their first changes, with the times of the last
ones. -/
abbrev Pending (τ : Type) := List (Path × τ)

variable {τ : Type}

/-- The pending paths after a change of a path, which keeps its place if it has one. -/
def Pending.mark (path : Path) (now : τ) : Pending τ → Pending τ
  | [] => [(path, now)]
  | (other, time) :: rest =>
    if other = path then (path, now) :: rest else (other, time) :: Pending.mark path now rest

/-- The pending paths after an event. -/
def Pending.observe (pending : Pending τ) (now : τ) (e : Event) : Pending τ :=
  if e.isChange then Pending.mark e.path now pending else pending

/-- The pending paths by themselves. -/
def Pending.paths (pending : Pending τ) : List Path :=
  pending.map (·.1)

section Time

variable [Sub τ] [LE τ] [DecidableLE τ]

/-- Whether a change is as long ago as a quiet period. -/
def isQuiet (quietPeriod now time : τ) : Bool :=
  decide (quietPeriod ≤ now - time)

/-- The paths that are due. -/
def Pending.due (pending : Pending τ) (quietPeriod now : τ) : List Path :=
  (pending.filter fun (_, time) => isQuiet quietPeriod now time).map (·.1)

/-- The pending paths that are not due. -/
def Pending.waiting (pending : Pending τ) (quietPeriod now : τ) : Pending τ :=
  pending.filter fun (_, time) => !isQuiet quietPeriod now time

/-- A watcher: what it asks of conversions, how long a file must be quiet, and what is pending. -/
structure Watcher (τ : Type) where
  request : Conversion.Request
  quietPeriod : τ
  pending : Pending τ := []

/-- The watcher after an event. -/
def Watcher.observe (w : Watcher τ) (now : τ) (e : Event) : Watcher τ :=
  { w with pending := w.pending.observe now e }

/-- Converts paths one after the other, each in a run of its own, until a run ends early. -/
def convertPaths (q : Conversion.Request) (t : Tree) : List Path → Conversion.Run
  | [] => { tree := t }
  | path :: paths =>
    let first := q.run t "" path.toString
    match first.failure with
    | some _ => first
    | none =>
      let rest := convertPaths q first.tree paths
      { rest with report := first.report ++ rest.report }

/-- What a flush yields: the watcher without the paths that were due, those paths, and the run of
their conversions. -/
structure Flush (τ : Type) where
  watcher : Watcher τ
  due : List Path
  run : Conversion.Run

/-- Takes the paths that are due out of the memory and converts them. -/
def Watcher.flush (w : Watcher τ) (t : Tree) (now : τ) : Flush τ :=
  let due := w.pending.due w.quietPeriod now
  { watcher := { w with pending := w.pending.waiting w.quietPeriod now }
    due := due
    run := convertPaths w.request t due }

end Time

end EntityMapper.Watch
