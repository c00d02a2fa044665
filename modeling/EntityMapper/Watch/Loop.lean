import EntityMapper.Watch.Watcher

/-!
# The watch loop

Watching a directory: an observer is started, and after every pause the files that are due are
converted, until the loop is interrupted or a conversion run ends early.  The observer is stopped in
either case.
-/

namespace EntityMapper.Watch

open File (AccessError Path Tree)

/-- What is asked of the observer of a directory, and the pauses between. -/
inductive Call where
  | schedule (path : Path)
  | start
  /-- A pause, before which the given paths are pending. -/
  | pause (pending : List Path)
  | stop
  | join
  deriving DecidableEq, Repr

/-- What happens during a pause: the clock may be set, and then files are modified. -/
structure Pause (τ : Type) where
  time : Option τ := none
  modified : List String := []
  deriving Repr

/-- How a watch ends. -/
inductive Ending where
  | interrupted
  | failed (why : Conversion.Failure)
  deriving DecidableEq, Repr

/-- What a watch has done by its end. -/
structure Session where
  calls : List Call
  run : Conversion.Run
  ending : Ending

variable {τ : Type} [Sub τ] [LE τ] [DecidableLE τ]

/-- The watcher after the files of a pause have been modified. -/
def Watcher.observeAll (w : Watcher τ) (now : τ) (paths : List String) : Watcher τ :=
  paths.foldl (fun w path => w.observe now { source := path }) w

/-- The rest of a watch from a clock on; the pauses end with an interruption. -/
def Watcher.loop (w : Watcher τ) (t : Tree) (clock : τ) : List (Pause τ) → Session
  | [] => ⟨[.pause w.pending.paths], { tree := t }, .interrupted⟩
  | p :: ps =>
    let now := p.time.getD clock
    let flushed := (w.observeAll now p.modified).flush t now
    let call := Call.pause w.pending.paths
    match flushed.run.failure with
    | some e => ⟨[call], flushed.run, .failed e⟩
    | none =>
      let rest := flushed.watcher.loop flushed.run.tree now ps
      { rest with
        calls := call :: rest.calls
        run := { rest.run with report := flushed.run.report ++ rest.run.report } }

/-- Why a path cannot be watched. -/
inductive WatchError where
  | noDirectory (path : Path)
  | access (why : AccessError)
  deriving DecidableEq, Repr

/-- The wording of the reason that there is no such directory. -/
def noDirectoryMessage (path : Path) : String :=
  "watch는 존재하는 디렉터리에서 사용하세요: " ++ path.toString

/-- Watches a directory from a clock on. -/
def watch (w : Watcher τ) (t : Tree) (clock : τ) (path : Path) (pauses : List (Pause τ)) :
    Except WatchError Session :=
  match t.isDirectory path with
  | .error e => .error (.access e)
  | .ok false => .error (.noDirectory path)
  | .ok true =>
    let session := w.loop t clock pauses
    .ok { session with calls := [.schedule path, .start] ++ session.calls ++ [.stop, .join] }

end EntityMapper.Watch
