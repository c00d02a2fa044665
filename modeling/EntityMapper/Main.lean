import EntityMapper.Command.Program

/-!
# The command line

Loads the files that the arguments name, runs the program with commands on them, and writes the
files that it leaves behind.  A directory that is watched is loaded again after every pause, and the
files that have changed are what the watcher observes.
-/

namespace EntityMapper.Shell

open File (Path Place Tree)

/-- The name of a place for the operating system. -/
def placeName (place : Place) : String :=
  "/" ++ "/".intercalate place

/-- The outcome of an action, if it succeeds. -/
def attempt {α : Type} (action : IO α) : IO (Option α) := do
  try return some (← action)
  catch _ => return none

/-- The names in the directory at a place, if it is one. -/
def listing? (place : Place) : IO (Option (List String)) :=
  attempt do
    let directory ← IO.FS.realPath (placeName place)
    return ((← directory.readDir).map (·.fileName)).toList

/-- The tree with what stands at a place and below it, so many directories deep. -/
def load : Nat → Tree → Place → IO Tree
  | 0, t, _ => return t
  | depth + 1, t, place => do
    match ← attempt (IO.FS.readBinFile (placeName place)) with
    | some bytes => return t.put place bytes.toList
    | none =>
      match ← listing? place with
      | none => return t
      | some names =>
        names.foldlM (fun t name => load depth t (place ++ [name])) (t.addDirectory place)

/-- The tree with what a path leads to, and with the directories on the way. -/
def loadPath (t : Tree) (p : Path) : IO Tree := do
  let mut t := t
  for n in List.range p.names.length do
    if let .ok (some place) := t.find ⟨p.root, p.names.take n⟩ then
      if (← listing? place).isSome then t := t.addDirectory place
  match t.find p with
  | .ok (some place) => load 64 t place
  | _ => return t

/-- Writes the directories and files by which a tree differs from one before. -/
def save (t before : Tree) : IO Unit := do
  for place in t.directories do
    if !before.isDirectoryAt place then IO.FS.createDirAll (placeName place)
  for (place, bytes) in t.changesSince before do
    IO.FS.writeBinFile (placeName place) ⟨bytes.toArray⟩

/-- The text of the standard input. -/
def readInput : IO String := do
  let input ← IO.getStdin
  let mut bytes : ByteArray := ByteArray.empty
  repeat
    let more ← input.read 65536
    if more.isEmpty then break
    bytes := bytes ++ more
  return String.ofList (Text.decodeUtf8 bytes.toList)

/-- The variables of the environment that hold settings. -/
def environment : IO (List (String × String)) := do
  let names :=
    ["ENTITY_OUTPUT_DIR", "ENTITY_LOG_LEVEL", "ENTITY_JPA", "ENTITY_LOMBOK", "ENTITY_JACKSON",
     "ENTITY_ACCESSORS"]
  let given ← names.mapM fun name => return (name, ← IO.getEnv name)
  return given.filterMap fun (name, value?) => value?.map fun value => (name, value)

/-- What is said when a run ends early. -/
def failureMessage : Conversion.Failure → String
  | .access _ => "a file could not be reached or written"
  | .markup why => why.message

/-- Watches a directory for as long as the process runs. -/
def watchForever (home : Place) (path : Path) (request : Conversion.Request) : IO Unit := do
  let mut before ← loadPath { home := home } path
  let mut watcher : Watch.Watcher Nat := { request := request, quietPeriod := 800 }
  repeat
    IO.sleep 200
    let t ← loadPath { home := home } path
    let now ← IO.monoMsNow
    for (place, _) in t.changesSince before do
      watcher := watcher.observe now { source := placeName place }
    let flush := watcher.flush t now
    save flush.run.tree t
    IO.eprint flush.run.report.noticeText
    if let some why := flush.run.failure then throw (IO.userError (failureMessage why))
    watcher := flush.watcher
    before := flush.run.tree

/-- What help says. -/
def usage : String :=
  "usage: [--log-level LEVEL] convert SOURCE | example [--convert] | watch DIRECTORY\n" ++
  "options: --[no-]jpa --[no-]lombok --[no-]jackson --[no-]accessors --out-dir DIRECTORY\n" ++
  "convert: --stdout --verify --summary; a SOURCE of - is the standard input"

/-- Runs the program with commands on arguments, and returns its exit code. -/
def runProgram (arguments : List String) : IO UInt32 := do
  let home := (Path.ofString (← IO.FS.realPath ".").toString).names
  let file ← attempt (IO.FS.readBinFile ".env")
  match Settings.read (← environment) (file.map (·.toList)) with
  | .error (.encoding why) =>
    IO.eprintln why.message
    return 1
  | .error (.refused refusals) =>
    for r in refusals do IO.eprintln (r.name ++ " is neither true nor false")
    return 1
  | .ok settings =>
    let start : Tree := { home := home }
    let tree ← (arguments.map Path.ofString).foldlM loadPath start
    let input ← if arguments.contains "-" then readInput else pure ""
    let outcome := Command.run .commands ⟨tree, input, settings⟩ arguments
    IO.print outcome.printed
    (← IO.getStdout).flush
    IO.eprint outcome.notices
    save outcome.tree tree
    match outcome.ending with
    | .finished _ => pure ()
    | .help => IO.println usage
    | .misuse why => IO.eprintln why.message
    | .crash (.unknownLogLevel level) => IO.eprintln ("unknown log level: " ++ level)
    | .crash (.failure why) => IO.eprintln (failureMessage why)
    | .watching path request => watchForever home path request
    return outcome.ending.code.toUInt32

end EntityMapper.Shell

/-- The program with commands. -/
def main (arguments : List String) : IO UInt32 :=
  EntityMapper.Shell.runProgram arguments
