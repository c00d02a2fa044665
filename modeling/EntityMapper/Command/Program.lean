import EntityMapper.Command.Abbreviated
import EntityMapper.Settings.Basic
import EntityMapper.Watch.Loop

/-!
# The programs

The three ways to call the converter: a program with the commands convert, example and watch, a
program that only converts, and a plain program whose options can be abbreviated.  A call ends with
its work done, with help, as misused, with a crash, or by going on to watch a directory.
-/

namespace EntityMapper.Command

open Conversion (Failure)
open File (Path Tree)

/-- A way to call the converter. -/
inductive Program where
  /-- With commands. -/
  | commands
  /-- For conversions alone. -/
  | converter
  /-- For conversions alone, with options that can be abbreviated. -/
  | plain
  deriving DecidableEq, Repr

/-- What is given when a program is called: the files, the standard input and the settings. -/
structure Surroundings where
  tree : Tree := {}
  standardInput : String := ""
  settings : Settings := {}

/-- Why a program crashes. -/
inductive Crash where
  | failure (why : Failure)
  | unknownLogLevel (level : String)
  deriving DecidableEq, Repr

/-- How a call ends. -/
inductive Ending where
  /-- The work is done, and it is known whether all of it succeeded. -/
  | finished (ok : Bool)
  /-- Help is shown. -/
  | help
  | misuse (why : UsageError)
  | crash (why : Crash)
  /-- The directory is watched from now on. -/
  | watching (path : Path) (request : Conversion.Request)
  deriving DecidableEq, Repr

/-- The exit code that tells an ending. -/
def Ending.code : Ending → Nat
  | .finished true | .help | .watching _ _ => 0
  | .finished false | .crash _ => 1
  | .misuse _ => 2

/-- What a call leaves behind. -/
structure Outcome where
  ending : Ending
  printed : String := ""
  notices : String := ""
  tree : Tree
  deriving DecidableEq, Repr

/-! ## Options -/

/-- What options of conversions set. -/
inductive Setting where
  | jpa (on : Bool)
  | lombok (on : Bool)
  | jackson (on : Bool)
  | accessors (on : Bool)
  /-- The directory of classes, the default one if none is named. -/
  | directory (path : Option String)
  | console
  | verify
  | summarize
  | help
  deriving DecidableEq, Repr

/-- A pair of options that switch something on and off. -/
def switch (name : String) (setting : Bool → Setting) : List (OptionRule Setting) :=
  [⟨["--" ++ name], .plain (setting true)⟩, ⟨["--no-" ++ name], .plain (setting false)⟩]

/-- The option that asks for help. -/
def helpRule : OptionRule Setting := ⟨["--help"], .plain .help⟩

/-- The options that watching shares with converting. -/
def generationRules : List (OptionRule Setting) :=
  switch "jpa" .jpa ++ switch "lombok" .lombok ++ switch "jackson" .jackson ++
    switch "accessors" .accessors ++
    [⟨["--out-dir", "-o"], .valued fun path => .directory (some path)⟩, helpRule]

/-- The options of the program that only converts. -/
def converterRules : List (OptionRule Setting) :=
  generationRules ++ [⟨["--stdout"], .plain .console⟩, ⟨["--verify"], .plain .verify⟩]

/-- The options of the command that converts. -/
def convertRules : List (OptionRule Setting) :=
  converterRules ++ [⟨["--summary"], .plain .summarize⟩]

/-- The directory that a value names for the plain program; two dashes name none. -/
def plainDirectory (value : String) : Setting :=
  .directory (if value = "--" then none else some value)

/-- The options of the plain program. -/
def plainRules : List (OptionRule Setting) :=
  [⟨["-h", "--help"], .plain .help⟩,
   ⟨["--no-jpa"], .plain (.jpa false)⟩,
   ⟨["--no-lombok"], .plain (.lombok false)⟩,
   ⟨["--no-jackson"], .plain (.jackson false)⟩,
   ⟨["--no-accessors"], .plain (.accessors false)⟩,
   ⟨["--out-dir", "-o"], .valued plainDirectory⟩,
   ⟨["--stdout"], .plain .console⟩]

/-- A request after a setting has been applied; later settings win. -/
def Setting.apply (q : Conversion.Request) : Setting → Conversion.Request
  | .jpa on => { q with options := { q.options with jpa := on } }
  | .lombok on => { q with options := { q.options with lombok := on } }
  | .jackson on => { q with options := { q.options with jackson := on } }
  | .accessors on => { q with options := { q.options with accessors := on } }
  | .verify => { q with verify := true }
  | .summarize => { q with summaries := .drawn }
  | .directory _ | .console | .help => q

/-- The directory that the last setting of one names. -/
def directoryOf? (settings : List Setting) : Option String :=
  settings.foldl (fun found setting => match setting with
    | .directory path => path
    | _ => found) none

/-- The request that settings make, where the options to begin with and the default directory are
given. -/
def requestOf (options : Java.Options) (default : Path) (settings : List Setting) :
    Conversion.Request :=
  let target :=
    if .console ∈ settings then .console
    else .directory (((directoryOf? settings).map Path.ofString).getD default)
  settings.foldl Setting.apply { options := options, target := target }

/-! ## Calls -/

/-- The outcome of a call that ends at once. -/
def Surroundings.leave (s : Surroundings) (ending : Ending) : Outcome :=
  { ending := ending, tree := s.tree }

/-- The outcome of a call with the given arguments: help if they ask for it, and otherwise what a
further step makes of them, which may find them misused. -/
def Surroundings.call {ι : Type} [DecidableEq ι] (s : Surroundings) (help : ι)
    (arguments : Except UsageError (Arguments ι))
    (further : Arguments ι → Except UsageError Outcome) : Outcome :=
  match arguments with
  | .error why => s.leave (.misuse why)
  | .ok a =>
    if help ∈ a.settings then s.leave .help
    else
      match further a with
      | .error why => s.leave (.misuse why)
      | .ok outcome => outcome

/-- The outcome of a conversion run. -/
def outcomeOf (run : Conversion.Run) : Outcome where
  ending := match run.failure with
    | some why => .crash (.failure why)
    | none => .finished run.report.ok
  printed := run.report.printed
  notices := run.report.noticeText
  tree := run.tree

/-- The crash that a path with a null character leads to, since nothing can be looked up there. -/
def checkPath (path : String) : Except Crash Unit :=
  if (Path.ofString path).hasNull then .error (.failure (.access .nullCharacter)) else .ok ()

/-- Goes on if a check does not crash. -/
def Surroundings.unlessCrash (s : Surroundings) (check : Except Crash Unit)
    (further : Except UsageError Outcome) : Except UsageError Outcome :=
  match check with
  | .error why => .ok (s.leave (.crash why))
  | .ok () => further

/-- Converts the source that arguments name, which must exist; once the arguments are understood, a
check comes first. -/
def convertCommand (s : Surroundings) (rules : List (OptionRule Setting))
    (check : Except Crash Unit) (arguments : List String) : Outcome :=
  s.call .help (readMixed rules arguments) fun a =>
    s.unlessCrash ((directoryOf? a.settings).toList.forM checkPath) do
      let source ← a.soleOperand
      s.unlessCrash check do
        if source ≠ "-" then
          match s.tree.exists_ (Path.ofString source) with
          | .error why => return s.leave (.crash (.failure (.access why)))
          | .ok found => if !found then throw (.noSuchPath source)
        let request := requestOf s.settings.options s.settings.outputDirectory a.settings
        let input := String.ofList (Text.normalizeLines s.standardInput.toList)
        return outcomeOf (request.run s.tree input source)

/-- The example declaration. -/
def exampleSql : String :=
  "CREATE TABLE user_account (\n" ++
  "    id BIGINT PRIMARY KEY AUTO_INCREMENT,\n" ++
  "    user_name VARCHAR(100) NOT NULL,\n" ++
  "    email VARCHAR(255) NOT NULL,\n" ++
  "    created_at TIMESTAMP,\n" ++
  "    is_active BOOLEAN DEFAULT true,\n" ++
  "    balance DECIMAL(10,2)\n" ++
  ");"

/-- Whether the example is shown converted. -/
inductive ExampleSetting where
  | convert
  | help
  deriving DecidableEq, Repr

/-- Shows the example declaration or its class. -/
def exampleCommand (s : Surroundings) (arguments : List String) : Outcome :=
  let rules : List (OptionRule ExampleSetting) :=
    [⟨["--convert"], .plain .convert⟩, ⟨["--help"], .plain .help⟩]
  s.call .help (readMixed rules arguments) fun a => do
    a.noOperand
    let text :=
      if .convert ∈ a.settings then Conversion.convert s.settings.options exampleSql
      else exampleSql ++ "\n"
    return { ending := .finished true, printed := Text.onConsole text, tree := s.tree }

/-- The markup of the line that announces that a path is watched. -/
def watchMarkup (path : Path) : String :=
  "[bold]Watching[/bold] " ++ path.toString ++ " (Ctrl+C to stop)"

/-- How an announced watch of a path goes on. -/
def watchEnding (t : Tree) (path : Path) (request : Conversion.Request) : Ending :=
  match t.isDirectory path with
  | .error why => .crash (.failure (.access why))
  | .ok false => .misuse (.noDirectory path.toString)
  | .ok true => .watching path request

/-- Announces that a directory is watched, and goes on to watch it if it is one. -/
def watchCommand (s : Surroundings) (arguments : List String) : Outcome :=
  s.call .help (readMixed generationRules arguments) fun a =>
    let paths := (directoryOf? a.settings).toList ++ a.operands.take 1
    s.unlessCrash (paths.forM checkPath) do
      let path := Path.ofString (← a.soleOperand)
      let request := requestOf s.settings.options s.settings.outputDirectory a.settings
      match Text.showMarkup (watchMarkup path) with
      | .error why => return s.leave (.crash (.failure (.markup why)))
      | .ok text =>
        return {
          ending := watchEnding s.tree path request
          printed := Text.wrapped text ++ "\n"
          tree := s.tree }

/-- What the options before a command set. -/
inductive CommonSetting where
  | logLevel (level : String)
  | help
  deriving DecidableEq, Repr

/-- The names of log levels. -/
def logLevels : List String :=
  ["CRITICAL", "FATAL", "ERROR", "WARN", "WARNING", "INFO", "DEBUG", "NOTSET"]

/-- The log level that settings ask for, if it is known; an empty name asks for the default. -/
def checkLogLevel (s : Surroundings) (given : List CommonSetting) : Except Crash Unit :=
  let asked := given.foldl (fun found setting => match setting with
    | .logLevel level => level
    | .help => found) ""
  let level := if asked = "" then s.settings.logLevel else asked
  if String.ofList (Text.upper level.toList) ∈ logLevels then .ok ()
  else .error (.unknownLogLevel level)

/-- Runs the program with commands. -/
def runCommands (s : Surroundings) (arguments : List String) : Outcome :=
  let rules : List (OptionRule CommonSetting) :=
    [⟨["--log-level"], .valued .logLevel⟩, ⟨["--help"], .plain .help⟩]
  s.call .help (readLeading rules arguments) fun a => do
    let command ← match a.operands with
      | [] => throw .missingCommand
      | "convert" :: _ => pure (convertCommand s convertRules (.ok ()))
      | "example" :: _ => pure (exampleCommand s)
      | "watch" :: _ => pure (watchCommand s)
      | command :: _ => throw (.unknownCommand command)
    s.unlessCrash (checkLogLevel s a.settings) (.ok (command a.operands.tail))

/-- Runs the program that only converts. -/
def runConverter (s : Surroundings) (arguments : List String) : Outcome :=
  convertCommand s converterRules (checkLogLevel s []) arguments

/-- Runs the plain program, which converts whatever the source stands for. -/
def runPlain (s : Surroundings) (arguments : List String) : Outcome :=
  s.call .help (readAbbreviated plainRules arguments) fun a => do
    let source ← a.soleOperand
    let request := requestOf {} s.settings.outputDirectory a.settings
    return outcomeOf (request.run s.tree s.standardInput source)

/-- Runs a program. -/
def run : Program → Surroundings → List String → Outcome
  | .commands => runCommands
  | .converter => runConverter
  | .plain => runPlain

end EntityMapper.Command
