/-!
# Command line arguments

Arguments are read as options and operands.  In the strict form an option is written in full, short
options can be joined, and the value of an option stands in the same argument or is the next one,
whatever that looks like.
-/

namespace EntityMapper.Command

/-- What an option needs: nothing, or a value. -/
inductive Meaning (ι : Type) where
  | plain (setting : ι)
  | valued (setting : String → ι)

/-- An option: its spellings and what it stands for. -/
structure OptionRule (ι : Type) where
  spellings : List String
  meaning : Meaning ι

/-- Why arguments are not understood. -/
inductive UsageError where
  | unknownOption (option : String)
  | ambiguousOption (option : String)
  | missingValue (option : String)
  | unwantedValue (option : String)
  | missingOperand
  | unexpectedOperand (operand : String)
  | missingCommand
  | unknownCommand (command : String)
  | noSuchPath (path : String)
  | noDirectory (path : String)
  deriving DecidableEq, Repr

/-- The wording of the reason. -/
def UsageError.message : UsageError → String
  | .unknownOption option => "unknown option: " ++ option
  | .ambiguousOption option => "ambiguous option: " ++ option
  | .missingValue option => "option without a value: " ++ option
  | .unwantedValue option => "option that takes no value: " ++ option
  | .missingOperand => "no source is given"
  | .unexpectedOperand operand => "one argument too many: " ++ operand
  | .missingCommand => "no command is given"
  | .unknownCommand command => "unknown command: " ++ command
  | .noSuchPath path => "no such path: " ++ path
  | .noDirectory path => "no such directory: " ++ path

/-- Options that were read, in order, and the operands. -/
structure Arguments (ι : Type) where
  settings : List ι := []
  operands : List String := []

variable {ι : Type}

/-- The arguments with one more operand in front. -/
def Arguments.withOperand (operand : String) (a : Arguments ι) : Arguments ι :=
  { a with operands := operand :: a.operands }

/-- The option of a spelling. -/
def ruleOf? (rules : List (OptionRule ι)) (spelling : String) : Option (OptionRule ι) :=
  rules.find? fun rule => rule.spellings.contains spelling

/-- The text before the first equals sign, and the text after it if there is one. -/
def splitValue (argument : String) : String × Option String :=
  let cs := argument.toList
  let name := cs.takeWhile (· != '=')
  match cs.drop name.length with
  | [] => (argument, none)
  | _ :: value => (String.ofList name, some (String.ofList value))

/-- Whether an argument is written like an option. -/
def isOptionLike (argument : String) : Bool :=
  match argument.toList with
  | '-' :: _ :: _ => true
  | _ => false

/-- Whether an argument is written like a long option. -/
def isLong (argument : String) : Bool :=
  ['-', '-'].isPrefixOf argument.toList

/-- Reads joined short options, of which the letters are given, and takes a value from the rest of
the letters or from the arguments that follow. -/
def readShort (rules : List (OptionRule ι)) :
    List Char → List String → Except UsageError (List ι × List String)
  | [], following => .ok ([], following)
  | c :: cs, following =>
    let spelling := String.ofList ['-', c]
    match ruleOf? rules spelling with
    | none => .error (.unknownOption spelling)
    | some ⟨_, .plain setting⟩ => do
      let (settings, following) ← readShort rules cs following
      return (setting :: settings, following)
    | some ⟨_, .valued setting⟩ =>
      match cs, following with
      | [], [] => .error (.missingValue spelling)
      | [], value :: following => .ok ([setting value], following)
      | cs, following => .ok ([setting (String.ofList cs)], following)

/-- Reads an option with the arguments that follow it, and yields what it stands for and the
arguments that are left. -/
def readOption (rules : List (OptionRule ι)) (argument : String) (following : List String) :
    Except UsageError (List ι × List String) :=
  let (name, value?) := splitValue argument
  match (ruleOf? rules name).filter fun _ => isLong name with
  | some rule =>
    match rule.meaning, value?, following with
    | .plain setting, none, following => .ok ([setting], following)
    | .plain _, some _, _ => .error (.unwantedValue name)
    | .valued setting, some value, following => .ok ([setting value], following)
    | .valued setting, none, value :: following => .ok ([setting value], following)
    | .valued _, none, [] => .error (.missingValue name)
  | none =>
    if isLong argument then .error (.unknownOption name)
    else readShort rules (argument.toList.drop 1) following

/-- Reads so many arguments at most; where options may not follow operands, the first operand ends
the options. -/
def readWithin (rules : List (OptionRule ι)) (mixed : Bool) :
    Nat → List String → Except UsageError (Arguments ι)
  | 0, _ => .ok {}
  | _, [] => .ok {}
  | fuel + 1, argument :: following =>
    if argument = "--" then .ok { operands := following }
    else if isOptionLike argument then do
      let (settings, following) ← readOption rules argument following
      let rest ← readWithin rules mixed fuel following
      return { rest with settings := settings ++ rest.settings }
    else if mixed then do
      return (← readWithin rules mixed fuel following).withOperand argument
    else .ok { operands := argument :: following }

/-- Reads arguments in which options and operands may be mixed. -/
def readMixed (rules : List (OptionRule ι)) (arguments : List String) :
    Except UsageError (Arguments ι) :=
  readWithin rules true arguments.length arguments

/-- Reads arguments in which the options come first. -/
def readLeading (rules : List (OptionRule ι)) (arguments : List String) :
    Except UsageError (Arguments ι) :=
  readWithin rules false arguments.length arguments

/-- The only operand. -/
def Arguments.soleOperand (a : Arguments ι) : Except UsageError String :=
  match a.operands with
  | [] => .error .missingOperand
  | [operand] => .ok operand
  | _ :: operand :: _ => .error (.unexpectedOperand operand)

/-- Checks that there is no operand. -/
def Arguments.noOperand (a : Arguments ι) : Except UsageError Unit :=
  match a.operands with
  | [] => .ok ()
  | operand :: _ => .error (.unexpectedOperand operand)

end EntityMapper.Command
