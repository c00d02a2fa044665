import EntityMapper.Command.Arguments
import EntityMapper.Text.Letter

/-!
# Abbreviated options

Arguments whose long options can be shortened as long as they stay unambiguous.  Arguments that look
like negative numbers or hold blanks are operands, and the value of an option must not look like an
option itself.
-/

namespace EntityMapper.Command

variable {ι : Type}

/-- How an argument is taken. -/
inductive Reading (ι : Type) where
  | operand
  /-- An option in the given spelling, perhaps with a value. -/
  | option (spelling : String) (meaning : Meaning ι) (value : Option String)
  | unknown
  | ambiguous

/-- The spellings of options with their meanings. -/
def spelled (rules : List (OptionRule ι)) : List (String × Meaning ι) :=
  rules.flatMap fun rule => rule.spellings.map fun spelling => (spelling, rule.meaning)

/-- Whether a text is written like a negative number, with digits of any number system; a line feed
may end it. -/
def isNegativeNumber (argument : String) : Bool :=
  match argument.toList with
  | '-' :: cs =>
    let cs := if cs.getLast? = some '\n' then cs.dropLast else cs
    let whole := cs.takeWhile Text.isDecimal
    match cs.drop whole.length with
    | [] => whole != []
    | '.' :: fraction => fraction != [] && fraction.all Text.isDecimal
    | _ => false
  | _ => false

/-- The options that an argument can be short for, with the value that it gives. -/
def candidates (rules : List (OptionRule ι)) (argument : String) :
    List (String × Meaning ι × Option String) :=
  if isLong argument then
    let (name, value?) := splitValue argument
    (spelled rules).filterMap fun (spelling, meaning) =>
      if name.toList.isPrefixOf spelling.toList then some (spelling, meaning, value?) else none
  else
    let short := String.ofList (argument.toList.take 2)
    (spelled rules).filterMap fun (spelling, meaning) =>
      if spelling = short then
        some (spelling, meaning, some (String.ofList (argument.toList.drop 2)))
      else if argument.toList.isPrefixOf spelling.toList then some (spelling, meaning, none)
      else none

/-- How an argument is taken: an exact spelling first, then one with a value behind an equals sign,
then an abbreviation. -/
def takeArgument (rules : List (OptionRule ι)) (argument : String) : Reading ι :=
  if argument.toList.head? ≠ some '-' then .operand
  else
    match (spelled rules).lookup argument with
    | some meaning => .option argument meaning none
    | none =>
      if argument = "-" then .operand
      else
        let (name, value?) := splitValue argument
        match value?, (spelled rules).lookup name with
        | some value, some meaning => .option name meaning (some value)
        | _, _ =>
          match candidates rules argument with
          | _ :: _ :: _ => .ambiguous
          | [(spelling, meaning, value?)] => .option spelling meaning value?
          | [] =>
            if isNegativeNumber argument || argument.toList.contains ' ' then .operand
            else .unknown

/-- Whether an argument can be the value of an option before it. -/
def isValue (rules : List (OptionRule ι)) (argument : String) : Bool :=
  argument != "--" &&
    match takeArgument rules argument with
    | .operand => true
    | _ => false

/-- What an option with the given value stands for, and the arguments that are left; short options
without values can be joined. -/
def applyOption (rules : List (OptionRule ι)) :
    Nat → String → Meaning ι → Option String → List String →
      Except UsageError (List ι × List String)
  | _, _, .plain setting, none, following => .ok ([setting], following)
  | 0, spelling, .plain _, some _, _ => .error (.unwantedValue spelling)
  | fuel + 1, spelling, .plain setting, some value, following =>
    match value.toList with
    | [] => .error (.unwantedValue spelling)
    | c :: cs =>
      if isLong spelling then .error (.unwantedValue spelling)
      else
        let joined := String.ofList ['-', c]
        match (spelled rules).lookup joined with
        | none => .error (.unwantedValue spelling)
        | some meaning => do
          let more := if cs = [] then none else some (String.ofList cs)
          let (settings, following) ← applyOption rules fuel joined meaning more following
          return (setting :: settings, following)
  | _, _, .valued setting, some value, following => .ok ([setting value], following)
  | _, spelling, .valued setting, none, following =>
    match following with
    | value :: following =>
      if isValue rules value then .ok ([setting value], following)
      else .error (.missingValue spelling)
    | [] => .error (.missingValue spelling)

/-- Reads so many arguments at most, where it is known whether an option stands right before them:
two dashes between an option and the end are themselves an operand too many. -/
def readAbbreviatedWithin (rules : List (OptionRule ι)) :
    Nat → Bool → List String → Except UsageError (Arguments ι)
  | 0, _, _ => .ok {}
  | _, _, [] => .ok {}
  | fuel + 1, behindOption, argument :: following =>
    if argument = "--" then
      if behindOption ∧ following = [] then .error (.unexpectedOperand argument)
      else .ok { operands := following }
    else
      match takeArgument rules argument with
      | .operand => do
        return (← readAbbreviatedWithin rules fuel false following).withOperand argument
      | .unknown => .error (.unknownOption argument)
      | .ambiguous => .error (.ambiguousOption argument)
      | .option spelling meaning value? => do
        let (settings, following) ←
          applyOption rules argument.length spelling meaning value? following
        let rest ← readAbbreviatedWithin rules fuel true following
        return { rest with settings := settings ++ rest.settings }

/-- Reads arguments whose long options may be abbreviated. -/
def readAbbreviated (rules : List (OptionRule ι)) (arguments : List String) :
    Except UsageError (Arguments ι) :=
  readAbbreviatedWithin rules arguments.length false arguments

end EntityMapper.Command
