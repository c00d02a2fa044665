/-!
# Flag values

Values of any kind that are given for a flag, and which of them are understood: truth values, zero
and one, and the usual words in any letter case.
-/

namespace EntityMapper.Settings

/-- A value given for a flag. -/
inductive Given where
  | truth (b : Bool)
  | whole (n : Int)
  | real (x : Float)
  | text (s : String)
  /-- No value, a list or a record. -/
  | other

/-- Why a value is no flag. -/
inductive FlagError where
  /-- The value is of a kind that flags can be given in, but stands for none. -/
  | unreadable
  /-- The value is of another kind. -/
  | wrongKind
  /-- The flag cannot be changed once it is set. -/
  | fixed
  deriving DecidableEq, Repr

/-- The words that switch a flag on. -/
def onWords : List String := ["1", "true", "t", "yes", "y", "on"]

/-- The words that switch a flag off. -/
def offWords : List String := ["0", "false", "f", "no", "n", "off"]

/-- The flag that a text stands for; only ASCII letters are compared without case. -/
def readFlag (s : String) : Except FlagError Bool :=
  let word := String.ofList (s.toList.map Char.toLower)
  if word ∈ onWords then .ok true
  else if word ∈ offWords then .ok false
  else .error .unreadable

/-- Whether a real number is a whole number within the range of 64 bits, both ends left out. -/
def isWhole (x : Float) : Bool :=
  x.floor == x && -9223372036854775808.0 < x && x < 9223372036854775808.0

/-- The flag that a value stands for. -/
def Given.flag : Given → Except FlagError Bool
  | .truth b => .ok b
  | .whole 0 => .ok false
  | .whole 1 => .ok true
  | .whole n =>
    .error (if Int64.minValue.toInt ≤ n ∧ n ≤ Int64.maxValue.toInt then .unreadable
      else .wrongKind)
  | .real x =>
    if x == 0 then .ok false
    else if x == 1 then .ok true
    else .error (if isWhole x then .unreadable else .wrongKind)
  | .text s => readFlag s
  | .other => .error .wrongKind

/-- A value that was refused: the name that it was given for and the reason. -/
structure Refusal where
  name : String
  reason : FlagError
  deriving DecidableEq, Repr

/-- The flag given under a name, the default if there is none, or the refusal. -/
def flagNamed (given : List (String × Given)) (name : String) (default : Bool) :
    Except Refusal Bool :=
  match given.lookup name with
  | none => .ok default
  | some value => value.flag.mapError fun reason => ⟨name, reason⟩

/-- The refusals among results. -/
def refusals (results : List (Except Refusal Bool)) : List Refusal :=
  results.filterMap fun
    | .error r => some r
    | .ok _ => none

end EntityMapper.Settings
