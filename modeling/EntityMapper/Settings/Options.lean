import EntityMapper.Java.Options
import EntityMapper.Settings.Flag

/-!
# Options from given values

Generation options are built from values given under four names; all values that are refused are
reported together.  Options that have been built do not change.
-/

namespace EntityMapper.Settings

open Java (Options)

/-- The names under which the four flags are given. -/
structure FlagNames where
  jpa : String
  lombok : String
  jackson : String
  accessors : String

/-- The names of the options. -/
def optionNames : FlagNames :=
  ⟨"jpa", "lombok", "jackson", "generate_accessors"⟩

/-- The options given under the names, or the refusals. -/
def optionsFrom (names : FlagNames) (given : List (String × Given)) :
    Except (List Refusal) Options :=
  let jpa := flagNamed given names.jpa true
  let lombok := flagNamed given names.lombok true
  let jackson := flagNamed given names.jackson true
  let accessors := flagNamed given names.accessors true
  match jpa, lombok, jackson, accessors with
  | .ok jpa, .ok lombok, .ok jackson, .ok accessors => .ok ⟨jpa, lombok, jackson, accessors⟩
  | _, _, _, _ => .error (refusals [jpa, lombok, jackson, accessors])

/-- Setting an option of existing options, which is always refused. -/
def setOption (_ : Options) (name : String) : Except (List Refusal) Options :=
  .error [⟨name, .fixed⟩]

end EntityMapper.Settings
