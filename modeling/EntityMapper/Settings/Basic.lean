import EntityMapper.File.Path
import EntityMapper.Settings.Assignments
import EntityMapper.Settings.Options
import EntityMapper.Text.Utf8

/-!
# Settings

The defaults that the environment and an assignment file set: where classes are written, how they
are generated, and which messages are logged.  Names are compared without case, the last value given
for a name counts, and the environment has precedence over the file.
-/

namespace EntityMapper

/-- The settings of the program. -/
structure Settings where
  outputDirectory : File.Path := ⟨.here, ["out"]⟩
  options : Java.Options := {}
  logLevel : String := "WARNING"
  deriving DecidableEq, Repr

namespace Settings

/-- The names of the variables that set the options. -/
def flagVariables : FlagNames :=
  ⟨"ENTITY_JPA", "ENTITY_LOMBOK", "ENTITY_JACKSON", "ENTITY_ACCESSORS"⟩

/-- The value that variables give a name, the last one if there are several. -/
def valueOf? (given : List (String × String)) (name : String) : Option String :=
  let key := Text.lower name.toList
  (given.reverse.find? fun (k, _) => Text.lower k.toList = key).map (·.2)

/-- The value that an assignment file gives to a name: of its spellings the one that comes up last
counts, and of that the last assignment; one without a value takes the value away. -/
def assignedTo? (file : List Assignment) (name : String) : Option String := do
  let key := Text.lower name.toList
  let spellings := (file.map (·.1)).filter fun k => Text.lower k = key
  let spelling ← spellings.eraseDups.getLast?
  let (_, value?) ← file.reverse.find? (·.1 = spelling)
  return String.ofList (← value?)

/-- Why settings cannot be read. -/
inductive ReadError where
  /-- The assignment file is not well formed. -/
  | encoding (why : Text.DecodingError)
  | refused (values : List Refusal)
  deriving DecidableEq, Repr

/-- The text of an assignment file, without the mark that can stand at its beginning. -/
def fileText (bytes : List UInt8) : Except Text.DecodingError (List Char) := do
  match ← Text.decodeStrictly bytes with
  | '\ufeff' :: cs => return cs
  | cs => return cs

/-- The settings that an environment and the bytes of an assignment file make. -/
def read (environment : List (String × String)) (file : Option (List UInt8)) :
    Except ReadError Settings := do
  let text ← (fileText (file.getD [])).mapError .encoding
  let assigned := assignments environment text
  let given (name : String) : Option String :=
    valueOf? environment name <|> assignedTo? assigned name
  let names :=
    [flagVariables.jpa, flagVariables.lombok, flagVariables.jackson, flagVariables.accessors]
  let flags := names.filterMap fun name => (given name).map fun value => (name, Given.text value)
  let options ← (optionsFrom flagVariables flags).mapError .refused
  let default : Settings := {}
  return {
    outputDirectory :=
      ((given "ENTITY_OUTPUT_DIR").map File.Path.ofString).getD default.outputDirectory
    options := options
    logLevel := (given "ENTITY_LOG_LEVEL").getD default.logLevel }

end Settings

end EntityMapper
