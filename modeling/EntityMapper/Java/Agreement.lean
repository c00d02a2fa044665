import EntityMapper.Java.Outline
import EntityMapper.Schema.Table
import EntityMapper.Text.Shown

/-!
# Agreement of source and table

Checks that a source text declares the class that stands for a table: the class has the table's
class name, and its fields are those of the columns in the same order.
-/

namespace EntityMapper.Java

/-- Why a source text is not accepted for a table. -/
inductive Disagreement where
  | noOutline (why : OutlineError)
  | className (expected found : String)
  | fields (expected found : List String)
  deriving DecidableEq, Repr

namespace Disagreement

/-- The wording of a disagreement. -/
def message : Disagreement → String
  | .noOutline .syntactic => "generated source is not valid Java: JavaSyntaxError('')"
  | .noOutline .lexical => "generated source is not valid Java: LexerError()"
  | .noOutline .unfinished => "generated source ends too early"
  | .noOutline .noType => "generated source declares no class"
  | .className expected found =>
    "class name mismatch: expected " ++ expected ++ ", got " ++ found
  | .fields expected found =>
    "field mismatch: expected " ++ Text.shownList expected ++ ", got " ++ Text.shownList found

end Disagreement

/-- The outline of a source text. -/
def outline (source : String) : Except Disagreement Outline :=
  (Outline.ofSource source).mapError .noOutline

/-- The outline of a source text that declares the class of a table. -/
def outlineFor (table : Schema.Table) (source : String) : Except Disagreement Outline := do
  let found ← outline source
  let expected := table.columns.map (·.fieldName)
  if found.name ≠ table.className then throw (.className table.className found.name)
  if found.fields ≠ expected then throw (.fields expected found.fields)
  return found

end EntityMapper.Java
