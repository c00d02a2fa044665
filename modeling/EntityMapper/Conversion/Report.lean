import EntityMapper.File.Scan
import EntityMapper.Java.Agreement
import EntityMapper.Java.ClassText
import EntityMapper.Text.Console
import EntityMapper.Text.Markup

/-!
# Conversion reports

What a conversion leaves behind besides files: which classes were written and which inputs failed,
the text that was printed, notices for the user, log records, and the tables that were summarised.
Reports of consecutive inputs are put together by appending them.
-/

namespace EntityMapper.Conversion

open Schema

/-- The text that takes the place of a class where no table is declared. -/
def failureText : String :=
  "// Error: Could not parse the SQL. Check the syntax."

/-- The class text of the table that an SQL text declares, or the failure text. -/
def convert (o : Java.Options) (sql : String) : String :=
  match (Sql.read sql).result with
  | .ok table => Java.classText o table
  | .error _ => failureText

/-- A notice for the user. -/
inductive Notice where
  | found (inputs : Nat)
  | unreadable (label : String)
  | rejected (label : String) (why : Java.Disagreement)
  | written (path : File.Path)
  deriving DecidableEq, Repr

/-- The markup of a notice.  Labels and paths are part of it, so what is written like a tag in them
counts as one. -/
def Notice.markup : Notice → String
  | .found inputs => "Found [green]" ++ toString inputs ++ "[/green] SQL input(s)"
  | .unreadable label => "[red]" ++ label ++ ":[/red] " ++ failureText
  | .rejected label why => "[red]" ++ label ++ ":[/red] " ++ why.message
  | .written path => "[bold green]Java:[/bold green] " ++ path.toString

/-- The line that shows a notice, if its markup is well formed. -/
def Notice.text (n : Notice) : Except Text.MarkupError String :=
  (Text.showMarkup n.markup).map Text.onConsole

/-- A record of the log. -/
inductive Record where
  | remark (r : Sql.Remark)
  | unreadable (label : String) (why : Sql.ReadingFailure)
  deriving DecidableEq, Repr

/-- How much a record matters. -/
def Record.severity : Record → Severity
  | .remark r => r.severity
  | .unreadable _ _ => .info

/-- The wording of a record. -/
def Record.message : Record → String
  | .remark r => r.message
  | .unreadable label why => "Parse failed for " ++ label ++ ": " ++ why.name

/-! ## Summaries -/

/-- The title of a table's summary. -/
def summaryTitle (t : Table) : String :=
  t.name ++ " → " ++ t.className

/-- The headings of a summary. -/
def summaryHeader : List String :=
  ["column", "field", "sql type", "java type", "flags"]

/-- The flags of a column in a summary. -/
def summaryFlags (c : Column) : String :=
  ", ".intercalate
    ((if c.primaryKey then ["PK"] else []) ++ (if c.autoIncrement then ["AI"] else []) ++
      (if c.nullable then [] else ["NOT NULL"]) ++
      if c.typeUnknown then ["UNKNOWN TYPE"] else [])

/-- The row of a column in a summary. -/
def summaryRow (c : Column) : List String :=
  [c.name, c.fieldName, c.sqlType, c.type.name, summaryFlags c]

/-- The texts of a table's summary; each of them is markup where a summary is drawn. -/
def summaryTexts (t : Table) : List String :=
  summaryTitle t :: summaryHeader ++ t.columns.flatMap summaryRow

/-- Checks that the summary of a table can be drawn. -/
def checkSummary (t : Table) : Except Text.MarkupError Unit :=
  (summaryTexts t).forM fun text => (Text.showMarkup text).map fun _ => ()

/-! ## Reports -/

/-- What a conversion leaves behind. -/
structure Report where
  written : List File.Path := []
  failed : List String := []
  printed : String := ""
  notices : List Notice := []
  log : List Record := []
  summaries : List Table := []
  deriving DecidableEq, Repr

namespace Report

/-- The report of two conversions one after the other. -/
def append (a b : Report) : Report where
  written := a.written ++ b.written
  failed := a.failed ++ b.failed
  printed := a.printed ++ b.printed
  notices := a.notices ++ b.notices
  log := a.log ++ b.log
  summaries := a.summaries ++ b.summaries

instance : Append Report := ⟨append⟩

/-- Whether no input failed. -/
def ok (r : Report) : Bool :=
  r.failed.isEmpty

/-- The notices as the user sees them, one on each line; one whose markup is malformed is not
shown. -/
def noticeText (r : Report) : String :=
  String.join (r.notices.map fun n =>
    match n.text with
    | .ok text => text ++ "\n"
    | .error _ => "")

end Report

end EntityMapper.Conversion
