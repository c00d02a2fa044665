import EntityMapper.Text.Shown

/-!
# Remarks of a reading

What a reader of declarations has to say about a text besides its result: items that it passes over,
types that it does not know, tables that remain empty.
-/

namespace EntityMapper

/-- How much a remark matters. -/
inductive Severity where
  | debug
  | info
  | warning
  deriving DecidableEq, Repr

/-- The severity's name. -/
def Severity.name : Severity → String
  | .debug => "DEBUG"
  | .info => "INFO"
  | .warning => "WARNING"

namespace Sql

/-- A remark about the text that was read. -/
inductive Remark where
  | noDeclaration (length : Nat)
  | noColumnSection (table : String)
  | notAName (first table : String)
  | clause (first : String)
  | noType (first : String)
  | unknownType (sqlType column : String)
  | duplicateColumn (column table : String)
  | noColumns (table : String)
  deriving DecidableEq, Repr

namespace Remark

/-- How much the remark matters. -/
def severity : Remark → Severity
  | .noDeclaration _ | .notAName _ _ | .clause _ | .noType _ => .debug
  | .noColumnSection _ | .unknownType _ _ | .duplicateColumn _ _ | .noColumns _ => .warning

/-- The remark's wording. -/
def message : Remark → String
  | .noDeclaration length =>
    "No CREATE TABLE declaration in input (" ++ toString length ++ " chars)"
  | .noColumnSection table => "Table " ++ table ++ " has no column definition section"
  | .notAName first table =>
    "Skipping item starting with " ++ Text.shown first ++ " in table " ++ table
  | .clause first => "Skipping table-level clause starting with " ++ first
  | .noType first => "Skipping item without a type: " ++ first
  | .unknownType sqlType column =>
    "Unrecognized SQL type " ++ Text.shown sqlType ++ " for column " ++ column ++ ", using String"
  | .duplicateColumn column table =>
    "Duplicate column " ++ column ++ " in table " ++ table ++ " ignored"
  | .noColumns table => "Table " ++ table ++ " parsed with zero columns"

end Remark

end Sql

end EntityMapper
