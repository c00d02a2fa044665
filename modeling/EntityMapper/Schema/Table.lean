import EntityMapper.Schema.JavaType

/-!
# Tables and columns

What a table declaration says, together with the Java names and types that are chosen for it.
-/

namespace EntityMapper.Schema

/-- A column of a table and the field that stands for it. -/
structure Column where
  name : String
  fieldName : String
  type : JavaType
  /-- The declared type as it is written. -/
  sqlType : String := ""
  primaryKey : Bool := false
  autoIncrement : Bool := false
  nullable : Bool := true
  /-- Whether no rule applied to the declared type. -/
  typeUnknown : Bool := false
  deriving DecidableEq, Repr

/-- A table and the class that stands for it. -/
structure Table where
  name : String
  className : String
  columns : List Column := []
  deriving DecidableEq, Repr

/-- Whether the table has no columns. -/
def Table.isEmpty (t : Table) : Bool :=
  t.columns.isEmpty

end EntityMapper.Schema
