import EntityMapper.Text.Cutting

/-!
# Java types of columns

The Java types that a column can have, and the rules that choose one for the type that a column is
declared with: the first rule of which a keyword occurs in the declared type decides.
-/

namespace EntityMapper.Schema

/-- A Java type of a field. -/
inductive JavaType where
  | string
  | integer
  | long
  | short
  | byte
  | bigDecimal
  | float
  | double
  | boolean
  | localDate
  | localDateTime
  | localTime
  | bytes
  deriving DecidableEq, Repr

namespace JavaType

/-- Every type, in the order of the constructors. -/
def all : List JavaType :=
  [.string, .integer, .long, .short, .byte, .bigDecimal, .float, .double, .boolean, .localDate,
   .localDateTime, .localTime, .bytes]

/-- The type's name in Java source. -/
def name : JavaType → String
  | .string => "String"
  | .integer => "Integer"
  | .long => "Long"
  | .short => "Short"
  | .byte => "Byte"
  | .bigDecimal => "BigDecimal"
  | .float => "Float"
  | .double => "Double"
  | .boolean => "Boolean"
  | .localDate => "LocalDate"
  | .localDateTime => "LocalDateTime"
  | .localTime => "LocalTime"
  | .bytes => "byte[]"

/-- The type of a given name. -/
def ofName? (name : String) : Option JavaType :=
  all.find? (·.name == name)

theorem ofName?_name (t : JavaType) : ofName? t.name = some t := by
  cases t <;> decide

/-- The keywords of declared types and the Java types that they stand for.  A keyword that contains
another one stands before it. -/
def rules : List (List String × JavaType) :=
  [(["VARCHAR", "TEXT", "CHAR"], .string),
   (["BIGSERIAL"], .long),
   (["SMALLSERIAL"], .short),
   (["SERIAL"], .integer),
   (["BIGINT"], .long),
   (["SMALLINT"], .short),
   (["TINYINT"], .byte),
   (["INT"], .integer),
   (["DECIMAL", "NUMERIC"], .bigDecimal),
   (["FLOAT"], .float),
   (["DOUBLE"], .double),
   (["BOOLEAN", "BOOL", "BIT"], .boolean),
   (["TIMESTAMP", "DATETIME"], .localDateTime),
   (["DATE"], .localDate),
   (["TIME"], .localTime),
   (["BLOB"], .bytes)]

/-- The Java type that the rules choose for a declared type, if one of them applies. -/
def ofSql? (sqlType : String) : Option JavaType :=
  let declared := Text.upper sqlType.toList
  (rules.find? fun rule => rule.1.any fun keyword => Text.occurs keyword.toList declared).map (·.2)

/-- The Java type of a declared type, text where no rule applies. -/
def ofSql (sqlType : String) : JavaType :=
  (ofSql? sqlType).getD .string

end JavaType

end EntityMapper.Schema
