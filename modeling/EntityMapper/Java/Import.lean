import EntityMapper.Java.Options
import EntityMapper.Schema.Table

/-!
# Imports of a generated class

The names that a generated class can import, in the order of their paths, and which of them a table
needs under given options.
-/

namespace EntityMapper.Java

open Schema

/-- A name that a generated class can import. -/
inductive Import where
  | jsonProperty
  | bigDecimal
  | localDate
  | localDateTime
  | localTime
  | persistence
  | allArgsConstructor
  | data
  | noArgsConstructor
  deriving DecidableEq, Repr

namespace Import

/-- Every import, in the order of the paths. -/
def all : List Import :=
  [.jsonProperty, .bigDecimal, .localDate, .localDateTime, .localTime, .persistence,
   .allArgsConstructor, .data, .noArgsConstructor]

/-- The imported name, with an asterisk for all names of a package. -/
def path : Import → String
  | .jsonProperty => "com.fasterxml.jackson.annotation.JsonProperty"
  | .bigDecimal => "java.math.BigDecimal"
  | .localDate => "java.time.LocalDate"
  | .localDateTime => "java.time.LocalDateTime"
  | .localTime => "java.time.LocalTime"
  | .persistence => "javax.persistence.*"
  | .allArgsConstructor => "lombok.AllArgsConstructor"
  | .data => "lombok.Data"
  | .noArgsConstructor => "lombok.NoArgsConstructor"

/-- The type of fields that an import is for. -/
def fieldType? : Import → Option JavaType
  | .bigDecimal => some .bigDecimal
  | .localDate => some .localDate
  | .localDateTime => some .localDateTime
  | .localTime => some .localTime
  | _ => none

/-- Whether the class of a table needs the import. -/
def isNeeded (o : Options) (t : Table) (i : Import) : Bool :=
  match i with
  | .jsonProperty => o.jackson
  | .persistence => o.jpa
  | .allArgsConstructor | .data | .noArgsConstructor => o.lombok
  | i => t.columns.any fun c => i.fieldType? == some c.type

end Import

/-- The imports of the class of a table, in the order of their paths. -/
def imports (o : Options) (t : Table) : List Import :=
  Import.all.filter (·.isNeeded o t)

end EntityMapper.Java
