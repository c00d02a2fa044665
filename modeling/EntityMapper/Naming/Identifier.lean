import EntityMapper.Naming.Case

/-!
# Java identifiers

Names of classes and fields: a reserved word takes an underscore behind it and a name that begins
with a digit one in front.
-/

namespace EntityMapper.Naming

/-- The words that cannot be names in Java. -/
def reservedWords : List String :=
  ["abstract", "assert", "boolean", "break", "byte", "case", "catch", "char", "class", "const",
   "continue", "default", "do", "double", "else", "enum", "extends", "final", "finally", "float",
   "for", "goto", "if", "implements", "import", "instanceof", "int", "interface", "long", "native",
   "new", "package", "private", "protected", "public", "return", "short", "static", "strictfp",
   "super", "switch", "synchronized", "this", "throw", "throws", "transient", "try", "void",
   "volatile", "while", "true", "false", "null", "_"]

/-- A name kept clear of reserved words and of digits at its start. -/
def identifier (name : List Char) : List Char :=
  if String.ofList name ∈ reservedWords then name ++ ['_']
  else if name.head?.any Text.isDigit then '_' :: name
  else name

/-- The field name of a column. -/
def fieldName (column : String) : String :=
  String.ofList (identifier (camelCase column.toList))

/-- The class name of a table. -/
def className (table : String) : String :=
  String.ofList (identifier (pascalCase table.toList))

end EntityMapper.Naming
