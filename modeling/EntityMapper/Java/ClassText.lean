import EntityMapper.Java.Import
import EntityMapper.Java.Literal
import EntityMapper.Naming.Case

/-!
# The text of a generated class

The lines of the class that stands for a table: imports, class annotations, one field per column
with its annotations, and accessors where the options ask for them.
-/

namespace EntityMapper.Java

open Schema

/-- The indentation of members. -/
def indent : String := "    "

/-- The lines that import names, followed by a blank line if there are any. -/
def importLines (o : Options) (t : Table) : List String :=
  match imports o t with
  | [] => []
  | is => is.map (fun i => "import " ++ i.path ++ ";") ++ [""]

/-- The annotations of the class. -/
def classAnnotations (o : Options) (t : Table) : List String :=
  (if o.jpa then ["@Entity", "@Table(name = " ++ literal t.name ++ ")"] else []) ++
    if o.lombok then ["@Data", "@NoArgsConstructor", "@AllArgsConstructor"] else []

/-- Whether the field has another name than its column. -/
def isRenamed (c : Column) : Bool :=
  c.fieldName != c.name

/-- The annotations of the field that stands for a column. -/
def fieldAnnotations (o : Options) (c : Column) : List String :=
  (if c.primaryKey && o.jpa then
      "@Id" ::
        if c.autoIncrement then ["@GeneratedValue(strategy = GenerationType.IDENTITY)"] else []
    else []) ++
  (if o.jpa && isRenamed c then
      ["@Column(name = " ++ literal c.name ++
        (if c.nullable then "" else ", nullable = false") ++ ")"]
    else []) ++
  if o.jackson && isRenamed c then ["@JsonProperty(" ++ literal c.name ++ ")"] else []

/-- The declaration of the field that stands for a column. -/
def fieldDeclaration (c : Column) : String :=
  "private " ++ c.type.name ++ " " ++ c.fieldName ++ ";"

/-- The lines of the field that stands for a column. -/
def fieldLines (o : Options) (c : Column) : List String :=
  (fieldAnnotations o c ++ [fieldDeclaration c]).map (indent ++ ·)

/-- The lines of the getter and the setter of a column's field, each after a blank line. -/
def accessorLines (c : Column) : List String :=
  let type := c.type.name
  let field := c.fieldName
  let suffix := String.ofList (Naming.capitalize field.toList)
  ["",
   indent ++ "public " ++ type ++ " get" ++ suffix ++ "() \x7b",
   indent ++ indent ++ "return " ++ field ++ ";",
   indent ++ "\x7d",
   "",
   indent ++ "public void set" ++ suffix ++ "(" ++ type ++ " " ++ field ++ ") \x7b",
   indent ++ indent ++ "this." ++ field ++ " = " ++ field ++ ";",
   indent ++ "\x7d"]

/-- The lines of all fields, with a blank line between neighbours. -/
def fieldsLines (o : Options) (cs : List Column) : List String :=
  (cs.map (fieldLines o)).intersperse [""] |>.flatten

/-- The lines of the class that stands for a table. -/
def classLines (o : Options) (t : Table) : List String :=
  importLines o t ++ classAnnotations o t ++
    ["public class " ++ t.className ++ " \x7b", ""] ++
    fieldsLines o t.columns ++
    (if o.writesAccessors then t.columns.flatMap accessorLines else []) ++
    ["\x7d", ""]

/-- The text of the class that stands for a table. -/
def classText (o : Options) (t : Table) : String :=
  "\n".intercalate (classLines o t)

end EntityMapper.Java
