import EntityMapper.Proofs.File.Paths
import EntityMapper.Proofs.Java.Agreement
import EntityMapper.Proofs.Java.Alphabet
import EntityMapper.Proofs.Java.Literals
import Mathlib.Data.List.Forall2

/-!
# What a class says of its table

With the annotations for the database, the lines of a class name the table and its columns: a
reader finds them there, with the types of the fields, the primary key, and what the annotations
of a field say of its column. So classes with the same text stand for tables that differ in nothing
that is mapped.
-/

namespace EntityMapper.Java

open Schema Text

/-! ## Mappings -/

/-- What a field says of its column. -/
structure FieldMapping where
  column : String
  field : String
  type : JavaType
  primaryKey : Bool
  /-- Whether the values of a primary key are generated. -/
  generated : Bool
  /-- Whether the field has another name than its column, which cannot be null. -/
  required : Bool
  deriving DecidableEq, Repr

/-- What a class says of its table. -/
structure ClassMapping where
  table : String
  name : String
  fields : List FieldMapping
  deriving DecidableEq, Repr

/-- What the field that stands for a column says of it. -/
def FieldMapping.ofColumn (c : Column) : FieldMapping where
  column := c.name
  field := c.fieldName
  type := c.type
  primaryKey := c.primaryKey
  generated := c.primaryKey && c.autoIncrement
  required := isRenamed c && !c.nullable

/-- What the class that stands for a table says of it. -/
def ClassMapping.ofTable (t : Table) : ClassMapping where
  table := t.name
  name := t.className
  fields := t.columns.map .ofColumn

/-! ## Reading lines -/

/-- What stands in a line behind its beginning. -/
def behind? (start line : String) : Option String :=
  (line.toList.dropPrefix? start.toList).map String.ofList

/-- The text whose literal stands in a line behind its beginning, and what stands behind that. -/
def literalBehind? (start line : String) : Option (String × String) := do
  let (text, rest) ← (readLiteral (← behind? start line).toList).toOption
  return (String.ofList text, String.ofList rest)

/-- The table that an annotation of a class names. -/
def tableName? (line : String) : Option String :=
  (literalBehind? "@Table(name = " line).map (·.1)

/-- The class that begins with a line. -/
def className? (line : String) : Option String :=
  (behind? "public class " line).map fun rest => String.ofList rest.toList.dropLast.dropLast

/-- The type and the name of the field that a line declares. -/
def field? (line : String) : Option (JavaType × String) := do
  let rest := (← behind? "private " line).toList
  let type ← JavaType.ofName? (String.ofList (rest.takeWhile (· != ' ')))
  return (type, String.ofList ((rest.dropWhile (· != ' ')).drop 1).dropLast)

/-- The column that an annotation of a field names, and whether it says that the column cannot be
null. -/
def columnMark? (line : String) : Option (String × Bool) :=
  (literalBehind? "@Column(name = " line).map fun (name, rest) =>
    (name, rest == ", nullable = false)")

/-- What a field says of its column, where lines stand in front of its declaration: the column has
the name that is given for it there, or else that of the field. -/
def FieldMapping.ofLines (lines : List String) (type : JavaType) (field : String) :
    FieldMapping where
  column := (lines.findSome? columnMark?).elim field (·.1)
  field := field
  type := type
  primaryKey := lines.contains "@Id"
  generated := lines.contains "@GeneratedValue(strategy = GenerationType.IDENTITY)"
  required := (lines.findSome? columnMark?).any (·.2)

/-- The fields that lines declare, each with what the lines since the last one say of it; the lines
in front are given. -/
def fieldsOf (front : List String) : List String → List FieldMapping
  | [] => []
  | line :: lines =>
    match field? line with
    | some (type, field) => .ofLines front type field :: fieldsOf [] lines
    | none => fieldsOf (front ++ [line]) lines

/-- What the text of a class says of its table. -/
def ClassMapping.read? (text : String) : Option ClassMapping := do
  let lines := (split '\n' text.toList).map String.ofList
  let table ← lines.findSome? tableName?
  let name ← lines.findSome? className?
  return { table, name, fields := fieldsOf [] (lines.filterMap (behind? indent)) }

/-! ## Lines of a class -/

/-- The names of a table and of its columns are written in one line each, and those of its class and
of its fields are names in Java. -/
structure HasLineNames (t : Table) : Prop extends HasNames t where
  tableName : t.name.toList.any isLineEnd = false
  columnNames : ∀ c ∈ t.columns, c.name.toList.any isLineEnd = false

section Lines

variable {o : Options} {t : Table}

/-- A name has no line break. -/
theorem allOf_of_isName {s : String} (h : isName s.toList = true) : allOf (· != '\n') s = true := by
  obtain ⟨⟨c, cs, hs, hc, hcs⟩, -⟩ := isName_iff.mp h
  rw [allOf, hs, List.all_eq_true, List.forall_mem_cons]
  have hkept : ∀ d, continuesIdentifier d = true → (d != '\n') = true := by
    intro d hd
    rw [bne_iff_ne]
    rintro rfl
    cases hd
  exact ⟨hkept c (continuesIdentifier_of_beginsIdentifier hc), fun d hd => hkept d (hcs d hd)⟩

/-- A text without line ends has no line break. -/
theorem allOf_of_no_lineEnd {s : String} (h : s.toList.any isLineEnd = false) :
    allOf (· != '\n') s = true := by
  rw [allOf, List.all_eq_true]
  intro c hc
  rw [bne_iff_ne]
  rintro rfl
  exact List.any_eq_false.mp h '\n' hc rfl

/-- No line of a class holds a line feed. -/
theorem HasLineNames.allNames (h : HasLineNames t) : AllNames (· != '\n') t where
  name := allOf_of_no_lineEnd h.tableName
  className := allOf_of_isName h.className
  columnNames c hc := allOf_of_no_lineEnd (h.columnNames c hc)
  fieldNames c hc := allOf_of_isName (h.fieldNames c hc)
  accessorNames c hc := by
    have haccessor := allOf_of_isName (isName_accessor_of_isName (h.fieldNames c hc)).1
    rw [allOf_append, Bool.and_eq_true] at haccessor
    exact haccessor.2

/-- The lines of a class are what stands between the line feeds of its text. -/
theorem split_classText (h : HasLineNames t) :
    (split '\n' (classText o t).toList).map String.ofList = classLines o t := by
  have hprintable : ∀ c, isPrintable c = true → (c != '\n') = true := by
    intro c hc
    rw [bne_iff_ne]
    rintro rfl
    cases hc
  have hlines : ∀ line ∈ classLines o t, '\n' ∉ line.toList := by
    intro line hline hmem
    have hall := allOf_classLines hprintable h.allNames line hline
    exact absurd (List.all_eq_true.mp hall '\n' hmem) (by decide)
  have hsplit : split '\n' (classText o t).toList = (classLines o t).map String.toList := by
    rw [classText, String.toList_intercalate]
    exact split_intercalate (by simp [classLines]) hlines
  simp [hsplit]

end Lines

/-! ## What is read -/

/-- What stands behind a start is found. -/
theorem behind?_append (start rest : String) : behind? start (start ++ rest) = some rest := by
  rw [behind?, String.toList_append, List.dropPrefix?_append_of_beq _ (beq_self_eq_true _),
    Option.map_some, String.ofList_toList]

/-- Nothing stands behind a beginning in a line that begins otherwise. -/
theorem behind?_append_of_ne {start front : String} (rest : String)
    (h : ¬ start.toList <+: front.toList ∧ ¬ front.toList <+: start.toList) :
    behind? start (front ++ rest) = none := by
  rw [behind?, Option.map_eq_none_iff, Option.eq_none_iff_forall_ne_some]
  intro back hback
  obtain ⟨start', hline, hstart⟩ := List.dropPrefix?_eq_some_iff.mp hback
  obtain rfl : start' = start.toList := by simpa using hstart
  rw [String.toList_append] at hline
  have hprefix : start.toList <+: front.toList ++ rest.toList := ⟨back, hline.symm⟩
  rcases List.prefix_or_prefix_of_prefix hprefix (List.prefix_append _ _) with hin | hin
  · exact h.1 hin
  · exact h.2 hin

/-- What is written for a text without line ends is read behind a beginning. -/
theorem literalBehind?_append (start rest : String) {s : String}
    (h : s.toList.any isLineEnd = false) :
    literalBehind? start (start ++ literal s ++ rest) = some (s, rest) := by
  rw [literalBehind?, String.append_assoc, behind?_append]
  simp [readLiteral_append, h, Except.toOption]

section Class

variable {o : Options} {t : Table} {start : String}

/-- No import line begins as the lines of the mapping do. -/
theorem behind?_importLines (hstart : start ∈ ["@Table(name = ", "public class ", indent]) :
    ∀ line ∈ importLines o t, behind? start line = none := by
  have himport : ∀ i : Import, ∀ start ∈ ["@Table(name = ", "public class ", indent],
      behind? start ("import " ++ i.path ++ ";") = none := by
    intro i
    cases i <;> decide
  have hempty : ∀ start ∈ ["@Table(name = ", "public class ", indent],
      behind? start "" = none := by decide
  rw [importLines]
  split
  · simp
  · rw [List.forall_mem_append, List.forall_mem_map, List.forall_mem_singleton]
    exact ⟨fun i _ => himport i start hstart, hempty start hstart⟩

/-- No annotation of the class begins as its name line or a member does. -/
theorem behind?_classAnnotations (hstart : start ∈ ["public class ", indent]) :
    ∀ line ∈ classAnnotations o t, behind? start line = none := by
  have hlines : ∀ start ∈ ["public class ", indent],
      (∀ line ∈ ["@Entity"], behind? start line = none) ∧
      ∀ line ∈ ["@Data", "@NoArgsConstructor", "@AllArgsConstructor"],
        behind? start line = none := by
    decide
  have hfront : ∀ start ∈ ["public class ", indent],
      ¬ start.toList <+: "@Table(name = ".toList ∧ ¬ "@Table(name = ".toList <+: start.toList := by
    decide
  have htable : behind? start ("@Table(name = " ++ literal t.name ++ ")") = none := by
    rw [String.append_assoc]
    exact behind?_append_of_ne _ (hfront start hstart)
  obtain ⟨hentity, hlombok⟩ := hlines start hstart
  rw [classAnnotations, List.forall_mem_append]
  constructor
  · split
    · rw [List.forall_mem_cons, List.forall_mem_singleton]
      exact ⟨hentity _ List.mem_cons_self, htable⟩
    · simp
  · split
    · exact hlombok
    · simp

/-- The lines of a class give back the table name. -/
theorem findSome?_tableName? (ho : o.jpa = true) (h : t.name.toList.any isLineEnd = false) :
    (classLines o t).findSome? tableName? = some t.name := by
  have himports : (importLines o t).findSome? tableName? = none := by
    rw [List.findSome?_eq_none_iff]
    intro line hline
    rw [tableName?, literalBehind?, behind?_importLines (by simp) line hline]
    rfl
  have hentity : tableName? "@Entity" = none := by decide
  have htable : tableName? ("@Table(name = " ++ literal t.name ++ ")") = some t.name := by
    rw [tableName?, literalBehind?_append _ _ h, Option.map_some]
  simp [classLines, classAnnotations, ho, himports, hentity, htable]

/-- The lines of a class give back the class name. -/
theorem findSome?_className? : (classLines o t).findSome? className? = some t.className := by
  have hnone : ∀ line, behind? "public class " line = none → className? line = none := by
    intro line hline
    rw [className?, hline, Option.map_none]
  have himports : (importLines o t).findSome? className? = none := by
    rw [List.findSome?_eq_none_iff]
    exact fun line hline => hnone line (behind?_importLines (by simp) line hline)
  have hannotations : (classAnnotations o t).findSome? className? = none := by
    rw [List.findSome?_eq_none_iff]
    exact fun line hline => hnone line (behind?_classAnnotations (by simp) line hline)
  have hhead : className? ("public class " ++ t.className ++ " \x7b") = some t.className := by
    rw [className?, String.append_assoc, behind?_append]
    simp
  simp [classLines, himports, hannotations, hhead]

end Class

section Fields

variable {o : Options} {c : Column}

/-- A declaration gives back the type and the name of its field. -/
theorem field?_fieldDeclaration (c : Column) :
    field? (fieldDeclaration c) = some (c.type, c.fieldName) := by
  have hline : fieldDeclaration c =
      "private " ++ (c.type.name ++ (" " ++ (c.fieldName ++ ";"))) := by
    simp [fieldDeclaration, String.append_assoc]
  have hrest : (c.type.name ++ (" " ++ (c.fieldName ++ ";"))).toList =
      c.type.name.toList ++ ' ' :: (c.fieldName.toList ++ [';']) := by
    simp
  have htype : ∀ d ∈ c.type.name.toList, (d != ' ') = true := by
    cases c.type <;> decide
  rw [field?, hline, behind?_append]
  simp only [hrest, bind, Option.bind, List.takeWhile_append_of_pos htype,
    List.dropWhile_append_of_pos htype]
  simp [JavaType.ofName?_name]

/-- No annotation of a field is read as a declaration. -/
theorem field?_fieldAnnotations (o : Options) (c : Column) :
    ∀ line ∈ fieldAnnotations o c, field? line = none := by
  have hnone : ∀ line, behind? "private " line = none → field? line = none := by
    intro line hline
    rw [field?, hline]
    rfl
  refine forall_mem_fieldAnnotations (by decide) (fun s _ => hnone _ ?_) (hnone _ ?_)
  · rw [String.append_assoc, String.append_assoc]
    exact behind?_append_of_ne _ (by decide)
  · rw [String.append_assoc]
    exact behind?_append_of_ne _ (by decide)

/-- A column annotation gives back the column name and whether it can be null. -/
theorem columnMark?_column (h : c.name.toList.any isLineEnd = false) :
    columnMark? ("@Column(name = " ++ literal c.name ++
      (if c.nullable then "" else ", nullable = false") ++ ")") = some (c.name, !c.nullable) := by
  have hrest : ((if c.nullable then "" else ", nullable = false") ++ ")" ==
      ", nullable = false)") = !c.nullable := by
    cases c.nullable <;> decide
  rw [columnMark?, String.append_assoc, literalBehind?_append _ _ h]
  exact congrArg (fun required => some (c.name, required)) hrest

/-- The annotations of a field give back a column annotation iff the column was renamed. -/
theorem findSome?_columnMark? (ho : o.jpa = true) (h : c.name.toList.any isLineEnd = false) :
    (fieldAnnotations o c).findSome? columnMark? =
      if isRenamed c then some (c.name, !c.nullable) else none := by
  have hid : columnMark? "@Id" = none ∧
      columnMark? "@GeneratedValue(strategy = GenerationType.IDENTITY)" = none := by decide
  have hproperty : columnMark? ("@JsonProperty(" ++ literal c.name ++ ")") = none := by
    rw [columnMark?, literalBehind?, String.append_assoc, behind?_append_of_ne _ (by decide)]
    rfl
  have hkey : (if c.primaryKey && o.jpa then
      "@Id" ::
        if c.autoIncrement then ["@GeneratedValue(strategy = GenerationType.IDENTITY)"] else []
      else []).findSome? columnMark? = none := by
    cases c.primaryKey <;> cases c.autoIncrement <;> simp [ho, hid]
  rw [fieldAnnotations, List.findSome?_append, List.findSome?_append, hkey, ho]
  cases isRenamed c <;> cases o.jackson <;> simp [columnMark?_column h, hproperty]

/-- Whether an annotation is written that is not about the name of the column. -/
theorem mem_fieldAnnotations_iff (ho : o.jpa = true) {line : String}
    (hline : ∀ start ∈ ["@Column(name = ", "@JsonProperty("], ¬ start.toList <+: line.toList) :
    line ∈ fieldAnnotations o c ↔ c.primaryKey = true ∧ (line = "@Id" ∨
      c.autoIncrement = true ∧ line = "@GeneratedValue(strategy = GenerationType.IDENTITY)") := by
  have hne : ∀ start ∈ ["@Column(name = ", "@JsonProperty("], ∀ rest, line ≠ start ++ rest := by
    rintro start hstart rest rfl
    exact hline start hstart (by simp)
  rw [List.forall_mem_cons, List.forall_mem_singleton] at hne
  cases hk : c.primaryKey <;> cases ha : c.autoIncrement <;>
    simp [fieldAnnotations, ho, hk, ha, String.append_assoc, hne]

/-- What stands in front of a field says of its column what there is to say. -/
theorem ofLines_fieldAnnotations (ho : o.jpa = true) (h : c.name.toList.any isLineEnd = false) :
    FieldMapping.ofLines (fieldAnnotations o c) c.type c.fieldName = .ofColumn c := by
  have hid : (fieldAnnotations o c).contains "@Id" = c.primaryKey := by
    rw [Bool.eq_iff_iff, List.contains_iff_mem, mem_fieldAnnotations_iff ho (by decide)]
    simp
  have hgenerated : (fieldAnnotations o c).contains
      "@GeneratedValue(strategy = GenerationType.IDENTITY)" =
        (c.primaryKey && c.autoIncrement) := by
    rw [Bool.eq_iff_iff, List.contains_iff_mem, mem_fieldAnnotations_iff ho (by decide)]
    simp
  rw [FieldMapping.ofLines, FieldMapping.ofColumn, hid, hgenerated, findSome?_columnMark? ho h]
  cases hrenamed : isRenamed c with
  | true => rfl
  | false =>
    have hname : c.fieldName = c.name := by simpa [isRenamed] using hrenamed
    simp [hname]

end Fields

/-! ## Members -/

section Members

variable {o : Options} {c : Column} {cs : List Column}

/-- The lines that stand for a column, without their indentation. -/
theorem filterMap_fieldLines (o : Options) (c : Column) :
    (fieldLines o c).filterMap (behind? indent) = fieldAnnotations o c ++ [fieldDeclaration c] := by
  rw [fieldLines, List.filterMap_map]
  simp [behind?_append]

/-- Of the lines of the fields those that are indented are the annotations and the declarations. -/
theorem filterMap_fieldsLines (o : Options) (cs : List Column) :
    (fieldsLines o cs).filterMap (behind? indent) =
      cs.flatMap fun c => fieldAnnotations o c ++ [fieldDeclaration c] := by
  have hempty : behind? indent "" = none := by decide
  induction cs with
  | nil => rfl
  | cons c cs ih =>
    cases cs with
    | nil => simp [fieldsLines, filterMap_fieldLines]
    | cons next cs =>
      rw [List.flatMap_cons, fieldsLines_cons, List.filterMap_append,
        List.filterMap_cons_none hempty, ih, filterMap_fieldLines]

/-- An accessor declares no field. -/
theorem field?_accessorLines (c : Column) :
    ∀ line ∈ (accessorLines c).filterMap (behind? indent), field? line = none := by
  have hfront : ∀ {front : String} (rest : String),
      (¬ "private ".toList <+: front.toList ∧ ¬ front.toList <+: "private ".toList) →
      field? (front ++ rest) = none := by
    intro front rest h
    rw [field?, behind?_append_of_ne rest h]
    rfl
  have hempty : behind? indent "" = none := by decide
  have hbrace : field? "\x7d" = none := by decide
  have hpublic : ∀ rest, field? ("public " ++ rest) = none := fun rest => hfront rest (by decide)
  have hsetter : ∀ rest, field? ("public void set" ++ rest) = none :=
    fun rest => hfront rest (by decide)
  have hindent : ∀ rest, field? (indent ++ rest) = none := fun rest => hfront rest (by decide)
  simp [accessorLines, String.append_assoc, behind?_append, hempty, hpublic, hsetter, hindent,
    hbrace]

/-- Lines that declare no field are kept for the next one. -/
theorem fieldsOf_append (front : List String) {block : List String}
    (h : ∀ line ∈ block, field? line = none) (lines : List String) :
    fieldsOf front (block ++ lines) = fieldsOf (front ++ block) lines := by
  induction block generalizing front with
  | nil => simp
  | cons line block ih =>
    obtain ⟨hline, hblock⟩ := List.forall_mem_cons.mp h
    rw [List.cons_append, fieldsOf, hline]
    simpa using ih (front ++ [line]) hblock

/-- Each column is read from the lines that stand for it. -/
theorem fieldsOf_flatMap (ho : o.jpa = true) (h : ∀ c ∈ cs, c.name.toList.any isLineEnd = false)
    (lines : List String) :
    fieldsOf [] (cs.flatMap (fun c => fieldAnnotations o c ++ [fieldDeclaration c]) ++ lines) =
      cs.map .ofColumn ++ fieldsOf [] lines := by
  induction cs with
  | nil => rfl
  | cons c cs ih =>
    obtain ⟨hc, hcs⟩ := List.forall_mem_cons.mp h
    rw [List.flatMap_cons, List.append_assoc, List.append_assoc,
      fieldsOf_append [] (field?_fieldAnnotations o c), List.nil_append, List.singleton_append,
      fieldsOf, field?_fieldDeclaration, List.map_cons, List.cons_append, ← ih hcs,
      ← ofLines_fieldAnnotations ho hc]

/-- Of the lines of a class those that are indented belong to its fields and accessors. -/
theorem filterMap_classLines (o : Options) (t : Table) :
    (classLines o t).filterMap (behind? indent) =
      t.columns.flatMap (fun c => fieldAnnotations o c ++ [fieldDeclaration c]) ++
        if o.writesAccessors then
          t.columns.flatMap fun c => (accessorLines c).filterMap (behind? indent)
        else [] := by
  have himports : (importLines o t).filterMap (behind? indent) = [] := by
    rw [List.filterMap_eq_nil_iff]
    exact behind?_importLines (by simp)
  have hannotations : (classAnnotations o t).filterMap (behind? indent) = [] := by
    rw [List.filterMap_eq_nil_iff]
    exact behind?_classAnnotations (by simp)
  have hhead : behind? indent ("public class " ++ t.className ++ " \x7b") = none := by
    rw [String.append_assoc]
    exact behind?_append_of_ne _ (by decide)
  have hends : behind? indent "" = none ∧ behind? indent "\x7d" = none := by decide
  have haccessors : (if o.writesAccessors then t.columns.flatMap accessorLines else []).filterMap
      (behind? indent) = if o.writesAccessors then
        t.columns.flatMap fun c => (accessorLines c).filterMap (behind? indent) else [] := by
    split
    · exact List.filterMap_flatMap
    · rfl
  simp [classLines, himports, hannotations, hhead, hends, haccessors, filterMap_fieldsLines]

/-- What the text of a class says of its table. -/
theorem read?_classText (ho : o.jpa = true) {t : Table} (h : HasLineNames t) :
    ClassMapping.read? (classText o t) = some (.ofTable t) := by
  have haccessors : ∀ line ∈ (if o.writesAccessors then
      t.columns.flatMap fun c => (accessorLines c).filterMap (behind? indent) else []),
      field? line = none := by
    split
    · intro line hline
      obtain ⟨c, -, hline⟩ := List.mem_flatMap.mp hline
      exact field?_accessorLines c line hline
    · simp
  have hfields : fieldsOf [] ((classLines o t).filterMap (behind? indent)) =
      t.columns.map .ofColumn := by
    have hrest := fieldsOf_append [] haccessors []
    rw [List.append_nil] at hrest
    rw [filterMap_classLines, fieldsOf_flatMap ho h.columnNames, hrest, fieldsOf, List.append_nil]
  rw [ClassMapping.read?, split_classText h, findSome?_tableName? ho h.tableName,
    findSome?_className?, hfields]
  rfl

end Members

/-! ## Classes with the same text -/

/-- Two columns differ in nothing that a field says of its column. -/
structure MapsAlike (c c' : Column) : Prop where
  name : c.name = c'.name
  fieldName : c.fieldName = c'.fieldName
  type : c.type = c'.type
  primaryKey : c.primaryKey = c'.primaryKey
  autoIncrement : c.primaryKey = true → c.autoIncrement = c'.autoIncrement
  nullable : c.name ≠ c.fieldName → c.nullable = c'.nullable

/-- A column is renamed iff its name and its field name differ. -/
theorem isRenamed_iff {c : Column} : isRenamed c = true ↔ c.name ≠ c.fieldName := by
  rw [isRenamed, bne_iff_ne, ne_comm]

/-- Columns that map alike are renamed alike. -/
theorem MapsAlike.isRenamed_eq {c c' : Column} (h : MapsAlike c c') :
    isRenamed c = isRenamed c' := by
  rw [isRenamed, isRenamed, h.name, h.fieldName]

/-- Columns with equal field mappings map alike. -/
theorem mapsAlike_of_ofColumn_eq {c c' : Column}
    (h : FieldMapping.ofColumn c = FieldMapping.ofColumn c') : MapsAlike c c' := by
  have hname : c.name = c'.name := congrArg FieldMapping.column h
  have hfield : c.fieldName = c'.fieldName := congrArg FieldMapping.field h
  have hkey : c.primaryKey = c'.primaryKey := congrArg FieldMapping.primaryKey h
  have hgenerated : (c.primaryKey && c.autoIncrement) = (c'.primaryKey && c'.autoIncrement) :=
    congrArg FieldMapping.generated h
  have hrequired : (isRenamed c && !c.nullable) = (isRenamed c' && !c'.nullable) :=
    congrArg FieldMapping.required h
  refine ⟨hname, hfield, congrArg FieldMapping.type h, hkey, fun hk => ?_, fun hne => ?_⟩
  · rw [← hkey, hk] at hgenerated
    simpa using hgenerated
  · have hrenamed : isRenamed c' = isRenamed c := by rw [isRenamed, isRenamed, hname, hfield]
    rw [hrenamed, isRenamed_iff.mpr hne] at hrequired
    simpa using hrequired

/-- Fields that stand for columns which are mapped alike have the same annotations. -/
theorem MapsAlike.fieldAnnotations_eq (o : Options) {c c' : Column} (h : MapsAlike c c') :
    fieldAnnotations o c = fieldAnnotations o c' := by
  have hkey : (if c.primaryKey && o.jpa then
        "@Id" ::
          if c.autoIncrement then ["@GeneratedValue(strategy = GenerationType.IDENTITY)"] else []
      else []) =
      if c'.primaryKey && o.jpa then
        "@Id" ::
          if c'.autoIncrement then ["@GeneratedValue(strategy = GenerationType.IDENTITY)"] else []
      else [] := by
    rw [← h.primaryKey]
    cases hk : c.primaryKey with
    | false => rfl
    | true => rw [h.autoIncrement hk]
  rw [fieldAnnotations, fieldAnnotations, hkey, ← h.isRenamed_eq, ← h.name]
  cases hr : isRenamed c with
  | false => simp
  | true => rw [h.nullable (isRenamed_iff.mp hr)]

/-- Columns that map alike have the same field lines. -/
theorem MapsAlike.fieldLines_eq (o : Options) {c c' : Column} (h : MapsAlike c c') :
    fieldLines o c = fieldLines o c' := by
  rw [fieldLines, fieldLines, h.fieldAnnotations_eq o, fieldDeclaration, fieldDeclaration, h.type,
    h.fieldName]

/-- Columns that map alike have the same accessors. -/
theorem MapsAlike.accessorLines_eq {c c' : Column} (h : MapsAlike c c') :
    accessorLines c = accessorLines c' := by
  rw [accessorLines, accessorLines, h.type, h.fieldName]

section MapsAlike

variable {cs cs' : List Column}

/-- What is the same for columns that are mapped alike is the same for rows of them. -/
theorem map_eq_of_forall₂ {α : Type} {f : Column → α} (hf : ∀ {c c'}, MapsAlike c c' → f c = f c')
    (h : List.Forall₂ MapsAlike cs cs') : cs.map f = cs'.map f := by
  induction h with
  | nil => rfl
  | cons hc _ ih => rw [List.map_cons, List.map_cons, hf hc, ih]

/-- Columns with equal mappings map alike one by one. -/
theorem forall₂_of_map_eq (h : cs.map FieldMapping.ofColumn = cs'.map FieldMapping.ofColumn) :
    List.Forall₂ MapsAlike cs cs' := by
  induction cs generalizing cs' with
  | nil =>
    rw [List.map_eq_nil_iff.mp h.symm]
    exact .nil
  | cons c cs ih =>
    obtain ⟨c', cs', rfl, hc, hcs⟩ := List.map_eq_cons_iff.mp h.symm
    exact .cons (mapsAlike_of_ofColumn_eq hc.symm) (ih hcs.symm)

end MapsAlike

section Tables

variable {o : Options} {t t' : Table}

/-- Classes import what the types of the columns need. -/
theorem imports_eq_of_types (o : Options)
    (h : t.columns.map (·.type) = t'.columns.map (·.type)) : imports o t = imports o t' := by
  have hneeded : ∀ i : Import, (t.columns.any fun c => i.fieldType? == some c.type) =
      t'.columns.any fun c => i.fieldType? == some c.type := by
    intro i
    have hany := congrArg (List.any · fun type => i.fieldType? == some type) h
    simpa only [List.any_map, Function.comp_def] using hany
  refine List.filter_congr fun i _ => ?_
  cases i <;> first | rfl | exact hneeded _

/-- Tables that are mapped alike have the same class under all options. -/
theorem classText_eq_of_mapsAlike (o : Options) (hclass : t.className = t'.className)
    (hname : t.name = t'.name) (hcolumns : List.Forall₂ MapsAlike t.columns t'.columns) :
    classText o t = classText o t' := by
  have himports : imports o t = imports o t' :=
    imports_eq_of_types o (map_eq_of_forall₂ (fun h => h.type) hcolumns)
  have hfields : fieldsLines o t.columns = fieldsLines o t'.columns := by
    rw [fieldsLines, map_eq_of_forall₂ (fun h => h.fieldLines_eq o) hcolumns, fieldsLines]
  have haccessors : t.columns.flatMap accessorLines = t'.columns.flatMap accessorLines := by
    rw [List.flatMap_def, map_eq_of_forall₂ (fun h => h.accessorLines_eq) hcolumns,
      List.flatMap_def]
  rw [classText, classText, classLines, classLines, importLines, importLines, himports,
    classAnnotations, classAnnotations, hclass, hname, hfields, haccessors]

/-- With the annotations for the database, a class with such names says of its table what is mapped:
the name of the table and of its class, and for each column its name, its field with the type,
whether it is in the primary key and whether its values are then generated, and, where the field has
another name, whether it can be null. So two tables have the same class exactly if they differ in
nothing of that. -/
theorem read?_classText_and_classText_eq_iff (ho : o.jpa = true) (h : HasLineNames t)
    (h' : HasLineNames t') :
    ClassMapping.read? (classText o t) = some (.ofTable t) ∧
      (classText o t = classText o t' ↔ t.className = t'.className ∧ t.name = t'.name ∧
        List.Forall₂ MapsAlike t.columns t'.columns) := by
  have hread := read?_classText ho h
  refine ⟨hread, fun heq => ?_, fun ⟨hclass, hname, hcolumns⟩ =>
    classText_eq_of_mapsAlike o hclass hname hcolumns⟩
  rw [heq, read?_classText ho h'] at hread
  have hmapping := (Option.some.inj hread).symm
  exact ⟨congrArg ClassMapping.name hmapping, congrArg ClassMapping.table hmapping,
    forall₂_of_map_eq (congrArg ClassMapping.fields hmapping)⟩

end Tables

/-- A table with a renamed key and another column. -/
def memberTable (c : Column) : Table where
  name := "club members"
  className := "ClubMembers"
  columns := [{
    name := "member\"id", fieldName := "memberId", type := .long, primaryKey := true,
    autoIncrement := true, nullable := false }, c]

/-- A column of which the field and the mark are given. -/
def noteColumn (field : String) (nullable : Bool) : Column where
  name := "note"
  fieldName := field
  type := .string
  nullable := nullable

/-- Whether a column can be null is read where its field has another name, and only there. -/
theorem read?_classText_and_classText_eq_iff_memberTable :
    ClassMapping.read? (classText { lombok := false } (memberTable (noteColumn "note" false))) =
      some {
        table := "club members", name := "ClubMembers", fields := [
          ⟨"member\"id", "memberId", .long, true, true, true⟩,
          ⟨"note", "note", .string, false, false, false⟩] } ∧
      classText { lombok := false } (memberTable (noteColumn "note" false)) =
        classText { lombok := false } (memberTable (noteColumn "note" true)) ∧
      classText { lombok := false } (memberTable (noteColumn "memo" false)) ≠
        classText { lombok := false } (memberTable (noteColumn "memo" true)) := by
  have hnote : ∀ nullable, HasLineNames (memberTable (noteColumn "note" nullable)) := by
    intro nullable
    cases nullable <;> exact ⟨⟨by decide, by decide⟩, by decide, by decide⟩
  have hmemo : ∀ nullable, HasLineNames (memberTable (noteColumn "memo" nullable)) := by
    intro nullable
    cases nullable <;> exact ⟨⟨by decide, by decide⟩, by decide, by decide⟩
  have hjpa : Options.jpa { lombok := false } = true := rfl
  obtain ⟨hread, hsame⟩ :=
    read?_classText_and_classText_eq_iff hjpa (hnote false) (hnote true)
  obtain ⟨-, hother⟩ := read?_classText_and_classText_eq_iff hjpa (hmemo false) (hmemo true)
  refine ⟨hread, hsame.mpr ⟨rfl, rfl, ?_⟩, fun heq => ?_⟩
  · exact .cons ⟨rfl, rfl, rfl, rfl, fun _ => rfl, fun _ => rfl⟩
      (.cons ⟨rfl, rfl, rfl, rfl, fun _ => rfl, fun hne => absurd rfl hne⟩ .nil)
  · obtain ⟨-, -, hcolumns⟩ := hother.mp heq
    have hmark : (noteColumn "memo" false).nullable = (noteColumn "memo" true).nullable :=
      (List.forall₂_cons.mp (List.forall₂_cons.mp hcolumns).2).1.nullable (by decide)
    cases hmark

end EntityMapper.Java
