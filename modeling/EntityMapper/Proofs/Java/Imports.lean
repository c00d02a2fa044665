import EntityMapper.Proofs.Java.Families
import EntityMapper.Proofs.Java.Mapping

/-!
# What a class imports

The imports of a class are in the order of their paths, each once, and depend on nothing but the
options and the types of the columns. They are what the class needs: the names of types and
annotations in its lines are words of the language, or classes of a package that needs no import, or
they are imported.
-/

namespace EntityMapper.Java

open Schema Text

/-! ## Names in lines -/

/-- Where a character of source stands. -/
inductive Spot where
  | code
  | literal
  /-- Behind a backslash in a string literal. -/
  | escape

/-- Source without its string literals. -/
def outside : Spot → List Char → List Char
  | _, [] => []
  | .code, c :: cs => if c = '"' then outside .literal cs else c :: outside .code cs
  | .literal, c :: cs =>
    outside (if c = '"' then .code else if c = '\\' then .escape else .literal) cs
  | .escape, _ :: cs => outside .literal cs

/-- The words of source that stand in front of a dot. -/
def qualifiers (cs : List Char) : List String :=
  (split '.' cs).dropLast.map fun part =>
    String.ofList (part.reverse.takeWhile Char.isAlpha).reverse

/-- The names in the annotation that a line begins with: its own, and those of the types in its
arguments. -/
def annotationNames (line : String) : List String :=
  match annotation? line with
  | some name => name :: qualifiers (outside .code (line.toList.dropWhile (· == ' ')))
  | none => []

/-- The name in the type that a text begins with, which may be that of an array. -/
def typeName (s : String) : String :=
  String.ofList (s.toList.takeWhile fun c => c != ' ' && c != '[')

/-- The name in the type of the field that a line declares. -/
def fieldTypeNames (line : String) : List String :=
  ((behind? (indent ++ "private ") line).map typeName).toList

/-- The names in the types that a line of the accessors of a field gives: that of the result, and
that of the parameter of the setter. -/
def accessorTypeNames (field line : String) : List String :=
  let setter := indent ++ "public void set" ++ String.ofList (Naming.capitalize field.toList) ++ "("
  ((behind? (indent ++ "public ") line).map typeName).toList ++
    ((behind? setter line).map typeName).toList

/-- The names of types and annotations in the annotations of a class, its fields and its
accessors. -/
def usedNames (o : Options) (t : Table) : List String :=
  (classAnnotations o t).flatMap annotationNames ++
    t.columns.flatMap (fun c =>
      (fieldLines o c).flatMap fun line => annotationNames line ++ fieldTypeNames line) ++
    if o.writesAccessors then
      t.columns.flatMap fun c => (accessorLines c).flatMap (accessorTypeNames c.fieldName)
    else []

/-! ## What names stand for -/

/-- The words of the language that stand for types. -/
def typeWords : List String :=
  ["boolean", "byte", "char", "short", "int", "long", "float", "double", "void"]

/-- Packages and names of theirs. -/
def packages : List (String × List String) :=
  [("java.lang", ["String", "Integer", "Long", "Short", "Byte", "Float", "Double", "Boolean"]),
   ("java.math", ["BigDecimal"]),
   ("java.time", ["LocalDate", "LocalDateTime", "LocalTime"]),
   ("javax.persistence",
    ["Entity", "Table", "Id", "GeneratedValue", "GenerationType", "Column"]),
   ("com.fasterxml.jackson.annotation", ["JsonProperty"]),
   ("lombok", ["Data", "NoArgsConstructor", "AllArgsConstructor"])]

/-- The package that a name is from. -/
def package? (name : String) : Option String :=
  (packages.find? (·.2.contains name)).map (·.1)

/-- A name stands for something under imports of the given paths: it is a word of the language or
from the package that needs no import, or it is imported by itself or with its package. -/
def IsKnown (paths : List String) (name : String) : Prop :=
  name ∈ typeWords ∨ ∃ package, package? name = some package ∧
    (package = "java.lang" ∨ package ++ "." ++ name ∈ paths ∨ package ++ ".*" ∈ paths)

/-! ## Which names are used -/

section Used

variable {o : Options} {t : Table} {c : Column}

/-- A literal is left out as a whole. -/
theorem outside_literal (s : String) {front : List Char} (hfront : '"' ∉ front)
    (rest : List Char) : outside .code (front ++ (literal s).toList ++ rest) =
      front ++ outside .code rest := by
  have hinside : ∀ cs : List Char,
      outside .literal (cs.flatMap escaped ++ '"' :: rest) = outside .code rest := by
    intro cs
    induction cs with
    | nil => rfl
    | cons c cs ih =>
      rw [List.flatMap_cons, escaped, List.append_assoc]
      split
      · exact ih
      · rename_i hc
        rw [not_or] at hc
        rw [List.singleton_append, outside, if_neg hc.2, if_neg hc.1, ih]
  induction front with
  | nil => simp [literal, outside, hinside]
  | cons c front ih =>
    rw [List.mem_cons, not_or] at hfront
    rw [List.cons_append, List.cons_append, outside, if_neg (Ne.symm hfront.1), ih hfront.2,
      List.cons_append]

/-- Indentation does not hide the names in an annotation. -/
theorem annotationNames_indent (line : String) :
    annotationNames (indent ++ line) = annotationNames line := by
  have hdrop : (indent ++ line).toList.dropWhile (· == ' ') =
      line.toList.dropWhile (· == ' ') := by
    simp [indent]
  rw [annotationNames, annotationNames, annotation?_indent, hdrop]

/-- An annotation whose arguments begin with a literal names nothing else, whatever the literal is
that of. -/
theorem annotationNames_literal {start name : String} (s rest : String)
    (hstart : ∀ line, annotation? (start ++ line) = some name) (hquote : '"' ∉ start.toList)
    (hblank : start.toList.head? = some '@')
    (hnone : qualifiers (start.toList ++ outside .code rest.toList) = []) :
    annotationNames (start ++ (literal s ++ rest)) = [name] := by
  have hdrop : (start ++ (literal s ++ rest)).toList.dropWhile (· == ' ') =
      start.toList ++ (literal s).toList ++ rest.toList := by
    obtain ⟨c, cs, hcs⟩ : ∃ c cs, start.toList = c :: cs := by
      cases hcs : start.toList with
      | nil => simp [hcs] at hblank
      | cons c cs => exact ⟨c, cs, rfl⟩
    simp [hcs] at hblank
    simp [hcs, hblank]
  rw [annotationNames, hstart, hdrop, outside_literal s hquote]
  simp [hnone]

theorem names_ite (condition : Bool) (lines : List String) :
    (if condition then lines else []).flatMap annotationNames =
      if condition then lines.flatMap annotationNames else [] := by
  cases condition <;> rfl

/-- The names in the class annotations, by the options that ask for them. -/
theorem names_classAnnotations (o : Options) (t : Table) :
    (classAnnotations o t).flatMap annotationNames =
      (if o.jpa then ["Entity", "Table"] else []) ++
        if o.lombok then ["Data", "NoArgsConstructor", "AllArgsConstructor"] else [] := by
  have hentity : annotationNames "@Entity" = ["Entity"] := by decide
  have htable : annotationNames ("@Table(name = " ++ literal t.name ++ ")") = ["Table"] := by
    rw [String.append_assoc]
    exact annotationNames_literal t.name ")" annotation?_table (by decide) (by decide) (by decide)
  have hlombok : ["@Data", "@NoArgsConstructor", "@AllArgsConstructor"].flatMap annotationNames =
      ["Data", "NoArgsConstructor", "AllArgsConstructor"] := by decide
  rw [classAnnotations, List.flatMap_append, names_ite, names_ite, hlombok, List.flatMap_cons,
    List.flatMap_singleton, hentity, htable]
  rfl

/-- The names in the annotations of a field, by the options that ask for them. -/
theorem names_fieldAnnotations (o : Options) (c : Column) :
    (fieldAnnotations o c).flatMap annotationNames =
      (if c.primaryKey && o.jpa then
        "Id" :: if c.autoIncrement then ["GeneratedValue", "GenerationType"] else [] else []) ++
      (if o.jpa && isRenamed c then ["Column"] else []) ++
      if o.jackson && isRenamed c then ["JsonProperty"] else [] := by
  have hkey : ("@Id" ::
      if c.autoIncrement then ["@GeneratedValue(strategy = GenerationType.IDENTITY)"]
      else []).flatMap annotationNames =
      "Id" :: if c.autoIncrement then ["GeneratedValue", "GenerationType"] else [] := by
    cases c.autoIncrement <;> decide
  have hcolumn : annotationNames ("@Column(name = " ++ literal c.name ++
      (if c.nullable then "" else ", nullable = false") ++ ")") = ["Column"] := by
    rw [String.append_assoc, String.append_assoc]
    cases c.nullable
    · exact annotationNames_literal c.name ", nullable = false)" annotation?_column (by decide)
        (by decide) (by decide)
    · exact annotationNames_literal c.name ")" annotation?_column (by decide) (by decide)
        (by decide)
  have hproperty : annotationNames ("@JsonProperty(" ++ literal c.name ++ ")") =
      ["JsonProperty"] := by
    rw [String.append_assoc]
    exact annotationNames_literal c.name ")" annotation?_property (by decide) (by decide)
      (by decide)
  rw [fieldAnnotations, List.flatMap_append, List.flatMap_append, names_ite, names_ite, names_ite,
    hkey, List.flatMap_singleton, List.flatMap_singleton, hcolumn, hproperty]

/-- The name in a type, read in front of the name of a field. -/
theorem typeName_append (type : JavaType) (rest : String) :
    typeName (type.name ++ (" " ++ rest)) = typeName type.name := by
  cases type <;> simp [typeName, JavaType.name]

/-- The lines of a field use the names in its annotations and that of its type. -/
theorem names_fieldLines (o : Options) (c : Column) :
    ((fieldLines o c).flatMap fun line => annotationNames line ++ fieldTypeNames line) =
      (fieldAnnotations o c).flatMap annotationNames ++ [typeName c.type.name] := by
  have hdeclared : annotationNames (indent ++ fieldDeclaration c) = [] := by
    simp [annotationNames, annotation?, fieldDeclaration, indent]
  have htype : fieldTypeNames (indent ++ fieldDeclaration c) = [typeName c.type.name] := by
    have hline : indent ++ fieldDeclaration c =
        indent ++ "private " ++ (c.type.name ++ (" " ++ (c.fieldName ++ ";"))) := by
      simp [fieldDeclaration, String.append_assoc]
    rw [fieldTypeNames, hline, behind?_append, Option.map_some, typeName_append]
    rfl
  have hannotations : ∀ line ∈ fieldAnnotations o c, fieldTypeNames (indent ++ line) = [] := by
    refine forall_mem_fieldAnnotations (by decide) (fun s _ => ?_) ?_
    · simp [fieldTypeNames, behind?, indent, List.dropPrefix?]
    · simp [fieldTypeNames, behind?, indent, List.dropPrefix?]
  rw [fieldLines, List.flatMap_map, List.flatMap_append, List.flatMap_singleton, hdeclared, htype]
  refine congrArg (· ++ [typeName c.type.name]) (List.flatMap_congr fun line hline => ?_)
  rw [hannotations line hline, List.append_nil, annotationNames_indent]

/-- The getter gives the type of its result, and the setter the word for none and the type of its
parameter. -/
theorem names_accessorLines (c : Column) :
    (accessorLines c).flatMap (accessorTypeNames c.fieldName) =
      [typeName c.type.name, "void", typeName c.type.name] := by
  have hgetter (s : String) : accessorTypeNames c.fieldName
      (indent ++ "public " ++ c.type.name ++ " get" ++ s ++ "() \x7b") =
        [typeName c.type.name] := by
    have hget : " get" = " " ++ "get" := by decide
    have hline : indent ++ "public " ++ c.type.name ++ " get" ++ s ++ "() \x7b" =
        indent ++ "public " ++ (c.type.name ++ (" " ++ ("get" ++ (s ++ "() \x7b")))) := by
      simp only [hget, String.append_assoc]
    obtain ⟨d, ds, hname, hvoid⟩ : ∃ d ds, c.type.name.toList = d :: ds ∧ d ≠ 'v' := by
      cases c.type <;> exact ⟨_, _, rfl, by decide⟩
    rw [hline, accessorTypeNames, behind?_append, Option.map_some, typeName_append]
    simp [behind?, indent, List.dropPrefix?, hname, hvoid]
  have hsetter (s : String) : accessorTypeNames c.fieldName
      (indent ++ "public void set" ++ String.ofList (Naming.capitalize c.fieldName.toList) ++ "(" ++
        c.type.name ++ " " ++ s ++ ") \x7b") = ["void", typeName c.type.name] := by
    have hline : indent ++ "public void set" ++
        String.ofList (Naming.capitalize c.fieldName.toList) ++ "(" ++ c.type.name ++ " " ++ s ++
          ") \x7b" =
        indent ++ "public void set" ++ String.ofList (Naming.capitalize c.fieldName.toList) ++
          "(" ++ (c.type.name ++ (" " ++ (s ++ ") \x7b"))) := by
      simp only [String.append_assoc]
    rw [hline, accessorTypeNames, behind?_append, Option.map_some, typeName_append]
    simp [behind?, indent, List.dropPrefix?, typeName]
  have hreturn (s : String) :
      accessorTypeNames c.fieldName (indent ++ indent ++ "return " ++ s ++ ";") = [] := by
    simp [accessorTypeNames, behind?, indent, List.dropPrefix?]
  have hassign (s : String) :
      accessorTypeNames c.fieldName (indent ++ indent ++ "this." ++ s ++ " = " ++ s ++ ";") =
        [] := by
    simp [accessorTypeNames, behind?, indent, List.dropPrefix?]
  have hother : accessorTypeNames c.fieldName "" = [] ∧
      accessorTypeNames c.fieldName (indent ++ "\x7d") = [] := by
    simp [accessorTypeNames, behind?, indent, List.dropPrefix?]
  simp only [accessorLines, List.flatMap_cons, hgetter, hsetter, hreturn, hassign, hother.1,
    hother.2]
  rfl

end Used

/-! ## What is imported -/

section Imports

variable {o : Options} {t : Table} {i : Import}

/-- Whether an import lets a name stand for something of its package. -/
def Import.gives (i : Import) (name : String) : Bool :=
  (package? name).any fun package =>
    i.path == package ++ "." ++ name || i.path == package ++ ".*"

/-- The imports are exactly those that are needed. -/
theorem mem_imports_iff : i ∈ imports o t ↔ i.isNeeded o t = true := by
  have hall : i ∈ Import.all := by cases i <;> decide
  simp [imports, hall]

/-- A class is imported for the columns of its type. -/
theorem isNeeded_iff_of_fieldType? {type : JavaType} (h : i.fieldType? = some type) :
    i.isNeeded o t = true ↔ ∃ c ∈ t.columns, c.type = type := by
  have hneeded : i.isNeeded o t = t.columns.any fun c => i.fieldType? == some c.type := by
    cases i <;> first | rfl | cases h
  rw [hneeded, List.any_eq_true]
  simp only [h, beq_iff_eq, Option.some.injEq, eq_comm (a := type)]

/-- The paths of all imports are listed in order. -/
theorem sorted_all : (Import.all.map Import.path).Pairwise (· < ·) := by
  decide +kernel

/-- The paths of the imports are in strict order. -/
theorem paths_sorted (o : Options) (t : Table) : ((imports o t).map Import.path).Pairwise (· < ·) :=
  sorted_all.sublist (List.filter_sublist.map _)

/-- No two imports have the same path. -/
theorem Import.path_injective : Function.Injective Import.path := by
  have hall : ∀ i, i ∈ Import.all := by
    intro i
    cases i <;> decide
  have hnodup : (Import.all.map Import.path).Nodup := sorted_all.imp fun h => String.ne_of_lt h
  exact fun i j h => List.inj_on_of_nodup_map hnodup (hall i) (hall j) h

/-- What is imported depends on which columns there are, and not on their order or number. -/
theorem imports_congr {t' : Table} (h : ∀ c, c ∈ t'.columns ↔ c ∈ t.columns) :
    imports o t' = imports o t := by
  have hany (f : Column → Bool) : t'.columns.any f = t.columns.any f := by
    rw [Bool.eq_iff_iff, List.any_eq_true, List.any_eq_true]
    simp only [h]
  refine List.filter_congr fun i _ => ?_
  cases i <;> first | rfl | exact hany _

/-- A name that a needed import gives is known. -/
theorem isKnown_of_gives {name : String} (hneeded : i.isNeeded o t = true)
    (h : i.gives name = true) : IsKnown ((imports o t).map Import.path) name := by
  have hmem : i.path ∈ (imports o t).map Import.path :=
    List.mem_map_of_mem (mem_imports_iff.mpr hneeded)
  rw [Import.gives, Option.any_eq_true] at h
  obtain ⟨package, hpackage, h⟩ := h
  rw [Bool.or_eq_true, beq_iff_eq, beq_iff_eq] at h
  refine .inr ⟨package, hpackage, .inr ?_⟩
  rcases h with h | h
  · exact .inl (h ▸ hmem)
  · exact .inr (h ▸ hmem)

/-- The type of a column is known. -/
theorem isKnown_type {c : Column} (hc : c ∈ t.columns) :
    IsKnown ((imports o t).map Import.path) (typeName c.type.name) := by
  have htype : typeName c.type.name ∈ typeWords ∨
      package? (typeName c.type.name) = some "java.lang" ∨
      ∃ i ∈ Import.all, i.fieldType? = some c.type ∧ i.gives (typeName c.type.name) = true := by
    cases c.type <;> decide
  rcases htype with hword | hlang | ⟨i, -, hfield, hgives⟩
  · exact .inl hword
  · exact .inr ⟨_, hlang, .inl rfl⟩
  · exact isKnown_of_gives ((isNeeded_iff_of_fieldType? hfield).mpr ⟨c, hc, rfl⟩) hgives

/-- Every name in the class annotations is known under the imports. -/
theorem isKnown_classAnnotations {name : String}
    (h : name ∈ (classAnnotations o t).flatMap annotationNames) :
    IsKnown ((imports o t).map Import.path) name := by
  have hpersistence : ∀ name ∈ ["Entity", "Table"], Import.persistence.gives name = true := by
    decide
  have hlombok : ∀ name ∈ ["Data", "NoArgsConstructor", "AllArgsConstructor"],
      ∃ i ∈ Family.lombok.imports, i.gives name = true := by decide
  have hneeded : ∀ i ∈ Family.lombok.imports, o.lombok = true → i.isNeeded o t = true := by
    simp [Family.imports, Import.isNeeded]
  rw [names_classAnnotations, List.mem_append] at h
  rcases h with h | h
  · split at h
    · rename_i ho
      exact isKnown_of_gives (i := .persistence) ho (hpersistence name h)
    · cases h
  · split at h
    · rename_i ho
      obtain ⟨i, hi, hgives⟩ := hlombok name h
      exact isKnown_of_gives (hneeded i hi ho) hgives
    · cases h

/-- Every name in the annotations of a field is known under the imports. -/
theorem isKnown_fieldAnnotations {c : Column} {name : String}
    (h : name ∈ (fieldAnnotations o c).flatMap annotationNames) :
    IsKnown ((imports o t).map Import.path) name := by
  have hpersistence : ∀ name ∈ ["Id", "GeneratedValue", "GenerationType", "Column"],
      Import.persistence.gives name = true := by decide
  have hkey : ("Id" :: if c.autoIncrement then ["GeneratedValue", "GenerationType"] else []) ⊆
      ["Id", "GeneratedValue", "GenerationType", "Column"] := by
    cases c.autoIncrement <;> decide
  rw [names_fieldAnnotations, List.mem_append, List.mem_append] at h
  rcases h with (h | h) | h
  · split at h
    · rename_i ho
      exact isKnown_of_gives (i := .persistence) (Bool.and_eq_true_iff.mp ho).2
        (hpersistence name (hkey h))
    · cases h
  · split at h
    · rename_i ho
      obtain rfl := List.mem_singleton.mp h
      exact isKnown_of_gives (i := .persistence) (Bool.and_eq_true_iff.mp ho).1 (by decide)
    · cases h
  · split at h
    · rename_i ho
      obtain rfl := List.mem_singleton.mp h
      exact isKnown_of_gives (i := .jsonProperty) (Bool.and_eq_true_iff.mp ho).1 (by decide)
    · cases h

/-- Every name that a class uses is known under its imports. -/
theorem isKnown_of_mem_usedNames {name : String} (h : name ∈ usedNames o t) :
    IsKnown ((imports o t).map Import.path) name := by
  rw [usedNames, List.mem_append, List.mem_append] at h
  rcases h with (h | h) | h
  · exact isKnown_classAnnotations h
  · obtain ⟨c, hc, h⟩ := List.mem_flatMap.mp h
    rw [names_fieldLines, List.mem_append, List.mem_singleton] at h
    rcases h with h | rfl
    · exact isKnown_fieldAnnotations h
    · exact isKnown_type hc
  · split at h
    · obtain ⟨c, hc, h⟩ := List.mem_flatMap.mp h
      have hvoid : "void" ∈ typeWords := by decide
      rw [names_accessorLines] at h
      simp only [List.mem_cons, List.not_mem_nil, or_false] at h
      rcases h with rfl | rfl | rfl
      · exact isKnown_type hc
      · exact .inl hvoid
      · exact isKnown_type hc
    · cases h

/-- The types of fields that have to be imported, with what imports them. -/
def importedTypes : List (String × JavaType) :=
  [("java.math.BigDecimal", .bigDecimal), ("java.time.LocalDate", .localDate),
   ("java.time.LocalDateTime", .localDateTime), ("java.time.LocalTime", .localTime)]

/-- Such a type is imported if a column has it. -/
theorem mem_paths_iff {path : String} {type : JavaType} (h : (path, type) ∈ importedTypes) :
    path ∈ (imports o t).map Import.path ↔ ∃ c ∈ t.columns, c.type = type := by
  have himport : ∀ x ∈ importedTypes,
      ∃ i ∈ Import.all, i.path = x.1 ∧ i.fieldType? = some x.2 := by decide
  obtain ⟨i, -, rfl, htype⟩ := himport _ h
  rw [← isNeeded_iff_of_fieldType? htype, ← mem_imports_iff,
    List.mem_map_of_injective Import.path_injective]

/-- The imports of a class are sorted strictly by their paths, and do not depend on the order or
repetition of the columns. From the packages of numbers and dates exactly the types that a column
has are imported. Under the imports every name of a type or an annotation that the class uses stands
for something. -/
theorem imports_exact (o : Options) (t : Table) :
    ((imports o t).map Import.path).Pairwise (· < ·) ∧
      (∀ t' : Table, (∀ c, c ∈ t'.columns ↔ c ∈ t.columns) → imports o t' = imports o t) ∧
      (∀ path type, (path, type) ∈ importedTypes →
        (path ∈ (imports o t).map Import.path ↔ ∃ c ∈ t.columns, c.type = type)) ∧
      (∀ path ∈ (imports o t).map Import.path, "java.".toList <+: path.toList →
        ∃ type, (path, type) ∈ importedTypes) ∧
      ∀ name ∈ usedNames o t, IsKnown ((imports o t).map Import.path) name := by
  refine ⟨paths_sorted o t, fun t' h => imports_congr h, fun path type h => mem_paths_iff h,
    fun path hpath hjava => ?_, fun name h => isKnown_of_mem_usedNames h⟩
  have htyped : ∀ i : Import, "java.".toList <+: i.path.toList →
      ∃ x ∈ importedTypes, x.1 = i.path := by
    intro i
    cases i <;> decide
  obtain ⟨i, -, rfl⟩ := List.mem_map.mp hpath
  obtain ⟨⟨path, type⟩, hmem, rfl⟩ := htyped i hjava
  exact ⟨type, hmem⟩

end Imports

/-- A table with a renamed key and the given other columns. -/
def invoiceTable (columns : List Column) : Table where
  name := "invoice"
  className := "Invoice"
  columns := {
    name := "GenerationType.X", fieldName := "id", type := .bytes, primaryKey := true,
    autoIncrement := true } :: columns

/-- Without the annotations that stand for accessors, a class with a price and two dates imports
what it uses, and the order and number of its columns do not matter. -/
theorem imports_exact_invoiceTable :
    let price : Column := { name := "price", fieldName := "price", type := .bigDecimal }
    let date : Column := { name := "date", fieldName := "date", type := .localDate }
    let o : Options := { lombok := false }
    ((imports o (invoiceTable [date, price, date])).map Import.path).Pairwise (· < ·) ∧
      imports o (invoiceTable [price, date]) = imports o (invoiceTable [date, price, date]) ∧
      "java.time.LocalDate" ∈ (imports o (invoiceTable [price, date])).map Import.path ∧
      "java.time.LocalTime" ∉ (imports o (invoiceTable [price, date])).map Import.path ∧
      usedNames { o with accessors := false } (invoiceTable [price]) =
        ["Entity", "Table", "Id", "GeneratedValue", "GenerationType", "Column", "JsonProperty",
          "byte", "BigDecimal"] ∧
      IsKnown ((imports o (invoiceTable [price])).map Import.path) "GenerationType" := by
  intro price date o
  obtain ⟨hsorted, hsame, -, -, -⟩ := imports_exact o (invoiceTable [date, price, date])
  obtain ⟨-, -, htypes, -, -⟩ := imports_exact o (invoiceTable [price, date])
  obtain ⟨-, -, -, -, hknown⟩ := imports_exact o (invoiceTable [price])
  have hdate : date ∈ (invoiceTable [price, date]).columns := by simp [invoiceTable]
  refine ⟨hsorted, hsame _ ?_, (htypes _ .localDate (by decide)).mpr ⟨date, hdate, rfl⟩,
    fun h => ?_, by decide +kernel, hknown _ (by decide +kernel)⟩
  · simp only [invoiceTable, List.mem_cons, List.not_mem_nil, or_false]
    intro c
    tauto
  · obtain ⟨c, hc, htype⟩ := (htypes _ .localTime (by decide)).mp h
    simp only [invoiceTable, List.mem_cons, List.not_mem_nil, or_false] at hc
    rcases hc with rfl | rfl | rfl <;> cases htype

end EntityMapper.Java
