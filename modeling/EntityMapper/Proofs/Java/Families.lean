import EntityMapper.Proofs.Java.Lines

/-!
# What an option controls

Each family of annotations has imports and annotations of its own. Without the family the lines of a
class are those that remain when the lines of the family are taken out, in their order: no line of
another family goes or comes. Only the blank line behind the imports goes with the last import, and
the accessors come where the annotations that stand for them go.
-/

namespace EntityMapper.Java

open Schema

/-- The families of annotations, each switched by an option. -/
inductive Family where
  | jpa
  | lombok
  | jackson
  deriving DecidableEq, Repr

/-- The annotation that a line begins with, behind its indentation. -/
def annotation? (line : String) : Option String :=
  match line.toList.dropWhile (· == ' ') with
  | '@' :: cs => some (String.ofList (cs.takeWhile (· != '(')))
  | _ => none

namespace Family

/-- The options with a family switched on or off. -/
def set (f : Family) (on : Bool) (o : Options) : Options :=
  match f with
  | .jpa => { o with jpa := on }
  | .lombok => { o with lombok := on }
  | .jackson => { o with jackson := on }

/-- Whether the options ask for a family. -/
def isOn (f : Family) (o : Options) : Bool :=
  match f with
  | .jpa => o.jpa
  | .lombok => o.lombok
  | .jackson => o.jackson

/-- What a family imports. -/
def imports : Family → List Import
  | .jpa => [.persistence]
  | .lombok => [.allArgsConstructor, .data, .noArgsConstructor]
  | .jackson => [.jsonProperty]

/-- The annotations of a family. -/
def annotations : Family → List String
  | .jpa => ["Entity", "Table", "Id", "GeneratedValue", "Column"]
  | .lombok => ["Data", "NoArgsConstructor", "AllArgsConstructor"]
  | .jackson => ["JsonProperty"]

/-- Whether a line belongs to a family: it makes one of its imports or begins with one of its
annotations. -/
def owns (f : Family) (line : String) : Bool :=
  (f.imports.any fun i => line == "import " ++ i.path ++ ";") ||
    (annotation? line).any f.annotations.contains

end Family

/-- The blank line behind the imports, where none is left that it could stand behind. -/
def strayBlank (o : Options) (t : Table) : List String :=
  if imports o t = [] then [""] else []

/-! ## Which lines belong to a family -/

section Lines

variable {f : Family} {line : String}

/-- Indentation does not hide an annotation. -/
theorem annotation?_indent (line : String) : annotation? (indent ++ line) = annotation? line := by
  simp [annotation?, indent]

/-- An import line is no annotation. -/
theorem annotation?_import (i : Import) : annotation? ("import " ++ i.path ++ ";") = none := by
  cases i <;> decide

theorem annotation?_table (s : String) : annotation? ("@Table(name = " ++ s) = some "Table" := by
  simp [annotation?]

theorem annotation?_column (s : String) : annotation? ("@Column(name = " ++ s) = some "Column" := by
  simp [annotation?]

theorem annotation?_property (s : String) :
    annotation? ("@JsonProperty(" ++ s) = some "JsonProperty" := by
  simp [annotation?]

/-- A family owns the lines of exactly its imports. -/
theorem owns_import (f : Family) (i : Import) :
    f.owns ("import " ++ i.path ++ ";") = f.imports.contains i := by
  cases f <;> cases i <;> decide

/-- An annotation belongs to the family that has its name. -/
theorem owns_of_annotation? {name : String} (h : annotation? line = some name) :
    f.owns line = f.annotations.contains name := by
  have himport : (f.imports.any fun i => line == "import " ++ i.path ++ ";") = false := by
    rw [List.any_eq_false]
    intro i _ heq
    rw [eq_of_beq heq, annotation?_import] at h
    cases h
  rw [Family.owns, himport, h]
  rfl

/-- A line belongs to no family if it is neither an annotation nor an import. -/
theorem owns_eq_false (h : annotation? line = none) (himport : line.toList.head? ≠ some 'i') :
    f.owns line = false := by
  have hnone : (f.imports.any fun i => line == "import " ++ i.path ++ ";") = false := by
    rw [List.any_eq_false]
    intro i _ heq
    rw [eq_of_beq heq] at himport
    exact himport (by simp)
  rw [Family.owns, hnone, h]
  rfl

end Lines

/-! ## The parts of a class -/

section Parts

variable {f : Family} {o : Options} {t : Table}

/-- A family switches the need of its own imports and of no others. -/
theorem isNeeded_set (f : Family) (on : Bool) (o : Options) (t : Table) (i : Import) :
    i.isNeeded (f.set on o) t = if f.imports.contains i then on else i.isNeeded o t := by
  cases f <;> cases i <;> rfl

/-- Without a family the other imports are left. -/
theorem imports_set (f : Family) (o : Options) (t : Table) :
    imports (f.set false o) t =
      (imports (f.set true o) t).filter fun i => !f.imports.contains i := by
  rw [imports, imports, List.filter_filter]
  refine List.filter_congr fun i _ => ?_
  rw [isNeeded_set, isNeeded_set]
  cases f.imports.contains i <;> simp

/-- With a family switched on there is an import. -/
theorem imports_set_ne_nil (f : Family) (o : Options) (t : Table) :
    imports (f.set true o) t ≠ [] := by
  obtain ⟨i, hi⟩ : ∃ i, f.imports.contains i = true := by
    cases f
    · exact ⟨.persistence, rfl⟩
    · exact ⟨.data, rfl⟩
    · exact ⟨.jsonProperty, rfl⟩
  have hall : i ∈ Import.all := by cases i <;> decide
  refine List.ne_nil_of_mem (List.mem_filter.mpr ⟨hall, ?_⟩ : i ∈ _)
  rw [isNeeded_set, if_pos hi]

/-- Without the lines of a family the import lines are those without the family, but for the stray
blank line. -/
theorem filter_importLines (f : Family) (o : Options) (t : Table) :
    (importLines (f.set true o) t).filter (!f.owns ·) =
      strayBlank (f.set false o) t ++ importLines (f.set false o) t := by
  have hblank : f.owns "" = false := owns_eq_false (by decide) (by decide)
  have hlines : ((imports (f.set true o) t).map fun i => "import " ++ i.path ++ ";").filter
      (!f.owns ·) = (imports (f.set false o) t).map fun i => "import " ++ i.path ++ ";" := by
    rw [imports_set, List.filter_map]
    simp only [Function.comp_def, owns_import]
  have hon : importLines (f.set true o) t =
      ((imports (f.set true o) t).map fun i => "import " ++ i.path ++ ";") ++ [""] := by
    rw [importLines]
    split
    · rename_i hnil
      exact absurd hnil (imports_set_ne_nil f o t)
    · rfl
  rw [hon, List.filter_append, hlines, importLines, strayBlank]
  cases imports (f.set false o) t <;> simp [hblank]

/-- Switching a family changes whether it is on, and no other family. -/
theorem isOn_set (f g : Family) (on : Bool) (o : Options) :
    g.isOn (f.set on o) = if f = g then on else g.isOn o := by
  cases f <;> cases g <;> rfl

/-- No two families have an annotation of one name. -/
theorem contains_annotations {f g : Family} {name : String} (h : name ∈ g.annotations) :
    f.annotations.contains name = decide (f = g) := by
  have hall : ∀ f g : Family, ∀ name ∈ g.annotations,
      f.annotations.contains name = decide (f = g) := by
    intro f g
    cases f <;> cases g <;> decide
  exact hall f g name h

/-- Annotations of a family that are written if the family is switched on go with it, and stay if
another one goes. -/
theorem filter_annotations (f : Family) {g : Family} (condition : Bool) {lines : List String}
    (h : ∀ line ∈ lines, ∃ name ∈ g.annotations, annotation? line = some name) :
    (if g.isOn (f.set true o) && condition then lines else []).filter (!f.owns ·) =
      if g.isOn (f.set false o) && condition then lines else [] := by
  have howns : ∀ line ∈ lines, f.owns line = decide (f = g) := by
    intro line hline
    obtain ⟨name, hname, hread⟩ := h line hline
    rw [owns_of_annotation? hread, contains_annotations hname]
  rw [isOn_set, isOn_set]
  by_cases hfg : f = g
  · have hnone : lines.filter (!f.owns ·) = [] := by
      rw [List.filter_eq_nil_iff]
      intro line hline
      rw [howns line hline, hfg]
      simp
    rw [if_pos hfg, if_pos hfg]
    cases condition
    · rfl
    · exact hnone
  · have hall : lines.filter (!f.owns ·) = lines := by
      rw [List.filter_eq_self]
      intro line hline
      rw [howns line hline, decide_eq_false hfg]
      rfl
    rw [if_neg hfg, if_neg hfg]
    split
    · exact hall
    · rfl

/-- Without the lines of a family the class annotations are those without the family. -/
theorem filter_classAnnotations (f : Family) (o : Options) (t : Table) :
    (classAnnotations (f.set true o) t).filter (!f.owns ·) =
      classAnnotations (f.set false o) t := by
  have heq (o : Options) : classAnnotations o t =
      (if Family.jpa.isOn o && true then ["@Entity", "@Table(name = " ++ literal t.name ++ ")"]
        else []) ++
      if Family.lombok.isOn o && true then ["@Data", "@NoArgsConstructor", "@AllArgsConstructor"]
        else [] := by
    simp [classAnnotations, Family.isOn]
  have hjpa : ∀ line ∈ ["@Entity", "@Table(name = " ++ literal t.name ++ ")"],
      ∃ name ∈ Family.jpa.annotations, annotation? line = some name := by
    rw [List.forall_mem_cons, List.forall_mem_singleton, String.append_assoc]
    exact ⟨by decide, "Table", by decide, annotation?_table _⟩
  have hlombok : ∀ line ∈ ["@Data", "@NoArgsConstructor", "@AllArgsConstructor"],
      ∃ name ∈ Family.lombok.annotations, annotation? line = some name := by decide
  rw [heq, heq, List.filter_append, filter_annotations f true hjpa,
    filter_annotations f true hlombok]

/-- Without the lines of a family the annotations of a field are those without the family. -/
theorem filter_fieldAnnotations (f : Family) (o : Options) (c : Column) :
    (fieldAnnotations (f.set true o) c).filter (!f.owns ·) =
      fieldAnnotations (f.set false o) c := by
  have heq (o : Options) : fieldAnnotations o c =
      (if Family.jpa.isOn o && c.primaryKey then
        "@Id" ::
          if c.autoIncrement then ["@GeneratedValue(strategy = GenerationType.IDENTITY)"] else []
        else []) ++
      (if Family.jpa.isOn o && isRenamed c then
        ["@Column(name = " ++ literal c.name ++
          (if c.nullable then "" else ", nullable = false") ++ ")"]
        else []) ++
      if Family.jackson.isOn o && isRenamed c then ["@JsonProperty(" ++ literal c.name ++ ")"]
        else [] := by
    rw [fieldAnnotations, Bool.and_comm c.primaryKey]
    rfl
  have hkey : ∀ line ∈ "@Id" ::
      (if c.autoIncrement then ["@GeneratedValue(strategy = GenerationType.IDENTITY)"] else []),
      ∃ name ∈ Family.jpa.annotations, annotation? line = some name := by
    cases c.autoIncrement <;> decide
  have hcolumn : ∀ line ∈ ["@Column(name = " ++ literal c.name ++
      (if c.nullable then "" else ", nullable = false") ++ ")"],
      ∃ name ∈ Family.jpa.annotations, annotation? line = some name := by
    rw [List.forall_mem_singleton, String.append_assoc, String.append_assoc]
    exact ⟨"Column", by decide, annotation?_column _⟩
  have hproperty : ∀ line ∈ ["@JsonProperty(" ++ literal c.name ++ ")"],
      ∃ name ∈ Family.jackson.annotations, annotation? line = some name := by
    rw [List.forall_mem_singleton, String.append_assoc]
    exact ⟨"JsonProperty", by decide, annotation?_property _⟩
  rw [heq, heq, List.filter_append, List.filter_append, filter_annotations f _ hkey,
    filter_annotations f _ hcolumn, filter_annotations f _ hproperty]

/-- Without the lines of a family the lines of a field are those without the family. -/
theorem filter_fieldLines (f : Family) (o : Options) (c : Column) :
    (fieldLines (f.set true o) c).filter (!f.owns ·) = fieldLines (f.set false o) c := by
  have hread : ∀ line ∈ fieldAnnotations (f.set true o) c, (annotation? line).isSome = true := by
    refine forall_mem_fieldAnnotations (by decide) (fun s _ => ?_) ?_
    · rw [String.append_assoc, String.append_assoc, annotation?_column]
      rfl
    · rw [String.append_assoc, annotation?_property]
      rfl
  have hindent : ∀ line ∈ fieldAnnotations (f.set true o) c,
      f.owns (indent ++ line) = f.owns line := by
    intro line hline
    obtain ⟨name, hname⟩ := Option.isSome_iff_exists.mp (hread line hline)
    rw [owns_of_annotation? hname, owns_of_annotation? ((annotation?_indent line).trans hname)]
  have hfield : f.owns (indent ++ fieldDeclaration c) = false := by
    refine owns_eq_false ?_ (by simp [indent])
    rw [annotation?_indent]
    simp [annotation?, fieldDeclaration]
  have hannotations : ((fieldAnnotations (f.set true o) c).map (indent ++ ·)).filter (!f.owns ·) =
      (fieldAnnotations (f.set false o) c).map (indent ++ ·) := by
    rw [List.filter_map, ← filter_fieldAnnotations]
    congr 1
    exact List.filter_congr fun line hline => congrArg (!·) (hindent line hline)
  rw [fieldLines, fieldLines, List.map_append, List.map_append, List.filter_append, hannotations]
  simp [hfield]

/-- Without the lines of a family the lines of all fields are those without the family. -/
theorem filter_fieldsLines (f : Family) (o : Options) (cs : List Column) :
    (fieldsLines (f.set true o) cs).filter (!f.owns ·) = fieldsLines (f.set false o) cs := by
  have hblank : f.owns "" = false := owns_eq_false (by decide) (by decide)
  induction cs with
  | nil => rfl
  | cons c cs ih =>
    cases cs with
    | nil => simpa [fieldsLines] using filter_fieldLines f o c
    | cons next cs =>
      rw [fieldsLines_cons, fieldsLines_cons, List.filter_append, filter_fieldLines,
        List.filter_cons_of_pos (by simp [hblank]), ih]

/-- No line of an accessor belongs to a family. -/
theorem owns_accessorLines (f : Family) (c : Column) :
    ∀ line ∈ accessorLines c, f.owns line = false := by
  intro line hline
  refine owns_eq_false ?_ ?_
  · revert line
    simp [accessorLines, annotation?, indent]
  · revert line
    simp [accessorLines, indent]

/-! ## Classes -/

/-- The lines of a class in front of its accessors. -/
def frontLines (o : Options) (t : Table) : List String :=
  importLines o t ++ classAnnotations o t ++ ["public class " ++ t.className ++ " \x7b", ""] ++
    fieldsLines o t.columns

/-- Without the lines of a family the lines in front of the accessors are those without the family,
but for the stray blank line. -/
theorem filter_frontLines (f : Family) (o : Options) (t : Table) :
    (frontLines (f.set true o) t).filter (!f.owns ·) =
      strayBlank (f.set false o) t ++ frontLines (f.set false o) t := by
  have hblank : f.owns "" = false := owns_eq_false (by decide) (by decide)
  have hhead : f.owns ("public class " ++ t.className ++ " \x7b") = false :=
    owns_eq_false (by simp [annotation?]) (by simp)
  have hclass : ["public class " ++ t.className ++ " \x7b", ""].filter (!f.owns ·) =
      ["public class " ++ t.className ++ " \x7b", ""] := by
    simp [hhead, hblank]
  simp only [frontLines, List.filter_append, filter_importLines, filter_classAnnotations,
    filter_fieldsLines, hclass, List.append_assoc]

/-- A class is its front lines, its accessors if asked for, and the closing brace. -/
theorem classLines_eq (o : Options) (t : Table) : classLines o t =
    frontLines o t ++ (if o.writesAccessors then t.columns.flatMap accessorLines else []) ++
      ["\x7d", ""] := rfl

/-- Where a family goes its lines go, and the blank line behind the imports if it takes the last
import; the accessors stay. -/
theorem filter_classLines (f : Family) (o : Options) (t : Table) :
    (classLines (f.set true o) t).filter (!f.owns ·) =
      strayBlank (f.set false o) t ++ frontLines (f.set false o) t ++
        (if (f.set true o).writesAccessors then t.columns.flatMap accessorLines else []) ++
          ["\x7d", ""] := by
  have haccessors : (if (f.set true o).writesAccessors then t.columns.flatMap accessorLines
      else []).filter (!f.owns ·) =
      if (f.set true o).writesAccessors then t.columns.flatMap accessorLines else [] := by
    rw [List.filter_eq_self]
    split
    · intro line hline
      obtain ⟨c, -, hline⟩ := List.mem_flatMap.mp hline
      rw [owns_accessorLines f c line hline]
      rfl
    · simp
  have hend : ["\x7d", ""].filter (!f.owns ·) = ["\x7d", ""] := by
    cases f <;> decide
  rw [classLines_eq, List.filter_append, List.filter_append, filter_frontLines, haccessors, hend]

/-- Every option controls its own lines and no others, whatever the other ones are. Without a family
of annotations the lines are those without its imports and annotations, in their order, and the
blank line behind the imports is left out as well if no import is left. The accessors come in front
of the closing brace if the annotations that stand for them go and they are asked for; without those
annotations it is the accessors that their own option controls, and with them it controls
nothing. -/
theorem classLines_switched (o : Options) (t : Table) :
    (classLines { o with jpa := true } t).filter (!Family.jpa.owns ·) =
        strayBlank { o with jpa := false } t ++ classLines { o with jpa := false } t ∧
      (classLines { o with jackson := true } t).filter (!Family.jackson.owns ·) =
        strayBlank { o with jackson := false } t ++ classLines { o with jackson := false } t ∧
      (∃ front,
        (classLines { o with lombok := true } t).filter (!Family.lombok.owns ·) =
          strayBlank { o with lombok := false } t ++ front ++ ["\x7d", ""] ∧
        classLines { o with lombok := false } t =
          front ++ (if o.accessors then t.columns.flatMap accessorLines else []) ++ ["\x7d", ""]) ∧
      (∃ front,
        classLines { o with lombok := false, accessors := true } t =
          front ++ t.columns.flatMap accessorLines ++ ["\x7d", ""] ∧
        classLines { o with lombok := false, accessors := false } t = front ++ ["\x7d", ""]) ∧
      classLines { o with lombok := true, accessors := true } t =
        classLines { o with lombok := true, accessors := false } t := by
  have hkept (f : Family) (h : (f.set true o).writesAccessors = (f.set false o).writesAccessors) :
      (classLines (f.set true o) t).filter (!f.owns ·) =
        strayBlank (f.set false o) t ++ classLines (f.set false o) t := by
    rw [filter_classLines, h, classLines_eq]
    simp only [List.append_assoc]
  have hsilent (o : Options) (h : o.writesAccessors = false) :
      classLines o t = frontLines o t ++ ["\x7d", ""] := by
    rw [classLines_eq, h]
    exact congrArg (· ++ ["\x7d", ""]) (List.append_nil _)
  refine ⟨hkept .jpa rfl, hkept .jackson rfl, ⟨frontLines { o with lombok := false } t, ?_, ?_⟩,
    ⟨frontLines { o with lombok := false } t, rfl, hsilent _ rfl⟩, ?_⟩
  · have hlombok := filter_classLines .lombok o t
    have hnone : (Family.lombok.set true o).writesAccessors = false := Bool.and_false _
    rw [hnone, if_neg Bool.false_ne_true, List.append_nil] at hlombok
    exact hlombok
  · have hasked : Options.writesAccessors { o with lombok := false } = o.accessors :=
      Bool.and_true _
    rw [classLines_eq, hasked]
  · rw [hsilent _ rfl, hsilent _ rfl]
    rfl

end Parts

end EntityMapper.Java
