import EntityMapper.Proofs.Java.Lines

/-!
# The characters of a class

Besides blanks and visible characters of ASCII, the lines of a class hold only characters of the
names that it is made from.  So its characters pass a test if those do.
-/

namespace EntityMapper.Java

open Schema

/-- Whether every character of a text passes a test. -/
def allOf (test : Char → Bool) (s : String) : Bool :=
  s.toList.all test

/-- Whether a character is a blank or a visible character of ASCII. -/
def isPrintable (c : Char) : Bool :=
  ' ' ≤ c && c ≤ '~'

/-- The characters of the names in a class pass a test. -/
structure AllNames (test : Char → Bool) (t : Table) : Prop where
  name : allOf test t.name = true
  className : allOf test t.className = true
  columnNames : ∀ c ∈ t.columns, allOf test c.name = true
  fieldNames : ∀ c ∈ t.columns, allOf test c.fieldName = true
  accessorNames : ∀ c ∈ t.columns,
    allOf test (String.ofList (Naming.capitalize c.fieldName.toList)) = true

section Tests

variable {test : Char → Bool} {s : String} {o : Options} {t : Table} {c : Column}

/-- A test holds of all characters of two texts iff it holds of all characters of each. -/
@[simp] theorem allOf_append (s s' : String) :
    allOf test (s ++ s') = (allOf test s && allOf test s') := by
  simp [allOf]

/-- What holds of the lines of each field holds of the lines of all. -/
theorem allOf_fieldsLines {cs : List Column}
    (h : ∀ c ∈ cs, ∀ line ∈ fieldLines o c, allOf test line = true) :
    ∀ line ∈ fieldsLines o cs, allOf test line = true := by
  induction cs with
  | nil => simp [fieldsLines]
  | cons c cs ih =>
    obtain ⟨hc, hcs⟩ := List.forall_mem_cons.mp h
    cases cs with
    | nil => simpa [fieldsLines] using hc
    | cons next cs =>
      rw [fieldsLines_cons, List.forall_mem_append, List.forall_mem_cons]
      exact ⟨hc, rfl, ih hcs⟩

variable (hprintable : ∀ c, isPrintable c = true → test c = true)
include hprintable

/-- A test that holds of printable characters holds of printable words. -/
theorem allOf_words {words : List String} (h : ∀ s ∈ words, allOf isPrintable s = true) :
    ∀ s ∈ words, allOf test s = true := by
  intro s hs
  exact List.all_eq_true.mpr fun c hc => hprintable c (List.all_eq_true.mp (h s hs) c hc)

/-- What holds of a text holds of its literal. -/
theorem allOf_literal (h : allOf test s = true) : allOf test (literal s) = true := by
  have hmarks : test '\\' = true ∧ test '"' = true :=
    ⟨hprintable _ (by decide), hprintable _ (by decide)⟩
  have hescaped : ∀ c ∈ s.toList, (escaped c).all test = true := by
    intro c hc
    have hkept : test c = true := List.all_eq_true.mp h c hc
    rw [escaped]
    split <;> simp [hkept, hmarks]
  simp [allOf, literal, List.all_flatMap, hmarks]
  simpa using hescaped

/-- The test holds of the names of types. -/
theorem allOf_typeName (type : JavaType) : allOf test type.name = true :=
  allOf_words hprintable (by decide : ∀ s ∈ JavaType.all.map (·.name), _) _
    (List.mem_map_of_mem (by cases type <;> decide))

/-- The test holds of the import lines. -/
theorem allOf_importLines : ∀ line ∈ importLines o t, allOf test line = true := by
  have hpaths := allOf_words hprintable
    (by decide : ∀ s ∈ "" :: Import.all.map fun i => "import " ++ i.path ++ ";", _)
  rw [List.forall_mem_cons, List.forall_mem_map] at hpaths
  rw [importLines]
  split
  · simp
  · rw [List.forall_mem_append, List.forall_mem_map, List.forall_mem_singleton]
    exact ⟨fun i hi => hpaths.2 i ((List.mem_filter.mp hi).1), hpaths.1⟩

/-- The test holds of the class annotations if it holds of the table name. -/
theorem allOf_classAnnotations (h : allOf test t.name = true) :
    ∀ line ∈ classAnnotations o t, allOf test line = true := by
  have hwords := allOf_words hprintable (by decide : ∀ s ∈ ["@Entity", "@Table(name = ", ")",
    "@Data", "@NoArgsConstructor", "@AllArgsConstructor"], _)
  simp only [List.forall_mem_cons] at hwords
  rw [classAnnotations, List.forall_mem_append]
  constructor
  · split <;> simp [hwords, allOf_literal hprintable h]
  · split <;> simp [hwords]

/-- The test holds of the lines of a field if it holds of its column and its name. -/
theorem allOf_fieldLines (hname : allOf test c.name = true)
    (hfield : allOf test c.fieldName = true) :
    ∀ line ∈ fieldLines o c, allOf test line = true := by
  have hwords := allOf_words hprintable (by decide : ∀ s ∈ [indent, "@Column(name = ", "",
    ", nullable = false", "@JsonProperty(", ")", "private ", " ", ";"], _)
  have hkey := allOf_words hprintable
    (by decide : ∀ s ∈ ["@Id", "@GeneratedValue(strategy = GenerationType.IDENTITY)"], _)
  simp only [List.forall_mem_cons] at hwords
  have hliteral : allOf test (literal c.name) = true := allOf_literal hprintable hname
  have hannotations : ∀ line ∈ fieldAnnotations o c, allOf test line = true := by
    refine forall_mem_fieldAnnotations hkey ?_ ?_
    · simp [hwords, hliteral]
    · simp [hwords, hliteral]
  rw [fieldLines, List.forall_mem_map, List.forall_mem_append, List.forall_mem_singleton]
  constructor
  · intro line hline
    simp [hwords, hannotations line hline]
  · simp [fieldDeclaration, hwords, allOf_typeName hprintable, hfield]

/-- The test holds of the accessors if it holds of the field name and its capitalized form. -/
theorem allOf_accessorLines (hfield : allOf test c.fieldName = true)
    (hsuffix : allOf test (String.ofList (Naming.capitalize c.fieldName.toList)) = true) :
    ∀ line ∈ accessorLines c, allOf test line = true := by
  have hwords := allOf_words hprintable (by decide :
    ∀ s ∈ ["", indent, "public ", " get", "() \x7b", "return ", ";", "\x7d", "public void set",
      "(", " ", ") \x7b", "this.", " = "], _)
  simp only [List.forall_mem_cons] at hwords
  simp [accessorLines, hwords, allOf_typeName hprintable, hfield, hsuffix]

/-- The characters of a class pass a test if those of its names do. -/
theorem allOf_classLines (h : AllNames test t) :
    ∀ line ∈ classLines o t, allOf test line = true := by
  have hwords := allOf_words hprintable
    (by decide : ∀ s ∈ ["public class ", " \x7b", "", "\x7d"], _)
  simp only [List.forall_mem_cons] at hwords
  have hfields : ∀ line ∈ fieldsLines o t.columns, allOf test line = true :=
    allOf_fieldsLines fun c hc =>
      allOf_fieldLines hprintable (h.columnNames c hc) (h.fieldNames c hc)
  simp only [classLines, List.forall_mem_append]
  refine ⟨⟨⟨⟨⟨allOf_importLines hprintable, allOf_classAnnotations hprintable h.name⟩, ?_⟩,
    hfields⟩, ?_⟩, ?_⟩
  · simp [hwords, h.className]
  · split
    · intro line hline
      obtain ⟨c, hc, hline⟩ := List.mem_flatMap.mp hline
      exact allOf_accessorLines hprintable (h.fieldNames c hc) (h.accessorNames c hc) line hline
    · simp
  · simp [hwords]

end Tests

end EntityMapper.Java
