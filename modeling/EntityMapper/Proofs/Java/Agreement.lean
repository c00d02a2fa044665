import EntityMapper.Java.Agreement
import EntityMapper.Proofs.Java.Lines

/-!
# Agreement of a generated class with its table

The text of a generated class declares what the table says, if the names of the class and of its
fields are names in Java, whatever the table and its columns are called.  So the class of one table
is accepted for another one exactly if the names of the classes and of the fields are the same.
-/

namespace EntityMapper.Java

open Schema

variable {o : Options} {t : Table} {c : Column}

/-! ## Annotations -/

/-- An annotation as it is written. -/
def Annotation.text (a : Annotation) : String :=
  String.ofList (Piece.textOf a.pieces)

/-- The lines of sound annotations spell their tokens. -/
theorem spells_annotations {uses : List Annotation} (huses : ∀ a ∈ uses, a.isSound = true) :
    Spells (uses.map Annotation.text) (uses.flatMap Annotation.tokens) :=
  .map fun a ha => Annotation.spells (huses a ha) String.toList_ofList

/-- The annotations of the class that stands for a table. -/
def classUses (o : Options) (t : Table) : List Annotation :=
  (if o.jpa then [⟨"Entity", .none⟩, ⟨"Table", .pair "name" (.quoted t.name)⟩] else []) ++
    if o.lombok then [⟨"Data", .none⟩, ⟨"NoArgsConstructor", .none⟩, ⟨"AllArgsConstructor", .none⟩]
    else []

/-- The annotations of the field that stands for a column. -/
def fieldUses (o : Options) (c : Column) : List Annotation :=
  (if c.primaryKey && o.jpa then
      ⟨"Id", .none⟩ ::
        if c.autoIncrement then
          [⟨"GeneratedValue", .pair "strategy" (.constant "GenerationType" "IDENTITY")⟩]
        else []
    else []) ++
  (if o.jpa && isRenamed c then
      [⟨"Column",
        if c.nullable then .pair "name" (.quoted c.name)
        else .pairs "name" (.quoted c.name) "nullable" .no⟩]
    else []) ++
  if o.jackson && isRenamed c then [⟨"JsonProperty", .value (.quoted c.name)⟩] else []

/-- How an annotation without arguments is written. -/
theorem text_plain (name : String) : Annotation.text ⟨name, .none⟩ = "@" ++ name := by
  apply String.toList_injective
  simp [Piece.text, Annotation.text, Annotation.pieces, Arguments.pieces]

/-- How an annotation with a named text is written. -/
theorem text_quoted (name key s : String) :
    Annotation.text ⟨name, .pair key (.quoted s)⟩ =
      "@" ++ name ++ "(" ++ key ++ " = " ++ literal s ++ ")" := by
  apply String.toList_injective
  simp [Arguments.pieces, Annotation.text, Annotation.pieces, Arguments.pairPieces, Value.pieces,
    Piece.text]

/-- The class annotations are the texts of the annotations in use. -/
theorem classAnnotations_eq (o : Options) (t : Table) :
    classAnnotations o t = (classUses o t).map Annotation.text := by
  have hliterals : "@" ++ "Entity" = "@Entity" ∧ "@" ++ "Data" = "@Data" ∧
      "@" ++ "NoArgsConstructor" = "@NoArgsConstructor" ∧
      "@" ++ "AllArgsConstructor" = "@AllArgsConstructor" ∧
      "@" ++ "Table" ++ "(" ++ "name" ++ " = " = "@Table(name = " := by decide
  obtain ⟨hentity, hdata, hnone, hall, htable⟩ := hliterals
  simp only [classAnnotations, classUses, List.map_append, apply_ite (List.map Annotation.text),
    List.map_cons, List.map_nil, text_plain, text_quoted, hentity, hdata, hnone, hall, htable]

/-- The annotations of a field are the texts of those in use. -/
theorem fieldAnnotations_eq (o : Options) (c : Column) :
    fieldAnnotations o c = (fieldUses o c).map Annotation.text := by
  have hid : "@" ++ "Id" = "@Id" := by decide
  have hgenerated : Annotation.text
      ⟨"GeneratedValue", .pair "strategy" (.constant "GenerationType" "IDENTITY")⟩ =
        "@GeneratedValue(strategy = GenerationType.IDENTITY)" := by decide
  have hcolumn : Annotation.text ⟨"Column",
      if c.nullable then .pair "name" (.quoted c.name)
      else .pairs "name" (.quoted c.name) "nullable" .no⟩ =
        "@Column(name = " ++ literal c.name ++
          (if c.nullable then "" else ", nullable = false") ++ ")" := by
    apply String.toList_injective
    cases c.nullable <;>
      simp [Arguments.pieces, Annotation.text, Annotation.pieces, Arguments.pairPieces,
        Value.pieces, Piece.text]
  have hproperty : Annotation.text ⟨"JsonProperty", .value (.quoted c.name)⟩ =
      "@JsonProperty(" ++ literal c.name ++ ")" := by
    apply String.toList_injective
    simp [Arguments.pieces, Annotation.text, Annotation.pieces, Value.pieces, Piece.text]
  simp only [fieldAnnotations, fieldUses, List.map_append, apply_ite (List.map Annotation.text),
    List.map_cons, List.map_nil, text_plain, hid, hgenerated, hcolumn, hproperty]

/-- The annotations of a class are sound. -/
theorem isSound_classUses (o : Options) (t : Table) :
    ∀ a ∈ classUses o t, a.isSound = true := by
  have hplain : ∀ name ∈ ["Entity", "Data", "NoArgsConstructor", "AllArgsConstructor"],
      Annotation.isSound ⟨name, .none⟩ = true := by decide
  have htable : Annotation.isSound ⟨"Table", .pair "name" (.quoted t.name)⟩ = true := by
    have hnames : (isName "Table".toList && (isName "name".toList && true)) = true := by decide
    exact hnames
  rw [classUses, List.forall_mem_append]
  constructor
  · split
    · simp only [List.forall_mem_cons]
      exact ⟨hplain _ (by decide), htable, by simp⟩
    · simp
  · split
    · simp only [List.forall_mem_cons]
      exact ⟨hplain _ (by decide), hplain _ (by decide), hplain _ (by decide), by simp⟩
    · simp

/-- The annotations of a field are sound. -/
theorem isSound_fieldUses (o : Options) (c : Column) :
    ∀ a ∈ fieldUses o c, a.isSound = true := by
  have hid : Annotation.isSound ⟨"Id", .none⟩ = true ∧ Annotation.isSound
      ⟨"GeneratedValue", .pair "strategy" (.constant "GenerationType" "IDENTITY")⟩ = true := by
    decide
  have hcolumn : Annotation.isSound ⟨"Column",
      if c.nullable then .pair "name" (.quoted c.name)
      else .pairs "name" (.quoted c.name) "nullable" .no⟩ = true := by
    have hnames : isName "Column".toList = true ∧ isName "name".toList = true ∧
        isName "nullable".toList = true := by decide
    split
    · simp only [Arguments.isSound, Annotation.isSound, Value.isSound, hnames, Bool.and_self]
    · simp only [Arguments.isSound, Annotation.isSound, Value.isSound, hnames, Bool.and_self]
  have hproperty : Annotation.isSound ⟨"JsonProperty", .value (.quoted c.name)⟩ = true := by
    have hname : (isName "JsonProperty".toList && true) = true := by decide
    exact hname
  rw [fieldUses, List.forall_mem_append, List.forall_mem_append]
  refine ⟨⟨?_, ?_⟩, ?_⟩
  · split
    · rw [List.forall_mem_cons]
      refine ⟨hid.1, ?_⟩
      split
      · simpa using hid.2
      · simp
    · simp
  · split
    · simpa using hcolumn
    · simp
  · split
    · simpa using hproperty
    · simp

/-! ## Classes -/

/-- The accessors of the field that stands for a column. -/
def accessorsOf (c : Column) : List Member :=
  let suffix := String.ofList (Naming.capitalize c.fieldName.toList)
  [.getter c.type ("get" ++ suffix) c.fieldName, .setter c.type ("set" ++ suffix) c.fieldName]

/-- The class that is written for a table. -/
def ClassSource.ofTable (o : Options) (t : Table) : ClassSource where
  imports := Java.imports o t
  uses := classUses o t
  name := t.className
  members := t.columns.map (fun c => .field (fieldUses o c) c.type c.fieldName) ++
    if o.writesAccessors then t.columns.flatMap accessorsOf else []

/-- The names of a table's class and of its fields are names in Java. -/
structure HasNames (t : Table) : Prop where
  className : isName t.className.toList = true
  fieldNames : ∀ c ∈ t.columns, isName c.fieldName.toList = true

/-- The outline of the class that is written for a table. -/
def outlineOf (o : Options) (t : Table) : Outline where
  name := t.className
  annotations := (if o.jpa then ["Entity", "Table"] else []) ++
    if o.lombok then ["Data", "NoArgsConstructor", "AllArgsConstructor"] else []
  imports := (imports o t).map (·.path)
  fields := t.columns.map (·.fieldName)
  methods :=
    if o.writesAccessors then t.columns.flatMap fun c =>
      let suffix := String.ofList (Naming.capitalize c.fieldName.toList)
      ["get" ++ suffix, "set" ++ suffix]
    else []

/-- The class of a table has the outline that the table asks for. -/
theorem outline_ofTable (o : Options) (t : Table) :
    (ClassSource.ofTable o t).outline = outlineOf o t := by
  have hannotations : (classUses o t).map (·.name) = (outlineOf o t).annotations := by
    simp only [classUses, outlineOf, List.map_append,
      apply_ite (List.map fun a : Annotation => a.name), List.map_cons, List.map_nil]
  have hfields : (ClassSource.ofTable o t).members.filterMap (·.fieldName?) =
      t.columns.map (·.fieldName) := by
    have haccessors : (t.columns.flatMap accessorsOf).filterMap (·.fieldName?) = [] := by
      rw [List.filterMap_flatMap]
      exact List.flatMap_eq_nil_iff.mpr fun c _ => rfl
    rw [ClassSource.ofTable, List.filterMap_append, List.filterMap_map,
      apply_ite (List.filterMap fun m : Member => m.fieldName?), haccessors, List.filterMap_nil,
      ite_self, List.append_nil]
    exact congrFun List.filterMap_eq_map t.columns
  have hmethods : (ClassSource.ofTable o t).members.filterMap (·.methodName?) =
      (outlineOf o t).methods := by
    have hnone : (t.columns.map fun c => Member.field (fieldUses o c) c.type c.fieldName).filterMap
        (·.methodName?) = [] := by
      rw [List.filterMap_map, List.filterMap_eq_nil_iff]
      intro c _
      rfl
    rw [ClassSource.ofTable, List.filterMap_append, hnone, List.nil_append,
      apply_ite (List.filterMap fun m : Member => m.methodName?), List.filterMap_flatMap]
    rfl
  rw [ClassSource.outline, hfields, hmethods]
  exact congrArg (fun names => { outlineOf o t with annotations := names }) hannotations

/-- The accessors of a field with a name have names. -/
theorem isName_accessor_of_isName {f : String} (hf : isName f.toList = true) :
    isName ("get" ++ String.ofList (Naming.capitalize f.toList)).toList = true ∧
      isName ("set" ++ String.ofList (Naming.capitalize f.toList)).toList = true := by
  have hget : isName (['g', 'e', 't'] ++ Naming.capitalize f.toList) = true :=
    isName_accessor (by decide) hf
  have hset : isName (['s', 'e', 't'] ++ Naming.capitalize f.toList) = true :=
    isName_accessor (by decide) hf
  simp only [String.toList_append, String.toList_ofList]
  constructor
  · exact hget
  · exact hset

/-- The accessors of a field with a name are sound. -/
theorem isSound_accessorsOf (hc : isName c.fieldName.toList = true) :
    ∀ m ∈ accessorsOf c, m.isSound = true := by
  obtain ⟨hget, hset⟩ := isName_accessor_of_isName hc
  simp only [accessorsOf, List.forall_mem_cons, Member.isSound, hc, hget, hset, Bool.and_self]
  simp

/-- A class with annotations imports them. -/
theorem uses_eq_nil (h : imports o t = []) : classUses o t = [] := by
  have hneeded : ∀ i ∈ Import.all, i.isNeeded o t = false := by
    intro i hi
    rw [← Bool.not_eq_true]
    intro hneeded
    have hmem : i ∈ imports o t := List.mem_filter.mpr ⟨hi, hneeded⟩
    rw [h] at hmem
    cases hmem
  have hjpa : o.jpa = false := hneeded .persistence (by decide)
  have hlombok : o.lombok = false := hneeded .data (by decide)
  simp [classUses, hjpa, hlombok]

/-- The class of a table with legal names is sound. -/
theorem isSound_ofTable (h : HasNames t) : (ClassSource.ofTable o t).isSound = true := by
  rw [ClassSource.isSound_iff]
  refine ⟨isSound_classUses o t, h.className, ?_, uses_eq_nil⟩
  rw [ClassSource.ofTable, List.forall_mem_append, List.forall_mem_map]
  constructor
  · intro c hc
    rw [Member.isSound, Bool.and_eq_true, List.all_eq_true]
    exact ⟨isSound_fieldUses o c, h.fieldNames c hc⟩
  · split
    · intro m hm
      obtain ⟨c, hc, hm⟩ := List.mem_flatMap.mp hm
      exact isSound_accessorsOf (h.fieldNames c hc) m hm
    · simp

/-! ## Lines -/

/-- The import lines spell the tokens of the imports. -/
theorem spells_imports (o : Options) (t : Table) :
    Spells (importLines o t) ((imports o t).flatMap Import.tokens) := by
  have hlines : Spells ((imports o t).map fun i => "import " ++ i.path ++ ";")
      ((imports o t).flatMap Import.tokens) :=
    .map fun i _ => i.spells
  rw [importLines]
  split
  · rename_i hnone
    rw [hnone]
    exact .nil
  · simpa using hlines.append (Spells.nil.emptyLine)

/-- The lines of a field spell its tokens. -/
theorem spells_fieldLines (hc : isName c.fieldName.toList = true) :
    Spells (fieldLines o c) (Member.field (fieldUses o c) c.type c.fieldName).tokens := by
  have hannotations := spells_annotations (isSound_fieldUses o c)
  rw [← fieldAnnotations_eq] at hannotations
  exact (hannotations.append (spells_field hc)).indented

/-- The lines of all fields spell their tokens. -/
theorem spells_fieldsLines {cs : List Column} (hcs : ∀ c ∈ cs, isName c.fieldName.toList = true) :
    Spells (fieldsLines o cs)
      (cs.flatMap fun c => (Member.field (fieldUses o c) c.type c.fieldName).tokens) := by
  induction cs with
  | nil => exact .nil
  | cons c cs ih =>
    obtain ⟨hc, hcs⟩ := List.forall_mem_cons.mp hcs
    have hfirst := spells_fieldLines (o := o) hc
    cases cs with
    | nil => simpa [fieldsLines] using hfirst
    | cons next cs =>
      rw [fieldsLines_cons, List.flatMap_cons]
      exact hfirst.append (ih hcs).emptyLine

/-- The lines of a column's accessors spell their tokens. -/
theorem spells_accessorLines (hc : isName c.fieldName.toList = true) :
    Spells (accessorLines c) ((accessorsOf c).flatMap Member.tokens) := by
  obtain ⟨hget, hset⟩ := isName_accessor_of_isName hc
  let suffix := String.ofList (Naming.capitalize c.fieldName.toList)
  have hlines : accessorLines c =
      ("" :: (getterLines c.type ("get" ++ suffix) c.fieldName).map (indent ++ ·)) ++
        "" :: (setterLines c.type ("set" ++ suffix) c.fieldName).map (indent ++ ·) := by
    refine List.map_injective_iff.mpr (fun _ _ h => String.toList_injective h) ?_
    simp [accessorLines, getterLines, setterLines, suffix]
  have hgetter : Spells _ (Member.getter c.type ("get" ++ suffix) c.fieldName).tokens :=
    spells_getter hget hc
  have hsetter : Spells _ (Member.setter c.type ("set" ++ suffix) c.fieldName).tokens :=
    spells_setter hset hc
  have hall := hgetter.indented.emptyLine.append hsetter.indented.emptyLine
  rw [hlines]
  simpa [accessorsOf] using hall

/-- The line of the class name spells its tokens. -/
theorem spells_head {name : String} (hname : isName name.toList = true) :
    Spells ["public class " ++ name ++ " \x7b", ""] [⟨.modifier, "public"⟩, ⟨.keyword, "class"⟩,
      nameToken name, ⟨.separator, "\x7b"⟩] := by
  have hrow : Piece.isRow [.word "public", .blank ' ', .word "class", .blank ' ', .word name,
      .blank ' ', .sign '\x7b'] = true := by
    rw [Piece.isRow_iff]
    simp only [List.forall_mem_cons]
    exact ⟨⟨by decide, rfl, by decide, rfl, Piece.isSound_of_isName hname, rfl, rfl, by simp⟩, rfl⟩
  have hline : Spells ["public class " ++ name ++ " \x7b"] [⟨.modifier, "public"⟩,
      ⟨.keyword, "class"⟩, nameToken name, ⟨.separator, "\x7b"⟩] := by
    refine .row hrow (by simp [Piece.text]) ?_
    simp [Piece.tokens, wordKind_of_isName hname]
    decide
  exact hline.append Spells.nil.emptyLine

/-- The lines of a class spell the tokens of the class that is written for the table. -/
theorem spells_classLines (h : HasNames t) :
    Spells (classLines o t) (ClassSource.ofTable o t).tokens := by
  have hannotations := spells_annotations (isSound_classUses o t)
  rw [← classAnnotations_eq] at hannotations
  have haccessors : Spells (if o.writesAccessors then t.columns.flatMap accessorLines else [])
      ((if o.writesAccessors then t.columns.flatMap accessorsOf else []).flatMap
        Member.tokens) := by
    split
    · rw [List.flatMap_assoc]
      exact .flatMap fun c hc => spells_accessorLines (h.fieldNames c hc)
    · exact .nil
  have hend : Spells ["\x7d", ""] [⟨.separator, "\x7d"⟩] :=
    spells_brace.append Spells.nil.emptyLine
  have hall := ((((spells_imports o t).append hannotations).append (spells_head h.className)).append
    (spells_fieldsLines (o := o) h.fieldNames)).append (haccessors.append hend)
  simpa [classLines, ClassSource.tokens, ClassSource.typeTokens, ClassSource.bodyTokens,
    ClassSource.ofTable, List.flatMap_map] using hall

/-! ## Agreement -/

/-- The text of a class has the outline of its table. -/
theorem outline_classText (h : HasNames t) : outline (classText o t) = .ok (outlineOf o t) := by
  rw [outline, Outline.ofSource, classText, (spells_classLines h).tokenize_eq,
    ClassSource.ofTokens_tokens (isSound_ofTable h), outline_ofTable]
  rfl

/-- A source text is accepted for a table if its outline has the names of the table. -/
theorem outlineFor_eq_ok_iff {source : String} {found found' : Outline}
    (h : outline source = .ok found) :
    outlineFor t source = .ok found' ↔ found' = found ∧ found.name = t.className ∧
      found.fields = t.columns.map (·.fieldName) := by
  simp only [outlineFor, h]
  by_cases hname : found.name = t.className
  · by_cases hfields : found.fields = t.columns.map (·.fieldName)
    · simp [hname, hfields, bind, Except.bind, pure, Except.pure, eq_comm]
    · simp [hname, hfields, bind, Except.bind, throw, throwThe, MonadExceptOf.throw]
  · simp [hname, bind, Except.bind, throw, throwThe, MonadExceptOf.throw]

/-- The text of a class is accepted for its own table. -/
theorem outlineFor_classText (h : HasNames t) :
    outlineFor t (classText o t) = .ok (outlineOf o t) :=
  (outlineFor_eq_ok_iff (outline_classText h)).mpr ⟨rfl, rfl, rfl⟩

/-- The text of a class declares what its table says, and it is accepted for another table exactly
if that has the same names. -/
theorem outline_classText_and_outlineFor_iff (o : Options) {t : Table} (h : HasNames t) :
    outline (classText o t) = .ok (outlineOf o t) ∧
      ∀ t' : Table, (∃ found, outlineFor t' (classText o t) = .ok found) ↔
        t'.className = t.className ∧
          t'.columns.map (·.fieldName) = t.columns.map (·.fieldName) := by
  have houtline : outline (classText o t) = .ok (outlineOf o t) := outline_classText h
  refine ⟨houtline, fun t' => ?_⟩
  constructor
  · rintro ⟨found, hfound⟩
    obtain ⟨-, hname, hfields⟩ := (outlineFor_eq_ok_iff houtline).mp hfound
    exact ⟨hname.symm, hfields.symm⟩
  · rintro ⟨hname, hfields⟩
    exact ⟨outlineOf o t, (outlineFor_eq_ok_iff houtline).mpr ⟨rfl, hname.symm, hfields.symm⟩⟩

/-- A table whose name and column would end a literal or a comment. -/
def quotedNames : Table where
  name := "a\"b\\u0041"
  className := "Order"
  columns := [{
    name := "/* \" */", fieldName := "userId", type := .long, primaryKey := true,
    autoIncrement := true }]

/-- The class of such a table still declares it, and it is not accepted under another name. -/
theorem outline_classText_and_outlineFor_iff_quotedNames :
    outline (classText { lombok := false } quotedNames) = .ok {
        name := "Order", annotations := ["Entity", "Table"],
        imports := ["com.fasterxml.jackson.annotation.JsonProperty", "javax.persistence.*"],
        fields := ["userId"], methods := ["getUserId", "setUserId"] } ∧
      ¬ ∃ found, outlineFor { quotedNames with className := "Orders" }
        (classText { lombok := false } quotedNames) = .ok found := by
  have hnames : HasNames quotedNames := ⟨by decide, by decide⟩
  obtain ⟨houtline, hagrees⟩ := outline_classText_and_outlineFor_iff { lombok := false } hnames
  refine ⟨houtline.trans (by decide), ?_⟩
  rw [hagrees]
  decide

end EntityMapper.Java
