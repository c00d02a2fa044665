import EntityMapper.Java.Import
import EntityMapper.Java.Outline
import EntityMapper.Proofs.Java.Members

/-!
# Classes

A generated class as tokens: imports, annotations, a name and members. It is read as a header and
one declared type, whose outline gives back the imports, the names of the annotations, the name of
the class and the names of its fields and methods.
-/

namespace EntityMapper.Java

open Grammar Syntax

variable {rest ts : List Token}

/-! ## Imports -/

namespace Import

/-- The first name in the path of an import, and the names behind it. -/
def names : Import → String × List String
  | .jsonProperty => ("com", ["fasterxml", "jackson", "annotation", "JsonProperty"])
  | .bigDecimal => ("java", ["math", "BigDecimal"])
  | .localDate => ("java", ["time", "LocalDate"])
  | .localDateTime => ("java", ["time", "LocalDateTime"])
  | .localTime => ("java", ["time", "LocalTime"])
  | .persistence => ("javax", ["persistence"])
  | .allArgsConstructor => ("lombok", ["AllArgsConstructor"])
  | .data => ("lombok", ["Data"])
  | .noArgsConstructor => ("lombok", ["NoArgsConstructor"])

/-- The tokens behind the names of an import. -/
def ending : Import → List Token
  | .persistence => [⟨.separator, "."⟩, ⟨.operator, "*"⟩, ⟨.separator, ";"⟩]
  | _ => [⟨.separator, ";"⟩]

/-- A name behind a dot. -/
def step (w : String) : List Token :=
  [⟨.separator, "."⟩, nameToken w]

/-- The tokens of an import. -/
def tokens (i : Import) : List Token :=
  ⟨.keyword, "import"⟩ :: nameToken i.names.1 :: (i.names.2.flatMap step ++ i.ending)

/-- An import as it is read. -/
def tree (i : Import) : Tree Rule :=
  .node .importDeclaration (i.tokens.map .leaf)

/-- All names in the path of an import are names of the language. -/
theorem isName_names (i : Import) :
    isName i.names.1.toList = true ∧ ∀ w ∈ i.names.2, isName w.toList = true := by
  cases i <;> decide

/-- Whether another name follows in the path of an import. -/
def nextStep : Lookahead :=
  both (next ".") (negated (nextMarks [".", "*"]))

/-- Names behind dots are read for as long as they follow. -/
theorem reads_steps {ws : List String} (hws : ∀ w ∈ ws, isName w.toList = true)
    (hend : nextStep ts = .ok false) :
    Reads (ws.length + 5) (.loop nextStep (mark "." ++ identifier)) (ws.flatMap step ++ ts)
      ((ws.flatMap step).map .leaf) ts := by
  induction ws with
  | nil => exact (Reads.loopEnd hend).mono (by decide)
  | cons w ws ih =>
    obtain ⟨hw, hws⟩ := List.forall_mem_cons.mp hws
    have hquestion : nextStep (step w ++ (ws.flatMap step ++ ts)) = .ok true := by
      simp (disch := decide) [nextStep, step, name_ne hw]
    rw [List.flatMap_cons, List.append_assoc]
    exact (Reads.loopStep hquestion (.seq .mark .kind) (ih hws)).of_eq rfl
      (by rw [List.length_cons]; omega)

/-- An import is read as its tree. -/
theorem reads_import (i : Import) :
    Reads 30 (.rule .importDeclaration) (i.tokens ++ rest) [i.tree] rest := by
  obtain ⟨hfirst, hothers⟩ := i.isName_names
  have hlength : i.names.2.length ≤ 4 := by cases i <;> decide
  have hstatic : next "static" (nameToken i.names.1 :: (i.names.2.flatMap step ++
      (i.ending ++ rest))) = .ok false := by
    simp (disch := decide) [name_ne hfirst]
  have hend : nextStep (i.ending ++ rest) = .ok false := by cases i <;> rfl
  have hending : Reads 10 (.choose (next ".") (marks [".", "*", ";"]) (mark ";"))
      (i.ending ++ rest) (i.ending.map .leaf) rest := by
    cases i with
    | persistence =>
      exact (Reads.yes rfl (.seq .mark (.seq .mark .mark))).of_eq rfl (by decide)
    | _ => exact (Reads.no rfl .mark).of_eq rfl (by decide)
  rw [tree, tokens, List.cons_append, List.cons_append, List.append_assoc]
  exact (Reads.rule (.seq (.seq (.seq (.seq .mark (.skip hstatic)) .kind)
    (reads_steps hothers hend)) hending)).of_eq (by simp) (by omega)

/-- The path of an import is read off its tokens. -/
theorem importPath_tokens (i : Import) : Outline.importPath (i.tokens.map .leaf) = i.path := by
  cases i <;> decide

end Import

/-! ## Classes -/

/-- A generated class. -/
structure ClassSource where
  imports : List Import
  uses : List Annotation
  name : String
  members : List Member

namespace ClassSource

/-- The tokens of the members and the brace behind them. -/
def bodyTokens (members : List Member) : List Token :=
  members.flatMap Member.tokens ++ [⟨.separator, "\x7d"⟩]

/-- The tokens of the declared type. -/
def typeTokens (c : ClassSource) : List Token :=
  c.uses.flatMap Annotation.tokens ++ ⟨.modifier, "public"⟩ :: ⟨.keyword, "class"⟩ ::
    nameToken c.name :: ⟨.separator, "\x7b"⟩ :: bodyTokens c.members

/-- The tokens of a class. -/
def tokens (c : ClassSource) : List Token :=
  c.imports.flatMap Import.tokens ++ c.typeTokens

/-- Whether the names in a class are names, and annotations do not begin the source. -/
def isSound (c : ClassSource) : Bool :=
  c.uses.all Annotation.isSound && isName c.name.toList && c.members.all Member.isSound &&
    (!c.imports.isEmpty || c.uses.isEmpty)

/-- The parts of the declared type as they are read. -/
def parts (c : ClassSource) : List (Tree Rule) :=
  [.node .modifiers (c.uses.map Annotation.tree ++ [.leaf ⟨.modifier, "public"⟩]),
   .node .classDeclaration [.leaf ⟨.keyword, "class"⟩,
     .node .declaredName [.leaf (nameToken c.name)],
     .node .classBody (.leaf ⟨.separator, "\x7b"⟩ :: c.members.map Member.tree ++
       [.leaf ⟨.separator, "\x7d"⟩])]]

/-- The declared type as it is read. -/
def tree (c : ClassSource) : Tree Rule :=
  .node .typeDeclaration c.parts

/-- What a class declares. -/
def outline (c : ClassSource) : Outline where
  name := c.name
  annotations := c.uses.map (·.name)
  imports := c.imports.map (·.path)
  fields := c.members.filterMap (·.fieldName?)
  methods := c.members.filterMap (·.methodName?)

variable {c : ClassSource}

/-- The tokens that a member can begin with. -/
theorem exists_memberTokens (m : Member) : ∃ t ts, m.tokens = t :: ts ∧
    t ∈ [⟨.atSign, "@"⟩, ⟨.modifier, "private"⟩, ⟨.modifier, "public"⟩] := by
  cases m with
  | field uses type name =>
    cases uses with
    | nil => exact ⟨_, _, rfl, by decide⟩
    | cons a uses => exact ⟨_, _, rfl, by decide⟩
  | getter type method f => exact ⟨_, _, rfl, by decide⟩
  | setter type method f => exact ⟨_, _, rfl, by decide⟩

/-- A member is read as a declaration in the body of a class. -/
theorem reads_bodyDeclaration {m : Member} (hm : m.isSound = true) :
    negated (next "\x7d") (m.tokens ++ ts) = .ok true ∧
      Reads (m.tokens.length + 305) bodyDeclaration (m.tokens ++ ts) [m.tree] ts := by
  have hmember : Reads (m.tokens.length + 300) (.rule .member) (m.tokens ++ ts) [m.tree] ts :=
    Member.reads_member hm
  obtain ⟨t, others, htokens, ht⟩ := exists_memberTokens m
  rw [htokens, List.cons_append] at hmember ⊢
  simp only [List.mem_cons, List.not_mem_nil, or_false] at ht
  refine ⟨?_, (Reads.lastChoice ?_ hmember).mono (by simp)⟩
  · rcases ht with rfl | rfl | rfl <;> rfl
  · rcases ht with rfl | rfl | rfl <;> simp

/-- The members of a class are read one after the other. -/
theorem reads_body {members : List Member} (hmembers : ∀ m ∈ members, m.isSound = true) :
    Reads ((bodyTokens members).length + 310) (.loop (negated (next "\x7d")) bodyDeclaration)
      (bodyTokens members ++ rest) (members.map Member.tree) (⟨.separator, "\x7d"⟩ :: rest) := by
  induction members with
  | nil => exact (Reads.loopEnd rfl).mono (by omega)
  | cons m members ih =>
    obtain ⟨hm, hmembers⟩ := List.forall_mem_cons.mp hmembers
    have hbody : bodyTokens (m :: members) = m.tokens ++ bodyTokens members := by
      simp [bodyTokens]
    have hdeclaration : negated (next "\x7d") (m.tokens ++ (bodyTokens members ++ rest)) =
          .ok true ∧
        Reads (m.tokens.length + 305) bodyDeclaration (m.tokens ++ (bodyTokens members ++ rest))
          [m.tree] (bodyTokens members ++ rest) :=
      reads_bodyDeclaration hm
    obtain ⟨t, others, htokens, -⟩ := exists_memberTokens m
    have hpos : 0 < m.tokens.length := by simp [htokens]
    rw [hbody, List.append_assoc]
    exact (Reads.loopStep hdeclaration.1 hdeclaration.2 (ih hmembers)).of_eq rfl
      (by rw [List.length_append]; omega)

/-- A class is sound iff its annotations, its name and its members are, and annotations stand only
behind imports. -/
theorem isSound_iff : c.isSound = true ↔ (∀ a ∈ c.uses, a.isSound = true) ∧
    isName c.name.toList = true ∧ (∀ m ∈ c.members, m.isSound = true) ∧
      (c.imports = [] → c.uses = []) := by
  simp only [isSound, Bool.and_eq_true, List.all_eq_true, Bool.or_eq_true, Bool.not_eq_true',
    List.isEmpty_iff, and_assoc]
  cases c.imports <;> simp

/-- The tokens of a sound class are read as one declared type. -/
theorem reads_type (hc : c.isSound = true) :
    Reads (c.typeTokens.length + 500) (.rule .typeDeclaration) c.typeTokens [c.tree] [] := by
  obtain ⟨huses, hname, hmembers, -⟩ := isSound_iff.mp hc
  have hlength : c.typeTokens.length = (c.uses.flatMap Annotation.tokens).length + 4 +
      (bodyTokens c.members).length := by
    simp [typeTokens]
    omega
  have hmodifiers : Reads (130 + c.uses.length) (.rule .modifiers) c.typeTokens
      [.node .modifiers (c.uses.map Annotation.tree ++ [.leaf ⟨.modifier, "public"⟩])]
      (⟨.keyword, "class"⟩ :: nameToken c.name :: ⟨.separator, "\x7b"⟩ ::
        bodyTokens c.members) :=
    Annotation.reads_modifiers huses (by decide) (by decide)
  have hbody : Reads ((bodyTokens c.members).length + 320) (.rule .classBody)
      (⟨.separator, "\x7b"⟩ :: bodyTokens c.members)
      [.node .classBody (.leaf ⟨.separator, "\x7b"⟩ :: c.members.map Member.tree ++
        [.leaf ⟨.separator, "\x7d"⟩])] [] := by
    have hloop : Reads ((bodyTokens c.members).length + 310)
        (.loop (negated (next "\x7d")) bodyDeclaration) (bodyTokens c.members ++ [])
        (c.members.map Member.tree) [⟨.separator, "\x7d"⟩] :=
      reads_body hmembers
    rw [List.append_nil] at hloop
    exact (Reads.rule (.seq (.seq .mark hloop) .mark)).of_eq rfl (by omega)
  have hdeclaration : Reads ((bodyTokens c.members).length + 330) (.rule .classDeclaration)
      (⟨.keyword, "class"⟩ :: nameToken c.name :: ⟨.separator, "\x7b"⟩ :: bodyTokens c.members)
      [.node .classDeclaration [.leaf ⟨.keyword, "class"⟩,
        .node .declaredName [.leaf (nameToken c.name)],
        .node .classBody (.leaf ⟨.separator, "\x7b"⟩ :: c.members.map Member.tree ++
          [.leaf ⟨.separator, "\x7d"⟩])]] [] :=
    (Reads.rule (.seq (.seq (.seq (.seq (.seq .mark (.rule .kind)) (.skip rfl)) (.skip rfl))
      (.skip rfl)) hbody)).of_eq rfl (by omega)
  have huse := Member.length_le_tokens c.uses
  exact (Reads.rule (.seq hmodifiers (.choice 0 rfl (by simp) rfl hdeclaration))).of_eq rfl
    (by omega)

/-- The declared type is all that is declared. -/
theorem reads_declarations (hc : c.isSound = true) :
    Reads (c.typeTokens.length + 510) (.rule .declarations) c.typeTokens
      [.node .declarations [c.tree]] [] := by
  have htype := reads_type hc
  have hquestions : nextAny c.typeTokens = .ok true ∧ next ";" c.typeTokens = .ok false := by
    rw [typeTokens]
    cases c.uses with
    | nil => exact ⟨rfl, rfl⟩
    | cons a uses => exact ⟨rfl, rfl⟩
  exact (Reads.rule (.loopStep hquestions.1 (.no hquestions.2 htype) (.loopEnd rfl))).of_eq rfl
    (by omega)

/-- No package is declared where imports or a type begin. -/
theorem misfits_package {text : String} {kind : TokenKind}
    (h : (⟨kind, text⟩ : Token) ∈ [⟨.keyword, "import"⟩, ⟨.modifier, "public"⟩]) :
    Misfits 10 packageDeclaration (⟨kind, text⟩ :: ts) := by
  intro fuel hfuel
  obtain ⟨fuel, rfl⟩ := Nat.exists_eq_add_of_le' hfuel
  simp only [List.mem_cons, Token.mk.injEq, List.not_mem_nil, or_false] at h
  rcases h with ⟨rfl, rfl⟩ | ⟨rfl, rfl⟩ <;> rfl

/-- A row of imports is read up to the first token that begins none. -/
theorem reads_imports {imports : List Import} (hstop : next "import" rest = .ok false) :
    Reads (imports.length + 40) (.loop (next "import") (.rule .importDeclaration))
      (imports.flatMap Import.tokens ++ rest) (imports.map Import.tree) rest := by
  induction imports with
  | nil => exact (Reads.loopEnd hstop).mono (by decide)
  | cons i imports ih =>
    rw [List.flatMap_cons, List.append_assoc]
    exact (Reads.loopStep rfl i.reads_import ih).of_eq rfl (by rw [List.length_cons]; omega)

/-- The header of a sound class is read as its imports. -/
theorem reads_header (hc : c.isSound = true) :
    Reads (c.imports.length + 60) (.rule .header) c.tokens
      [.node .header (c.imports.map Import.tree)] c.typeTokens := by
  obtain ⟨-, -, -, hfirst⟩ := isSound_iff.mp hc
  have hstop : next "import" c.typeTokens = .ok false := by
    rw [typeTokens]
    cases c.uses with
    | nil => rfl
    | cons a uses => rfl
  have hpackage : Misfits 10 packageDeclaration c.tokens := by
    rw [tokens]
    cases himports : c.imports with
    | nil =>
      rw [typeTokens, hfirst himports]
      exact misfits_package (by decide)
    | cons i imports => exact misfits_package (by decide)
  exact (Reads.rule (.seq (.attemptSecond hpackage .nothing) (reads_imports hstop))).of_eq rfl
    (by omega)

end ClassSource

/-! ## Outlines -/

namespace Outline

variable {name rule : Rule} {parts trees : List (Tree Rule)} {t : Token}

@[simp] theorem partsOf_nil : partsOf rule [] = [] := rfl

@[simp] theorem partsOf_leaf : partsOf rule (.leaf t :: trees) = partsOf rule trees := rfl

@[simp] theorem partsOf_same :
    partsOf rule (.node rule parts :: trees) = parts :: partsOf rule trees := by
  simp [partsOf]

@[simp] theorem partsOf_other (h : name ≠ rule) :
    partsOf rule (.node name parts :: trees) = partsOf rule trees := by
  simp [partsOf, h]

/-- The parts of a rule in two rows of trees are those of the first and those of the second. -/
@[simp] theorem partsOf_append (rule : Rule) (trees trees' : List (Tree Rule)) :
    partsOf rule (trees ++ trees') = partsOf rule trees ++ partsOf rule trees' :=
  List.filterMap_append

@[simp] theorem inside_nil : inside [] = [] := rfl

@[simp] theorem inside_leaf : inside (.leaf t :: trees) = inside trees := rfl

@[simp] theorem inside_node : inside (.node name parts :: trees) = parts ++ inside trees := rfl

/-- What is inside two rows of trees is inside the first or the second. -/
@[simp] theorem inside_append (trees trees' : List (Tree Rule)) :
    inside (trees ++ trees') = inside trees ++ inside trees' :=
  List.flatMap_append

@[simp] theorem text_leaf : text [.leaf t] = t.text := by
  simp [text, leaves, String.join]

/-- The texts of a rule in two rows of trees are those of the first and those of the second. -/
theorem texts_append (rule : Rule) (trees trees' : List (Tree Rule)) :
    texts rule (trees ++ trees') = texts rule trees ++ texts rule trees' := by
  rw [texts, partsOf_append, List.map_append]
  rfl

/-- Nodes of one rule are all found by it. -/
theorem partsOf_map {α : Type} {f : α → Tree Rule} {g : α → List (Tree Rule)}
    (h : ∀ a, f a = .node rule (g a)) (as : List α) : partsOf rule (as.map f) = as.map g := by
  induction as with
  | nil => rfl
  | cons a as ih => rw [List.map_cons, List.map_cons, ← ih, h, partsOf_same]

/-- Nodes of one rule are not found by another one. -/
theorem partsOf_map_other {α : Type} {f : α → Tree Rule} {g : α → List (Tree Rule)}
    (h : ∀ a, f a = .node name (g a)) (hname : name ≠ rule) (as : List α) :
    partsOf rule (as.map f) = [] := by
  induction as with
  | nil => rfl
  | cons a as ih => rw [List.map_cons, h, partsOf_other hname, ih]

end Outline

namespace ClassSource

open Outline

variable {c : ClassSource}

/-- The tree of an import is one node with its tokens as leaves. -/
theorem import_tree (i : Import) : i.tree = .node .importDeclaration (i.tokens.map .leaf) := rfl

/-- The parts of an annotation that is read. -/
theorem annotation_tree (a : Annotation) : a.tree = .node .annotationUse
    (.leaf ⟨.atSign, "@"⟩ :: .node .qualifiedName [.leaf (nameToken a.name)] ::
      a.arguments.trees) := rfl

/-- No argument of an annotation is a name with dots. -/
theorem partsOf_arguments (a : Arguments) : partsOf .qualifiedName a.trees = [] := by
  cases a <;> rfl

/-- The tree of a type is one node. -/
theorem exists_typeTree (type : Schema.JavaType) : ∃ parts, typeTree type = .node .type parts := by
  cases type <;> exact ⟨_, rfl⟩

/-- What a member declares names its field or its method. -/
theorem texts_member (m : Member) :
    texts .fieldName (inside [m.tree]) = m.fieldName?.toList ∧
      texts .methodName (inside [m.tree]) = m.methodName?.toList := by
  cases m with
  | field uses type name =>
    obtain ⟨parts, htype⟩ := exists_typeTree type
    simp [texts, Member.tree, Member.declarationTrees, Member.fieldName?, Member.methodName?,
      htype]
  | getter type method f =>
    obtain ⟨parts, htype⟩ := exists_typeTree type
    simp [texts, Member.tree, Member.declarationTrees, Member.blockTree, Member.fieldName?,
      Member.methodName?, htype]
  | setter type method f =>
    simp [texts, Member.tree, Member.declarationTrees, Member.blockTree, Member.fieldName?,
      Member.methodName?]

/-- The names in the body of a class are those of its members. -/
theorem texts_members (members : List Member) :
    texts .fieldName (inside (members.map Member.tree)) = members.filterMap (·.fieldName?) ∧
      texts .methodName (inside (members.map Member.tree)) =
        members.filterMap (·.methodName?) := by
  induction members with
  | nil => exact ⟨rfl, rfl⟩
  | cons m members ih =>
    obtain ⟨hfield, hmethod⟩ := texts_member m
    have hcons : inside ((m :: members).map Member.tree) =
        inside [m.tree] ++ inside (members.map Member.tree) := by
      rw [List.map_cons, ← inside_append, List.singleton_append]
    rw [hcons, texts_append, texts_append, hfield, hmethod, ih.1, ih.2]
    constructor
    · cases m <;> rfl
    · cases m <;> rfl

/-- An annotation is called by the name behind its sign. -/
theorem texts_annotation (a : Annotation) :
    texts .qualifiedName (.leaf ⟨.atSign, "@"⟩ ::
      .node .qualifiedName [.leaf (nameToken a.name)] :: a.arguments.trees) = [a.name] := by
  rw [texts, partsOf_leaf, partsOf_same, partsOf_arguments, List.map_singleton, text_leaf]

/-- Annotations hold no members. -/
theorem members_annotations (uses : List Annotation) (trees : List (Tree Rule)) :
    Outline.members (uses.map Annotation.tree ++ trees) = Outline.members trees := by
  induction uses with
  | nil => rfl
  | cons a uses ih =>
    rw [← ih, List.map_cons, List.cons_append, annotation_tree]
    rfl

/-- The outline of a class has the names of its annotations, in order. -/
theorem annotations_parts (c : ClassSource) :
    ((partsOf .modifiers c.parts).flatMap (partsOf .annotationUse)).map
      (fun use => String.join (texts .qualifiedName use)) = c.uses.map (·.name) := by
  have huses : partsOf .annotationUse (c.uses.map Annotation.tree) = _ :=
    partsOf_map annotation_tree c.uses
  simp [parts, huses, texts_annotation, String.join]

/-- The outline of a class has its name. -/
theorem declaredName_parts (c : ClassSource) : texts .declaredName (inside c.parts) = [c.name] := by
  have huses : partsOf .declaredName (c.uses.map Annotation.tree) = [] :=
    partsOf_map_other annotation_tree (by decide) c.uses
  simp [texts, parts, huses]

/-- The outline of a class has its members, in order. -/
theorem members_parts (c : ClassSource) :
    inside (Outline.members (inside c.parts)) = inside (c.members.map Member.tree) := by
  have hbody : Outline.members (inside c.parts) = .leaf ⟨.separator, "\x7b"⟩ ::
      c.members.map Member.tree ++ [.leaf ⟨.separator, "\x7d"⟩] := by
    simp only [parts, inside_node, inside_nil, List.append_nil, List.append_assoc,
      members_annotations]
    simp [Outline.members, isBody]
  rw [hbody, List.cons_append, inside_leaf, inside_append, inside_leaf, inside_nil,
    List.append_nil]

/-- What is read of a class gives its outline. -/
theorem ofParts_eq (c : ClassSource) :
    ofParts (c.imports.map Import.tree) [c.tree] = some c.outline := by
  have himports : (partsOf .importDeclaration (c.imports.map Import.tree)).map importPath =
      c.imports.map (·.path) := by
    rw [partsOf_map import_tree, List.map_map]
    exact List.map_congr_left fun i _ => i.importPath_tokens
  obtain ⟨hfields, hmethods⟩ := texts_members c.members
  simp only [ofParts, tree, partsOf_same, himports, annotations_parts, declaredName_parts,
    members_parts, hfields, hmethods]
  simp [outline, String.join]

/-- The tokens of a class have its outline. -/
theorem ofTokens_tokens (hc : c.isSound = true) : ofTokens c.tokens = .ok c.outline := by
  have himports : ∀ is : List Import, is.length ≤ (is.flatMap Import.tokens).length := by
    intro is
    induction is with
    | nil => exact Nat.le_refl 0
    | cons i is ih =>
      rw [List.flatMap_cons, List.length_append, List.length_cons, Import.tokens,
        List.length_cons]
      omega
  have hlength : c.tokens.length =
      (c.imports.flatMap Import.tokens).length + c.typeTokens.length := by
    rw [tokens, List.length_append]
  have himports := himports c.imports
  have hheader := reads_header hc (1000 * (c.tokens.length + 1)) (by omega)
  have hdeclarations := reads_declarations hc (1000 * (c.typeTokens.length + 1)) (by omega)
  simp [ofTokens, hheader, hdeclarations, ofParts_eq]

end ClassSource

end EntityMapper.Java
