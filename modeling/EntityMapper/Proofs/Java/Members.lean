import EntityMapper.Proofs.Java.Annotations
import EntityMapper.Schema.Table

/-!
# Members

The members of a generated class: fields with their annotations, getters and setters.  Each is read
as one member, from which its name can be taken.
-/

namespace EntityMapper.Java

open Grammar Syntax Schema

/-! ## Types -/

/-- A type as it is written. -/
def typePieces : JavaType → List Piece
  | .bytes => [.word "byte", .sign '[', .sign ']']
  | type => [.word type.name]

/-- The tokens of a type. -/
def typeTokens : JavaType → List Token
  | .bytes => [⟨.basicType, "byte"⟩, ⟨.separator, "["⟩, ⟨.separator, "]"⟩]
  | type => [nameToken type.name]

/-- A type as it is read. -/
def typeTree : JavaType → Tree Rule
  | .bytes =>
    .node .type [.leaf ⟨.basicType, "byte"⟩, .leaf ⟨.separator, "["⟩, .leaf ⟨.separator, "]"⟩]
  | type => .node .type [.node .referenceType [.leaf (nameToken type.name)]]

variable {type : JavaType} {f : String} {rest : List Token}

/-- A type other than that of bytes is a name. -/
theorem bytes_or_name (type : JavaType) :
    type = .bytes ∨ isName type.name.toList = true ∧ typeTokens type = [nameToken type.name] ∧
      typeTree type = .node .type [.node .referenceType [.leaf (nameToken type.name)]] := by
  cases type with
  | bytes => exact .inl rfl
  | _ => exact .inr ⟨by decide, rfl, rfl⟩

/-- No dimensions are read where no bracket opens. -/
theorem reads_dimensions {t : Token} (hkind : t.kind ≠ .fault) (ht : t.text ≠ "[") :
    Reads 1 dimensions (t :: rest) [] (t :: rest) := by
  obtain ⟨kind, text⟩ := t
  simp only at hkind ht
  exact Reads.loopEnd (by simp [hkind, ht])

/-- The type of a member is read up to the name behind it. -/
theorem reads_type (hf : isName f.toList = true) :
    Reads 20 (.rule .type) (typeTokens type ++ nameToken f :: rest) [typeTree type]
      (nameToken f :: rest) := by
  have hend : Reads 1 dimensions (nameToken f :: rest) [] (nameToken f :: rest) :=
    reads_dimensions (by simp) (name_ne hf (by decide))
  rcases bytes_or_name type with rfl | ⟨-, htokens, htree⟩
  · have hsquare : Reads 5 dimensions
        (⟨.separator, "["⟩ :: ⟨.separator, "]"⟩ :: nameToken f :: rest)
        [.leaf ⟨.separator, "["⟩, .leaf ⟨.separator, "]"⟩] (nameToken f :: rest) :=
      (Reads.loopStep rfl (.seq .mark .mark) hend).of_eq rfl (by decide)
    exact (Reads.rule (.seq (.choice 0 rfl (by simp) rfl .kind) hsquare)).of_eq rfl (by decide)
  · rw [htokens, htree]
    have hangle : next "<" (nameToken f :: rest) = .ok false := by
      simp (disch := decide) [name_ne hf]
    have hdot : next "." (nameToken f :: rest) = .ok false := by
      simp (disch := decide) [name_ne hf]
    have hreference : Reads 5 (.rule .referenceType) (nameToken type.name :: nameToken f :: rest)
        [.node .referenceType [.leaf (nameToken type.name)]] (nameToken f :: rest) :=
      (Reads.rule (.seq (.seq .kind (.skip hangle)) (.skip hdot))).of_eq rfl (by decide)
    exact (Reads.rule (.seq (.choice 1 rfl (by simp) rfl hreference) hend)).of_eq rfl (by decide)

/-! ## Members -/

/-- A member of a generated class. -/
inductive Member where
  | field (uses : List Annotation) (type : JavaType) (name : String)
  | getter (type : JavaType) (method field : String)
  | setter (type : JavaType) (method field : String)

namespace Member

/-- The tokens of a statement in braces. -/
def blockTokens (statement : List Token) : List Token :=
  ⟨.separator, "\x7b"⟩ :: statement ++ [⟨.separator, "\x7d"⟩]

/-- The tokens of the statement that returns a field. -/
def returnTokens (f : String) : List Token :=
  [⟨.keyword, "return"⟩, nameToken f, ⟨.separator, ";"⟩]

/-- The tokens of the statement that assigns a parameter to the field of its name. -/
def assignmentTokens (f : String) : List Token :=
  [⟨.keyword, "this"⟩, ⟨.separator, "."⟩, nameToken f, ⟨.operator, "="⟩, nameToken f,
   ⟨.separator, ";"⟩]

/-- The tokens of a member. -/
def tokens : Member → List Token
  | field uses type name =>
    uses.flatMap Annotation.tokens ++ ⟨.modifier, "private"⟩ :: (typeTokens type ++
      [nameToken name, ⟨.separator, ";"⟩])
  | getter type method f =>
    ⟨.modifier, "public"⟩ :: (typeTokens type ++ nameToken method :: ⟨.separator, "("⟩ ::
      ⟨.separator, ")"⟩ :: blockTokens (returnTokens f))
  | setter type method f =>
    ⟨.modifier, "public"⟩ :: ⟨.keyword, "void"⟩ :: nameToken method :: ⟨.separator, "("⟩ ::
      (typeTokens type ++ nameToken f :: ⟨.separator, ")"⟩ :: blockTokens (assignmentTokens f))

/-- Whether the names in a member are names. -/
def isSound : Member → Bool
  | field uses _ name => uses.all Annotation.isSound && isName name.toList
  | getter _ method f | setter _ method f => isName method.toList && isName f.toList

/-- The name of the field that a member declares. -/
def fieldName? : Member → Option String
  | field _ _ name => some name
  | getter _ _ _ | setter _ _ _ => none

/-- The name of the method that a member declares. -/
def methodName? : Member → Option String
  | field _ _ _ => none
  | getter _ method _ | setter _ method _ => some method

/-- A name as an expression that is read. -/
def expressionTree (w : String) : Tree Rule :=
  .node .expression [(Value.name w).tree]

/-- The trees of the statement that returns a field, without the sign that ends it. -/
def returnTrees (f : String) : List (Tree Rule) :=
  [.leaf ⟨.keyword, "return"⟩, expressionTree f]

/-- The tree of the statement that assigns a parameter, without the sign that ends it. -/
def assignmentTrees (f : String) : List (Tree Rule) :=
  [.node .expression
    [.node .conditional [.node .operand [.node .primary [.leaf ⟨.keyword, "this"⟩],
       .leaf ⟨.separator, "."⟩, .leaf (nameToken f)]],
     .leaf ⟨.operator, "="⟩, expressionTree f]]

/-- A block of one statement, as it is read. -/
def blockTree (parts : List (Tree Rule)) : Tree Rule :=
  .node .block [.leaf ⟨.separator, "\x7b"⟩,
    .node .blockStatement [.node .statement (parts ++ [.leaf ⟨.separator, ";"⟩])],
    .leaf ⟨.separator, "\x7d"⟩]

/-- What a member declares behind its modifiers, as it is read. -/
def declarationTrees : Member → List (Tree Rule)
  | field _ type name =>
    [typeTree type, .node .fieldName [.leaf (nameToken name)], .leaf ⟨.separator, ";"⟩]
  | getter type method f =>
    [typeTree type, .node .methodName [.leaf (nameToken method)],
     .node .formalParameters [.leaf ⟨.separator, "("⟩, .leaf ⟨.separator, ")"⟩],
     blockTree (returnTrees f)]
  | setter type method f =>
    [.leaf ⟨.keyword, "void"⟩, .node .methodName [.leaf (nameToken method)],
     .node .formalParameters [.leaf ⟨.separator, "("⟩,
       .node .formals [typeTree type, .leaf (nameToken f)], .leaf ⟨.separator, ")"⟩],
     blockTree (assignmentTrees f)]

/-- The modifiers of a member, as they are read. -/
def modifierTrees : Member → List (Tree Rule)
  | field uses _ _ => uses.map Annotation.tree ++ [.leaf ⟨.modifier, "private"⟩]
  | getter _ _ _ | setter _ _ _ => [.leaf ⟨.modifier, "public"⟩]

/-- A member as it is read. -/
def tree (m : Member) : Tree Rule :=
  .node .member (.node .modifiers m.modifierTrees :: m.declarationTrees)

/-! ### Bodies -/

variable {ts : List Token} {parts : List (Tree Rule)} {n : Nat} {method : String}

/-- A statement that is no declaration makes up a block. -/
theorem reads_block {text : String} (htext : text ∈ ["return", "this"])
    (h : Reads n (.rule .statement) (⟨.keyword, text⟩ :: (ts ++ ⟨.separator, "\x7d"⟩ :: rest))
      [.node .statement (parts ++ [.leaf ⟨.separator, ";"⟩])] (⟨.separator, "\x7d"⟩ :: rest)) :
    Reads (n + 20) (.rule .block) (blockTokens (⟨.keyword, text⟩ :: ts) ++ rest)
      [blockTree parts] rest := by
  simp only [blockTokens, List.cons_append, List.append_assoc, List.nil_append]
  have hopen : negated (next "\x7d") (⟨.keyword, text⟩ :: (ts ++ ⟨.separator, "\x7d"⟩ :: rest)) =
      .ok true := by
    simp only [List.mem_cons, List.not_mem_nil, or_false] at htext
    rcases htext with rfl | rfl <;> rfl
  have hstatement : Reads (n + 10) (.rule .blockStatement)
      (⟨.keyword, text⟩ :: (ts ++ ⟨.separator, "\x7d"⟩ :: rest))
      [.node .blockStatement [.node .statement (parts ++ [.leaf ⟨.separator, ";"⟩])]]
      (⟨.separator, "\x7d"⟩ :: rest) := by
    simp only [List.mem_cons, List.not_mem_nil, or_false] at htext
    refine (Reads.rule (.choice 4 rfl ?_ ?_ h)).mono (by omega)
    · rcases htext with rfl | rfl
      · simp
        exact ⟨rfl, rfl⟩
      · simp
        exact ⟨rfl, rfl⟩
    · rcases htext with rfl | rfl <;> rfl
  have hloop := Reads.loopStep hopen hstatement (.loopEnd rfl)
  exact (Reads.rule (.seq (.seq .mark hloop) .mark)).of_eq rfl (by omega)

/-- A field name alone is read as an expression. -/
theorem reads_expression (hf : isName f.toList = true) :
    Reads 70 (.rule .expression) (nameToken f :: ⟨.separator, ";"⟩ :: rest) [expressionTree f]
      (⟨.separator, ";"⟩ :: rest) := by
  have hvalue : Reads 60 (.rule .conditional) (nameToken f :: ⟨.separator, ";"⟩ :: rest)
      [(Value.name f).tree] (⟨.separator, ";"⟩ :: rest) :=
    Value.reads_value (v := .name f) hf (by decide)
  exact (Reads.rule (.seq hvalue (.skip (by simp [assignmentOperators])))).of_eq rfl (by decide)

/-- The statement of a getter is read. -/
theorem reads_return (hf : isName f.toList = true) :
    Reads 90 (.rule .statement) (returnTokens f ++ rest)
      [.node .statement (returnTrees f ++ [.leaf ⟨.separator, ";"⟩])] rest := by
  have hopen : negated (next ";") (nameToken f :: ⟨.separator, ";"⟩ :: rest) = .ok true := by
    simp (disch := decide) [name_ne hf]
  have hbody : Reads 71 (orEmpty ";" (.rule .expression)) (nameToken f :: ⟨.separator, ";"⟩ :: rest)
      [expressionTree f] (⟨.separator, ";"⟩ :: rest) :=
    Reads.yes hopen (reads_expression hf)
  exact (Reads.rule (.choice 11 rfl (by simp [statementCases]) rfl
    (.seq (.seq .mark hbody) .mark))).of_eq rfl (by decide)

/-- The statement of a setter is read. -/
theorem reads_assignment (hf : isName f.toList = true) :
    Reads 120 (.rule .statement) (assignmentTokens f ++ rest)
      [.node .statement (assignmentTrees f ++ [.leaf ⟨.separator, ";"⟩])] rest := by
  simp only [assignmentTokens, List.cons_append, List.nil_append]
  have hprimary : Reads 20 (.rule .primary)
      (⟨.keyword, "this"⟩ :: ⟨.separator, "."⟩ :: nameToken f :: ⟨.operator, "="⟩ ::
        nameToken f :: ⟨.separator, ";"⟩ :: rest) [.node .primary [.leaf ⟨.keyword, "this"⟩]]
      (⟨.separator, "."⟩ :: nameToken f :: ⟨.operator, "="⟩ :: nameToken f ::
        ⟨.separator, ";"⟩ :: rest) :=
    (Reads.rule (.choice 2 rfl (by simp [primaryCases]) rfl (.seq .mark (.skip rfl)))).of_eq rfl
      (by decide)
  have hselector : Reads 10 selector
      (⟨.separator, "."⟩ :: nameToken f :: ⟨.operator, "="⟩ :: nameToken f ::
        ⟨.separator, ";"⟩ :: rest) [.leaf ⟨.separator, "."⟩, .leaf (nameToken f)]
      (⟨.operator, "="⟩ :: nameToken f :: ⟨.separator, ";"⟩ :: rest) :=
    (Reads.no rfl (.seq .mark (.choice 0 rfl (by simp) rfl (.seq .kind (.skip rfl))))).of_eq rfl
      (by decide)
  have hselectors : Reads 11 (.loop (nextAmong ["[", "."]) selector)
      (⟨.separator, "."⟩ :: nameToken f :: ⟨.operator, "="⟩ :: nameToken f ::
        ⟨.separator, ";"⟩ :: rest) [.leaf ⟨.separator, "."⟩, .leaf (nameToken f)]
      (⟨.operator, "="⟩ :: nameToken f :: ⟨.separator, ";"⟩ :: rest) :=
    (Reads.loopStep rfl hselector (.loopEnd rfl)).of_eq rfl (by decide)
  have htarget := Value.reads_operand (by simp [Value.beginsOperand, prefixOperators]) hprimary
    hselectors (by decide)
  have hassigned : Reads 75
      (when (nextAmong assignmentOperators)
        (.token (.among assignmentOperators) ++ .rule .expression))
      (⟨.operator, "="⟩ :: nameToken f :: ⟨.separator, ";"⟩ :: rest)
      [.leaf ⟨.operator, "="⟩, expressionTree f] (⟨.separator, ";"⟩ :: rest) :=
    (Reads.yes rfl (.seq (.token (by decide) rfl) (reads_expression hf))).of_eq rfl (by decide)
  have hexpression : Reads 80 (.rule .expression)
      (⟨.keyword, "this"⟩ :: ⟨.separator, "."⟩ :: nameToken f :: ⟨.operator, "="⟩ ::
        nameToken f :: ⟨.separator, ";"⟩ :: rest) (assignmentTrees f) (⟨.separator, ";"⟩ :: rest) :=
    (Reads.rule (.seq htarget hassigned)).of_eq rfl (by decide)
  exact (Reads.rule (.lastChoice (by simp [statementCases]) (.seq hexpression .mark))).of_eq rfl
    (by decide)

/-! ### Declarations -/

/-- The forms of members that do not begin with a type. -/
def untypedMembers : List (Lookahead × Part) :=
  [(next "void", voidMethod), (next "<", genericMember)] ++ declarationCases ++
    [(nextNameThen "(", constructor)]

/-- The members that begin with a type. -/
def typedMember : Part :=
  .rule .type ++ .choose (nextNameThen "(") (.rule .methodName ++ methodRest) fieldDeclarators

/-- A type in front of a name begins none of the other forms of members. -/
theorem untypedMembers_eq_false (hf : isName f.toList = true) :
    ∀ option ∈ untypedMembers, option.1 (typeTokens type ++ nameToken f :: rest) = .ok false := by
  rcases bytes_or_name type with rfl | ⟨htype, htokens, -⟩
  · simp [untypedMembers, declarationCases, typeTokens]
  · simp (disch := decide) [untypedMembers, declarationCases, htokens, name_ne htype, name_ne hf]

/-- A type begins with a token that is neither a modifier nor an annotation. -/
theorem exists_typeTokens (type : JavaType) : ∃ kind text ts,
    typeTokens type = ⟨kind, text⟩ :: ts ∧
      kind ∉ [TokenKind.modifier, TokenKind.atSign, TokenKind.fault] := by
  rcases bytes_or_name type with rfl | ⟨-, htokens, -⟩
  · exact ⟨.basicType, "byte", _, rfl, by decide⟩
  · exact ⟨.identifier, type.name, _, htokens, by decide⟩

/-- A member that begins with a type is read behind its modifiers. -/
theorem reads_typed (text : String) (htext : text ≠ "(" ∧ text ≠ ".") (type : JavaType)
    {uses : List Annotation} (huses : ∀ a ∈ uses, a.isSound = true) (hf : isName f.toList = true)
    (h : Reads n (.choose (nextNameThen "(") (.rule .methodName ++ methodRest) fieldDeclarators)
      (nameToken f :: ts) parts rest) :
    Reads (n + uses.length + 150) (.rule .member)
      (uses.flatMap Annotation.tokens ++ ⟨.modifier, text⟩ :: (typeTokens type ++
        nameToken f :: ts))
      [.node .member (.node .modifiers (uses.map Annotation.tree ++ [.leaf ⟨.modifier, text⟩]) ::
        typeTree type :: parts)] rest := by
  have hmodifiers : Reads (130 + uses.length) (.rule .modifiers)
      (uses.flatMap Annotation.tokens ++ ⟨.modifier, text⟩ :: (typeTokens type ++
        nameToken f :: ts))
      [.node .modifiers (uses.map Annotation.tree ++ [.leaf ⟨.modifier, text⟩])]
      (typeTokens type ++ nameToken f :: ts) := by
    obtain ⟨kind, first, others, htokens, hkind⟩ := exists_typeTokens type
    rw [htokens]
    exact Annotation.reads_modifiers huses htext hkind
  have hdeclaration : Reads (n + 40) (cases untypedMembers typedMember)
      (typeTokens type ++ nameToken f :: ts) (typeTree type :: parts) rest :=
    (Reads.lastChoice (untypedMembers_eq_false hf) (.seq (reads_type hf) h)).mono (by
      have hlength : untypedMembers.length = 7 := rfl
      omega)
  exact (Reads.rule (.seq hmodifiers hdeclaration)).of_eq rfl (by omega)

/-- A field with sound annotations is read as its tree. -/
theorem reads_field {uses : List Annotation} (huses : ∀ a ∈ uses, a.isSound = true)
    (hf : isName f.toList = true) :
    Reads (uses.length + 200) (.rule .member) ((field uses type f).tokens ++ rest)
      [(field uses type f).tree] rest := by
  have hname : Reads 8 (.rule .fieldName ++ variableRest) (nameToken f :: ⟨.separator, ";"⟩ :: rest)
      [.node .fieldName [.leaf (nameToken f)]] (⟨.separator, ";"⟩ :: rest) :=
    (Reads.seq (.rule .kind) (.seq (reads_dimensions (by decide) (by decide)) (.skip rfl))).of_eq
      rfl (by decide)
  have hdeclarators : Reads 15
      (.choose (nextNameThen "(") (.rule .methodName ++ methodRest) fieldDeclarators)
      (nameToken f :: ⟨.separator, ";"⟩ :: rest)
      [.node .fieldName [.leaf (nameToken f)], .leaf ⟨.separator, ";"⟩] rest :=
    (Reads.no rfl (.seq (.separatedOne hname rfl) .mark)).of_eq rfl (by decide)
  have hmember := reads_typed "private" (by decide) type huses hf hdeclarators
  simp only [tokens, List.append_assoc, List.cons_append, List.nil_append]
  exact hmember.of_eq rfl (by omega)

/-- A getter is read as its tree. -/
theorem reads_getter (hmethod : isName method.toList = true) (hf : isName f.toList = true) :
    Reads 300 (.rule .member) ((getter type method f).tokens ++ rest)
      [(getter type method f).tree] rest := by
  have hparameters : Reads 10 (.rule .formalParameters)
      (⟨.separator, "("⟩ :: ⟨.separator, ")"⟩ :: (blockTokens (returnTokens f) ++ rest))
      [.node .formalParameters [.leaf ⟨.separator, "("⟩, .leaf ⟨.separator, ")"⟩]]
      (blockTokens (returnTokens f) ++ rest) :=
    (Reads.rule (.seq (.seq .mark (.yes rfl .nothing)) .mark)).of_eq rfl (by decide)
  have hbody : Reads 120 blockOrSemicolon (blockTokens (returnTokens f) ++ rest)
      [blockTree (returnTrees f)] rest :=
    (Reads.yes rfl (reads_block (by decide) (reads_return hf))).mono (by decide)
  have hrest : Reads 130
      (.choose (nextNameThen "(") (.rule .methodName ++ methodRest) fieldDeclarators)
      (nameToken method :: ⟨.separator, "("⟩ :: ⟨.separator, ")"⟩ ::
        (blockTokens (returnTokens f) ++ rest))
      [.node .methodName [.leaf (nameToken method)],
       .node .formalParameters [.leaf ⟨.separator, "("⟩, .leaf ⟨.separator, ")"⟩],
       blockTree (returnTrees f)] rest :=
    (Reads.yes rfl (.seq (.rule .kind) (.seq (.seq (.seq hparameters
      (reads_dimensions (by decide) (by decide))) (.skip rfl)) hbody))).of_eq rfl (by decide)
  have hmember := reads_typed "public" (by decide) type
    (List.forall_mem_nil fun a : Annotation => a.isSound = true) hmethod hrest
  simp only [tokens, List.append_assoc, List.cons_append]
  exact hmember.of_eq rfl (by decide)

/-- The parameter of a setter is read in its parentheses. -/
theorem reads_parameter (hf : isName f.toList = true) :
    Reads 50 (.rule .formalParameters)
      (⟨.separator, "("⟩ :: (typeTokens type ++ nameToken f :: ⟨.separator, ")"⟩ :: rest))
      [.node .formalParameters [.leaf ⟨.separator, "("⟩,
        .node .formals [typeTree type, .leaf (nameToken f)], .leaf ⟨.separator, ")"⟩]] rest := by
  have hquestions : either (next "final") beginsAnnotationUse
        (typeTokens type ++ nameToken f :: ⟨.separator, ")"⟩ :: rest) = .ok false ∧
      next ")" (typeTokens type ++ nameToken f :: ⟨.separator, ")"⟩ :: rest) = .ok false := by
    rcases bytes_or_name type with rfl | ⟨htype, htokens, -⟩
    · simp [typeTokens]
    · simp (disch := decide) [htokens, name_ne htype]
  have hname : Reads 10 (.choose (next "...") (Grammar.mark "..." ++ identifier ++ dimensions)
      (identifier ++ dimensions ++ after "," (.rule .formals)))
      (nameToken f :: ⟨.separator, ")"⟩ :: rest) [.leaf (nameToken f)]
      (⟨.separator, ")"⟩ :: rest) :=
    (Reads.no (by simp (disch := decide) [name_ne hf]) (.seq (.seq .kind
      (reads_dimensions (by decide) (by decide))) (.skip rfl))).of_eq rfl (by decide)
  have hformals : Reads 30 (.rule .formals)
      (typeTokens type ++ nameToken f :: ⟨.separator, ")"⟩ :: rest)
      [.node .formals [typeTree type, .leaf (nameToken f)]] (⟨.separator, ")"⟩ :: rest) :=
    (Reads.rule (.seq (.seq (.loopEnd hquestions.1) (reads_type hf)) hname)).of_eq rfl
      (by decide)
  exact (Reads.rule (.seq (.seq .mark (.no hquestions.2 hformals)) .mark)).of_eq rfl (by decide)

/-- A setter is read as its tree. -/
theorem reads_setter (hf : isName f.toList = true) :
    Reads 300 (.rule .member) ((setter type method f).tokens ++ rest)
      [(setter type method f).tree] rest := by
  have hbody : Reads 150 blockOrSemicolon (blockTokens (assignmentTokens f) ++ rest)
      [blockTree (assignmentTrees f)] rest :=
    (Reads.yes rfl (reads_block (by decide) (reads_assignment hf))).mono (by decide)
  have hmethod : Reads 190 voidMethod
      (⟨.keyword, "void"⟩ :: nameToken method :: ⟨.separator, "("⟩ :: (typeTokens type ++
        nameToken f :: ⟨.separator, ")"⟩ :: (blockTokens (assignmentTokens f) ++ rest)))
      (setter type method f).declarationTrees rest :=
    (Reads.seq (.seq .mark (.rule .kind)) (.seq (.seq (reads_parameter hf) (.skip rfl))
      hbody)).of_eq rfl (by decide)
  have hdeclaration : Reads 200 (cases untypedMembers typedMember)
      (⟨.keyword, "void"⟩ :: nameToken method :: ⟨.separator, "("⟩ :: (typeTokens type ++
        nameToken f :: ⟨.separator, ")"⟩ :: (blockTokens (assignmentTokens f) ++ rest)))
      (setter type method f).declarationTrees rest :=
    (Reads.choice 0 rfl (by simp) rfl hmethod).mono (by decide)
  have hmodifiers : ∀ ts, Reads 130 (.rule .modifiers)
      (⟨.modifier, "public"⟩ :: ⟨.keyword, "void"⟩ :: ts)
      [.node .modifiers [.leaf ⟨.modifier, "public"⟩]] (⟨.keyword, "void"⟩ :: ts) := fun ts =>
    Annotation.reads_modifiers (List.forall_mem_nil fun a : Annotation => a.isSound = true)
      (by decide) (by decide)
  simp only [tokens, List.append_assoc, List.cons_append]
  exact (Reads.rule (.seq (hmodifiers _) hdeclaration)).of_eq rfl (by decide)

/-- Annotations are no more than their tokens. -/
theorem length_le_tokens (uses : List Annotation) :
    uses.length ≤ (uses.flatMap Annotation.tokens).length := by
  induction uses with
  | nil => exact Nat.le_refl 0
  | cons a uses ih =>
    rw [List.flatMap_cons, List.length_append, List.length_cons, Annotation.tokens,
      List.length_cons]
    omega

/-- A member is read, whatever follows it. -/
theorem reads_member {m : Member} (hm : m.isSound = true) :
    Reads (m.tokens.length + 300) (.rule .member) (m.tokens ++ rest) [m.tree] rest := by
  cases m with
  | field uses type name =>
    rw [isSound, Bool.and_eq_true, List.all_eq_true] at hm
    have hlength : uses.length ≤ (field uses type name).tokens.length := by
      rw [tokens, List.length_append]
      exact Nat.le_trans (length_le_tokens uses) (Nat.le_add_right _ _)
    exact (reads_field hm.1 hm.2).mono (by omega)
  | getter type method f =>
    rw [isSound, Bool.and_eq_true] at hm
    exact (reads_getter hm.1 hm.2).mono (by omega)
  | setter type method f =>
    rw [isSound, Bool.and_eq_true] at hm
    exact (reads_setter hm.2).mono (by omega)

end Member

end EntityMapper.Java
