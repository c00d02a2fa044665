import EntityMapper.Java.Grammar

/-!
# The grammar of Java source

The rules by which the tokens of Java source are read: declarations of types with their members,
annotations, types, statements and expressions.  Where a statement can be a declaration or an
expression, the declaration is tried first.
-/

namespace EntityMapper.Java

/-- The rules of the grammar. -/
inductive Rule where
  | header
  | declarations
  | importDeclaration
  | typeDeclaration
  | modifiers
  | annotationUse
  | qualifiedName
  | elementValue
  | classDeclaration
  | enumDeclaration
  | interfaceDeclaration
  | annotationDeclaration
  | declaredName
  | fieldName
  | methodName
  | classBody
  | enumBody
  | interfaceBody
  | annotationBody
  | member
  | interfaceMember
  | annotationMember
  | enumConstants
  | enumConstant
  | type
  | referenceType
  | typeArguments
  | typeParameters
  | block
  | blockStatement
  | statement
  | localVariables
  | resources
  | expression
  | conditional
  | operand
  | primary
  | createdName
  | arrayInitializer
  | arrayItems
  | formalParameters
  | formals
  deriving DecidableEq, Repr

namespace Syntax

open Grammar

/-- A part of the grammar. -/
abbrev Part := Grammar Rule

/-! ## Questions -/

/-- Asks whether an annotation is applied here, and not declared. -/
def beginsAnnotationUse : Lookahead :=
  both (nextKind .atSign) (negated (following [.kind .atSign, .text "interface"]))

/-- Asks whether an annotation is declared here. -/
def beginsAnnotationDeclaration : Lookahead :=
  following [.kind .atSign, .text "interface"]

/-- Asks whether a name and the given text follow. -/
def nextNameThen (text : String) : Lookahead :=
  following [.kind .identifier, .text text]

/-- Asks whether the given texts follow one after the other. -/
def nextMarks (texts : List String) : Lookahead :=
  following (texts.map .text)

/-- Asks whether any token follows. -/
def nextAny : Lookahead := fun ts => (lookAt 0 ts).map Option.isSome

/-! ## Names and types -/

def identifier : Part := token (.kind .identifier)

def dimensions : Part := loop (nextMarks ["[", "]"]) (marks ["[", "]"])

/-- A type in a list of types: a primitive type must be an array there. -/
def listedType : Part :=
  choose (nextKind .basicType) (token (.kind .basicType) ++ marks ["[", "]"])
    (rule Rule.referenceType) ++ dimensions

def typeList : Part := separated "," listedType

def typeArgument : Part :=
  choose (next "?")
    (mark "?" ++
      when (nextAmong ["extends", "super"]) (token (.among ["extends", "super"]) ++ listedType))
    listedType

def plainTypeArguments : Part := mark "<" ++ typeList ++ mark ">"

def typeArgumentsOrDiamond : Part :=
  choose (nextMarks ["<", ">"]) (marks ["<", ">"]) (mark "<" ++ rule Rule.typeArguments)

def plainTypeArgumentsOrDiamond : Part :=
  choose (nextMarks ["<", ">"]) (marks ["<", ">"]) plainTypeArguments

def typeParameter : Part :=
  identifier ++ after "extends" (separated "&" (rule Rule.referenceType))

/-! ## Annotations and modifiers -/

def annotations : Part :=
  rule Rule.annotationUse ++ loop beginsAnnotationUse (rule Rule.annotationUse)

def modifierList : Part :=
  loop (either (nextKind .modifier) beginsAnnotationUse)
    (choose (nextKind .modifier) (token (.kind .modifier)) (rule Rule.annotationUse))

def variableModifiers : Part :=
  loop (either (next "final") beginsAnnotationUse)
    (choose (next "final") (mark "final") (rule Rule.annotationUse))

def elementPair : Part := identifier ++ mark "=" ++ rule Rule.elementValue

def elementArray : Part :=
  mark "\x7b" ++
    choose (next "\x7d") (mark "\x7d")
      (rule Rule.elementValue ++
        loop (negated (either (next "\x7d") (nextMarks [",", "\x7d"])))
          (mark "," ++ rule Rule.elementValue) ++
        after "," .nothing ++ mark "\x7d")

/-! ## Declarations -/

def packageDeclaration : Part :=
  when beginsAnnotationUse annotations ++
    choose (next "package") (mark "package" ++ rule Rule.qualifiedName ++ mark ";") .misfit

def declarationCases : List (Lookahead × Part) :=
  [(next "class", rule Rule.classDeclaration),
   (next "enum", rule Rule.enumDeclaration),
   (next "interface", rule Rule.interfaceDeclaration),
   (beginsAnnotationDeclaration, rule Rule.annotationDeclaration)]

/-- A body in braces. -/
def braced (item : Part) : Part :=
  mark "\x7b" ++ loop (negated (next "\x7d")) item ++ mark "\x7d"

def variableInitializer : Part :=
  choose (next "\x7b") (rule Rule.arrayInitializer) (rule Rule.expression)

def variableRest : Part := dimensions ++ after "=" variableInitializer

def variableDeclarator : Part := identifier ++ variableRest

def fieldDeclarators : Part := separated "," (rule Rule.fieldName ++ variableRest) ++ mark ";"

def constantDeclarators : Part :=
  separated "," (rule Rule.fieldName ++ dimensions ++ mark "=" ++ variableInitializer)

def throwsClause : Part := after "throws" (separated "," (rule Rule.qualifiedName))

def blockOrSemicolon : Part := choose (next "\x7b") (rule Rule.block) (mark ";")

def voidMethodRest : Part := rule Rule.formalParameters ++ throwsClause ++ blockOrSemicolon

def methodRest : Part :=
  rule Rule.formalParameters ++ dimensions ++ throwsClause ++ blockOrSemicolon

def constructor : Part :=
  identifier ++ rule Rule.formalParameters ++ throwsClause ++ rule Rule.block

def voidMethod : Part := mark "void" ++ rule Rule.methodName ++ voidMethodRest

def genericMember : Part :=
  rule Rule.typeParameters ++
    cases [(nextNameThen "(", constructor), (next "void", voidMethod)]
      (rule Rule.type ++ rule Rule.methodName ++ methodRest)

def genericInterfaceMember : Part :=
  rule Rule.typeParameters ++ choose (next "void") (mark "void") (rule Rule.type) ++
    rule Rule.methodName ++ methodRest

def bodyDeclaration : Part :=
  cases
    [(next ";", mark ";"),
     (nextMarks ["static", "\x7b"], mark "static" ++ rule Rule.block),
     (next "\x7b", rule Rule.block)]
    (rule Rule.member)

/-! ## Statements -/

/-- What a statement in a block begins like. -/
inductive StatementStart where
  | typeDeclaration
  | localVariables
  | statement
  | undecided
  deriving DecidableEq, Repr

/-- The tokens after a group of parentheses that is open to the given depth. -/
def afterParentheses : Nat → List Token → Except Fault (List Token)
  | _, [] => .ok []
  | depth, t :: ts =>
    if t.kind = .fault then .error .lexical
    else if t.text = "(" then afterParentheses (depth + 1) ts
    else if t.text = ")" then
      if depth ≤ 1 then .ok ts else afterParentheses (depth - 1) ts
    else afterParentheses depth ts

/-- The tokens after the dots and names that continue a name. -/
def afterDots : List Token → Except Fault (List Token)
  | [] => .ok []
  | dot :: ts =>
    if dot.kind = .fault then .error .lexical
    else if dot.text = "." then
      match ts with
      | [] => .ok []
      | name :: ts => if name.kind = .fault then .error .lexical else afterDots ts
    else .ok (dot :: ts)

/-- What a statement begins like, where modifiers and annotations are looked past, so many of them
at most, and it is known whether there have been annotations. -/
def startWithin : Nat → Bool → List Token → Except Fault StatementStart
  | 0, _, _ => .ok .statement
  | fuel + 1, annotated, ts => do
    if let t :: rest := ts then
      if t.kind = .fault then throw .lexical
      if t.kind = .modifier then
        if t.text = "final" then startWithin fuel annotated rest else return .typeDeclaration
      else if ← beginsAnnotationUse ts then
        let ts ← afterDots (rest.drop 1)
        if ← next "(" ts then startWithin fuel true (← afterParentheses 1 (ts.drop 1))
        else startWithin fuel true (ts.drop 1)
      else if t.text ∈ ["class", "enum", "interface", "@"] then return .typeDeclaration
      else if annotated || t.kind == .basicType then return .localVariables
      else if t.kind = .identifier then return .undecided
      else return .statement
    else return if annotated then .localVariables else .statement

/-- Asks whether a statement begins in the given way. -/
def startsLike (start : StatementStart) : Lookahead := fun ts =>
  (startWithin (ts.length + 1) false ts).map (· == start)

def parenthesized : Part := mark "(" ++ rule Rule.expression ++ mark ")"

def expressions : Part := separated "," (rule Rule.expression)

/-- Reads a grammar unless the given text follows. -/
def orEmpty (text : String) (g : Part) : Part := when (negated (next text)) g

def finallyClause : Part := after "finally" (rule Rule.block)

def catchClause : Part :=
  marks ["catch", "("] ++ variableModifiers ++ separated "|" (rule Rule.qualifiedName) ++
    identifier ++ mark ")" ++ rule Rule.block

def catches : Part := catchClause ++ loop (next "catch") catchClause

def tryRest : Part :=
  choose (next "\x7b")
    (rule Rule.block ++
      cases
        [(next "catch", catches ++ finallyClause),
         (next "finally", mark "finally" ++ rule Rule.block)]
        .misfit)
    (mark "(" ++ rule Rule.resources ++ rule Rule.block ++ when (next "catch") catches ++
      finallyClause)

def switchLabel : Part :=
  choose (next "case")
    (mark "case" ++ choose (nextNameThen ":") identifier (rule Rule.expression))
    (mark "default") ++ mark ":"

def switchGroup : Part :=
  switchLabel ++ loop (nextAmong ["case", "default"]) switchLabel ++
    loop (negated (nextAmong ["case", "default", "\x7d"])) (rule Rule.blockStatement)

/-- The parts of a loop head after its initialisation. -/
def forRest : Part :=
  mark ";" ++ orEmpty ";" (rule Rule.expression) ++ mark ";" ++ orEmpty ")" expressions

def forVariable : Part :=
  variableModifiers ++ rule Rule.type ++ identifier ++ dimensions ++
    choose (next ":") (mark ":" ++ rule Rule.expression)
      (orEmpty ";"
          (after "=" variableInitializer ++ loop (next ",") (mark "," ++ variableDeclarator)) ++
        forRest)

def forControl : Part := attempt forVariable (orEmpty ";" expressions ++ forRest)

def labelled : Part := when (nextKind .identifier) identifier ++ mark ";"

def statementCases : List (Lookahead × Part) :=
  [(next "\x7b", rule Rule.block),
   (next ";", mark ";"),
   (nextNameThen ":", identifier ++ mark ":" ++ rule Rule.statement),
   (next "if",
    mark "if" ++ parenthesized ++ rule Rule.statement ++ after "else" (rule Rule.statement)),
   (next "assert",
    mark "assert" ++ rule Rule.expression ++ after ":" (rule Rule.expression) ++ mark ";"),
   (next "switch",
    mark "switch" ++ parenthesized ++ mark "\x7b" ++
      loop (nextAmong ["case", "default"]) switchGroup ++ mark "\x7d"),
   (next "while", mark "while" ++ parenthesized ++ rule Rule.statement),
   (next "do", mark "do" ++ rule Rule.statement ++ mark "while" ++ parenthesized ++ mark ";"),
   (next "for", marks ["for", "("] ++ forControl ++ mark ")" ++ rule Rule.statement),
   (next "break", mark "break" ++ labelled),
   (next "continue", mark "continue" ++ labelled),
   (next "return", mark "return" ++ orEmpty ";" (rule Rule.expression) ++ mark ";"),
   (next "throw", mark "throw" ++ rule Rule.expression ++ mark ";"),
   (next "synchronized", mark "synchronized" ++ parenthesized ++ rule Rule.block),
   (next "try", mark "try" ++ tryRest)]

/-! ## Expressions -/

def assignmentOperators : List String :=
  ["=", "+=", "-=", "*=", "/=", "&=", "|=", "^=", "%=", "<<=", ">>=", ">>>="]

def infixOperators : List String :=
  ["||", "&&", "|", "^", "&", "==", "!=", "<", ">", "<=", ">=", "<<", "+", "-", "*", "/", "%"]

def prefixOperators : List String := ["++", "--", "!", "~", "+", "-"]

def postfixOperators : List String := ["++", "--"]

/-- An operator between operands; signs of shifts to the right are read together. -/
def infixOperator : Part :=
  choose (next ">") (mark ">" ++ after ">" (after ">" .nothing))
    (token (.among infixOperators))

def lambdaBody : Part :=
  mark "->" ++ choose (next "\x7b") (rule Rule.block) (rule Rule.expression)

def lambda : Part :=
  choose (following [.text "(", .kind .identifier, .text ","])
    (mark "(" ++ separated "," identifier ++ mark ")")
    (rule Rule.formalParameters) ++ lambdaBody

def cast : Part := mark "(" ++ rule Rule.type ++ mark ")" ++ rule Rule.operand

def arguments : Part :=
  mark "(" ++ choose (next ")") (mark ")") (expressions ++ mark ")")

def superSuffix : Part :=
  choose (next ".")
    (mark "." ++ when (next "<") plainTypeArguments ++ identifier ++ when (next "(") arguments)
    arguments

def genericSuffix : Part :=
  choose (next "super") (mark "super" ++ superSuffix) (identifier ++ arguments)

def genericInvocation : Part := plainTypeArguments ++ genericSuffix

def classCreatorRest : Part := arguments ++ when (next "\x7b") (rule Rule.classBody)

def innerCreator : Part :=
  identifier ++ when (next "<") plainTypeArgumentsOrDiamond ++ classCreatorRest

def arrayCreatorRest : Part :=
  choose (nextMarks ["[", "]"]) (dimensions ++ rule Rule.arrayInitializer)
    (loop (both (next "[") (negated (nextMarks ["[", "]"])))
        (mark "[" ++ rule Rule.expression ++ mark "]") ++ dimensions)

def creator : Part :=
  cases
    [(nextKind .basicType, token (.kind .basicType) ++ arrayCreatorRest),
     (next "<",
      plainTypeArguments ++ rule Rule.createdName ++ choose (next "[") .misfit classCreatorRest)]
    (rule Rule.createdName ++ choose (next "[") arrayCreatorRest classCreatorRest)

def identifierSuffix : Part :=
  cases
    [(nextMarks ["[", "]"], marks ["[", "]"] ++ dimensions ++ marks [".", "class"]),
     (next "(", arguments),
     (nextMarks [".", "class"], marks [".", "class"]),
     (nextMarks [".", "this"], marks [".", "this"]),
     (nextMarks [".", "<"], mark "." ++ genericInvocation),
     (nextMarks [".", "new"],
      marks [".", "new"] ++ when (next "<") plainTypeArguments ++ innerCreator),
     (nextMarks [".", "super", "("], marks [".", "super"] ++ arguments)]
    .nothing

def primaryCases : List (Lookahead × Part) :=
  [(nextKind .literal, token (.kind .literal)),
   (next "(", parenthesized),
   (next "this", mark "this" ++ when (next "(") arguments),
   (nextMarks ["super", "::"], mark "super"),
   (next "super", mark "super" ++ superSuffix),
   (next "new", mark "new" ++ creator),
   (next "<",
    plainTypeArguments ++ choose (next "this") (mark "this" ++ arguments) genericSuffix),
   (nextKind .identifier,
    identifier ++
      loop (following [.text ".", .kind .identifier]) (mark "." ++ identifier) ++
      identifierSuffix),
   (nextKind .basicType, token (.kind .basicType) ++ dimensions ++ marks [".", "class"]),
   (next "void", marks ["void", ".", "class"])]

def selector : Part :=
  choose (next "[") (mark "[" ++ rule Rule.expression ++ mark "]")
    (mark "." ++
      cases
        [(nextKind .identifier, identifier ++ when (next "(") arguments),
         (nextMarks ["super", "::"], mark "super"),
         (next "<", genericInvocation),
         (next "this", mark "this"),
         (next "super", mark "super" ++ superSuffix),
         (next "new", mark "new" ++ when (next "<") plainTypeArguments ++ innerCreator)]
        .misfit)

def primaryExpression : Part :=
  rule Rule.primary ++ loop (nextAmong ["[", "."]) selector ++
    loop (nextAmong postfixOperators) (token (.among postfixOperators))

/-! ## The rules -/

/-- What each rule reads. -/
def rules : Rule → Part
  | .header =>
    attempt packageDeclaration .nothing ++
      loop (next "import") (rule Rule.importDeclaration)
  | .declarations =>
    loop nextAny (choose (next ";") (mark ";") (rule Rule.typeDeclaration))
  | .importDeclaration =>
    mark "import" ++ after "static" .nothing ++ identifier ++
      loop (both (next ".") (negated (nextMarks [".", "*"]))) (mark "." ++ identifier) ++
      choose (next ".") (marks [".", "*", ";"]) (mark ";")
  | .typeDeclaration => rule Rule.modifiers ++ cases declarationCases .misfit
  | .modifiers => modifierList
  | .annotationUse =>
    mark "@" ++ rule Rule.qualifiedName ++
      after "("
        (orEmpty ")"
            (choose (nextNameThen "=") (separated "," elementPair) (rule Rule.elementValue)) ++
          mark ")")
  | .qualifiedName => separated "." identifier
  | .elementValue =>
    cases [(beginsAnnotationUse, rule Rule.annotationUse), (next "\x7b", elementArray)]
      (rule Rule.conditional)
  | .classDeclaration =>
    mark "class" ++ rule Rule.declaredName ++
      when (next "<") (rule Rule.typeParameters) ++
      after "extends" (rule Rule.type) ++ after "implements" typeList ++ rule Rule.classBody
  | .enumDeclaration =>
    mark "enum" ++ rule Rule.declaredName ++ after "implements" typeList ++ rule Rule.enumBody
  | .interfaceDeclaration =>
    mark "interface" ++ rule Rule.declaredName ++
      when (next "<") (rule Rule.typeParameters) ++
      after "extends" typeList ++ rule Rule.interfaceBody
  | .annotationDeclaration =>
    marks ["@", "interface"] ++ rule Rule.declaredName ++ rule Rule.annotationBody
  | .declaredName => identifier
  | .fieldName => identifier
  | .methodName => identifier
  | .classBody => braced bodyDeclaration
  | .enumBody =>
    mark "\x7b" ++ choose (next ",") (mark ",") (rule Rule.enumConstants) ++
      after ";" (loop (negated (next "\x7d")) bodyDeclaration) ++ mark "\x7d"
  | .interfaceBody => braced (choose (next ";") (mark ";") (rule Rule.interfaceMember))
  | .annotationBody => braced (rule Rule.annotationMember)
  | .member =>
    rule Rule.modifiers ++
      cases
        ([(next "void", voidMethod), (next "<", genericMember)] ++ declarationCases ++
          [(nextNameThen "(", constructor)])
        (rule Rule.type ++
          choose (nextNameThen "(") (rule Rule.methodName ++ methodRest) fieldDeclarators)
  | .interfaceMember =>
    rule Rule.modifiers ++
      cases
        (declarationCases ++ [(next "<", genericInterfaceMember), (next "void", voidMethod)])
        (rule Rule.type ++
          choose (nextNameThen "(") (rule Rule.methodName ++ methodRest)
            (constantDeclarators ++ mark ";"))
  | .annotationMember =>
    rule Rule.modifiers ++
      cases declarationCases
        (rule Rule.type ++
          choose (nextNameThen "(")
            (identifier ++ marks ["(", ")"] ++ dimensions ++
              after "default" (rule Rule.elementValue))
            constantDeclarators ++
          mark ";")
  | .enumConstants =>
    choose (either (next ";") (next "\x7d")) .nothing
      (rule Rule.enumConstant ++ after "," (rule Rule.enumConstants))
  | .enumConstant =>
    when beginsAnnotationUse annotations ++ identifier ++ when (next "(") arguments ++
      when (next "\x7b") (rule Rule.classBody)
  | .type =>
    cases
      [(nextKind .basicType, token (.kind .basicType)),
       (nextKind .identifier, rule Rule.referenceType)]
      .misfit ++ dimensions
  | .referenceType =>
    identifier ++ after "<" (rule Rule.typeArguments) ++ after "." (rule Rule.referenceType)
  | .typeArguments =>
    typeArgument ++ choose (next ">") (mark ">") (mark "," ++ rule Rule.typeArguments)
  | .typeParameters =>
    mark "<" ++ typeParameter ++
      loop (negated (next ">")) (mark "," ++ typeParameter) ++ mark ">"
  | .block => braced (rule Rule.blockStatement)
  | .blockStatement =>
    cases
      [(nextNameThen ":", rule Rule.statement),
       (next "synchronized", rule Rule.statement),
       (startsLike .typeDeclaration, rule Rule.typeDeclaration),
       (startsLike .localVariables, rule Rule.localVariables),
       (startsLike .statement, rule Rule.statement)]
      (attempt (rule Rule.localVariables) (rule Rule.statement))
  | .statement => cases statementCases (rule Rule.expression ++ mark ";")
  | .localVariables =>
    variableModifiers ++ rule Rule.type ++ separated "," variableDeclarator ++ mark ";"
  | .resources =>
    variableModifiers ++ rule Rule.referenceType ++ dimensions ++ identifier ++ dimensions ++
      mark "=" ++ rule Rule.expression ++ orEmpty ")" (mark ";") ++
      choose (next ")") (mark ")") (rule Rule.resources)
  | .expression =>
    rule Rule.conditional ++
      when (nextAmong assignmentOperators)
        (token (.among assignmentOperators) ++ rule Rule.expression)
  | .conditional =>
    rule Rule.operand ++
      loop (nextAmong ("instanceof" :: infixOperators))
        (choose (next "instanceof") (mark "instanceof" ++ rule Rule.type)
          (infixOperator ++ rule Rule.operand)) ++
      cases
        [(next "?", mark "?" ++ rule Rule.expression ++ mark ":" ++ rule Rule.conditional),
         (next "->", lambdaBody),
         (next "::",
          mark "::" ++ when (next "<") plainTypeArguments ++
            choose (next "new") (mark "new") (rule Rule.expression))]
        .nothing
  | .operand =>
    loop (nextAmong prefixOperators) (token (.among prefixOperators)) ++
      choose (next "(") (attempt lambda (attempt cast primaryExpression)) primaryExpression
  | .primary => cases primaryCases .misfit
  | .createdName =>
    identifier ++ when (next "<") typeArgumentsOrDiamond ++ after "." (rule Rule.createdName)
  | .arrayInitializer =>
    mark "\x7b" ++
      cases [(next ",", marks [",", "\x7d"]), (next "\x7d", mark "\x7d")] (rule Rule.arrayItems)
  | .arrayItems =>
    variableInitializer ++ orEmpty "\x7d" (mark ",") ++
      choose (next "\x7d") (mark "\x7d") (rule Rule.arrayItems)
  | .formalParameters =>
    mark "(" ++ choose (next ")") .nothing (rule Rule.formals) ++ mark ")"
  | .formals =>
    variableModifiers ++ rule Rule.type ++
      choose (next "...") (mark "..." ++ identifier ++ dimensions)
        (identifier ++ dimensions ++ after "," (rule Rule.formals))

end Syntax

end EntityMapper.Java
