import EntityMapper.Java.Syntax

/-!
# The outline of Java source

What a source text declares, as far as a generated class can be compared with its table: the name,
annotations, fields and methods of the first type, and the imports.
-/

namespace EntityMapper.Java

/-- The outline of the first type that a source text declares. -/
structure Outline where
  name : String
  annotations : List String := []
  imports : List String := []
  fields : List String := []
  methods : List String := []
  deriving DecidableEq, Repr

/-- Why a source text has no outline. -/
inductive OutlineError where
  /-- The text does not follow the grammar. -/
  | syntactic
  /-- The text holds what is no token. -/
  | lexical
  /-- The text ends before its package and imports are complete. -/
  | unfinished
  /-- The text declares no type. -/
  | noType
  deriving DecidableEq, Repr

namespace Outline

/-- The parts of the nodes of a rule among trees. -/
def partsOf (rule : Rule) (trees : List (Tree Rule)) : List (List (Tree Rule)) :=
  trees.filterMap fun
    | .node name parts => if name = rule then some parts else none
    | .leaf _ => none

/-- The tokens among trees. -/
def leaves (trees : List (Tree Rule)) : List Token :=
  trees.filterMap fun
    | .leaf t => some t
    | .node _ _ => none

/-- The text of the tokens among trees. -/
def text (trees : List (Tree Rule)) : String :=
  String.join ((leaves trees).map (·.text))

/-- The texts of the nodes of a rule among trees. -/
def texts (rule : Rule) (trees : List (Tree Rule)) : List String :=
  (partsOf rule trees).map text

/-- The parts of all nodes among trees, whatever their rules. -/
def inside (trees : List (Tree Rule)) : List (Tree Rule) :=
  trees.flatMap fun
    | .node _ parts => parts
    | .leaf _ => []

/-- The path of an import, of which the parts are given. -/
def importPath (parts : List (Tree Rule)) : String :=
  String.join (((leaves parts).map (·.text)).filter (· ∉ ["import", "static", ";"]))

/-- Whether a rule is the body of a declared type. -/
def isBody : Rule → Bool
  | .classBody | .enumBody | .interfaceBody | .annotationBody => true
  | _ => false

/-- The members in the body of a declared type, of which the parts are given. -/
def members (parts : List (Tree Rule)) : List (Tree Rule) :=
  inside (parts.filterMap fun
    | .node name parts => if isBody name then some (.node name parts) else none
    | .leaf _ => none)

/-- The outline of a source text of which the header and the declarations are given. -/
def ofParts (header declarations : List (Tree Rule)) : Option Outline :=
  match partsOf .typeDeclaration declarations with
  | [] => none
  | type :: _ =>
    let declared := inside type
    let inMembers := inside (members declared)
    some {
      name := String.join (texts .declaredName declared)
      annotations :=
        ((partsOf .modifiers type).flatMap (partsOf .annotationUse)).map fun use =>
          String.join (texts .qualifiedName use)
      imports := (partsOf .importDeclaration header).map importPath
      fields := texts .fieldName inMembers
      methods := texts .methodName inMembers }

/-- The outline of tokens. -/
def ofTokens (ts : List Token) : Except OutlineError Outline :=
  let read (rule : Rule) (ts : List Token) :=
    Grammar.read Syntax.rules (1000 * (ts.length + 1)) (.rule rule) ts
  match read .header ts with
  | .error .lexical => .error .lexical
  | .error .ended => .error .unfinished
  | .error _ => .error .syntactic
  | .ok (header, ts) =>
    match read .declarations ts with
    | .error .lexical => .error .lexical
    | .error _ => .error .syntactic
    | .ok (declarations, _) =>
      match ofParts (inside header) (inside declarations) with
      | some outline => .ok outline
      | none => .error .noType

/-- The outline of a source text. -/
def ofSource (source : String) : Except OutlineError Outline :=
  ofTokens (tokenize source)

end Outline

end EntityMapper.Java
