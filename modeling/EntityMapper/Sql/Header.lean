import EntityMapper.Sql.Token

/-!
# Headers of table declarations

A declaration begins with `CREATE`, modifiers, `TABLE`, perhaps `IF NOT EXISTS`, and the name of the
table, of which the last part counts where it is qualified.
-/

namespace EntityMapper.Sql

/-- The words that may stand between `CREATE` and `TABLE`. -/
def tableModifiers : List String :=
  ["TEMPORARY", "TEMP", "GLOBAL", "LOCAL", "UNLOGGED", "OR", "REPLACE"]

/-- Whether tokens begin with the given words. -/
def beginsWith : List String → List Token → Bool
  | [], _ => true
  | _ :: _, [] => false
  | word :: words, t :: ts => t.isWord word && beginsWith words ts

/-- Whether the given words stand next to each other somewhere in the tokens. -/
def hasSequence (words : List String) : List Token → Bool
  | [] => words.isEmpty
  | t :: ts => beginsWith words (t :: ts) || hasSequence words ts

/-- The name of a table and the tokens after its declaration's header. -/
structure Header where
  name : String
  rest : List Token
  deriving DecidableEq, Repr

namespace Header

/-- The last part of a qualified name, whose first part is given, and the tokens after it. -/
def qualified (name : String) : List Token → Header
  | dot :: part :: ts =>
    if dot.isPunctuation "." && part.isIdentifier then qualified part.value ts
    else ⟨name, dot :: part :: ts⟩
  | ts => ⟨name, ts⟩

/-- The name that tokens begin with and the tokens after it; empty names do not count. -/
def named? : List Token → Option Header
  | [] => none
  | t :: ts =>
    if t.isIdentifier && t.value != "" then
      let header := qualified t.value ts
      if header.name = "" then none else some header
    else none

/-- The header after the word that begins it. -/
def afterCreate? (ts : List Token) : Option Header :=
  match ts.dropWhile (·.isWordIn tableModifiers) with
  | [] => none
  | t :: ts =>
    if t.isWord "TABLE" then
      named? (if beginsWith ["IF", "NOT", "EXISTS"] ts then ts.drop 3 else ts)
    else none

/-- The first header in the tokens. -/
def find? : List Token → Option Header
  | [] => none
  | t :: ts =>
    match if t.isWord "CREATE" then afterCreate? ts else none with
    | some header => some header
    | none => find? ts

end Header

end EntityMapper.Sql
