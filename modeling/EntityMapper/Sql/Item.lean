import EntityMapper.Sql.Header

/-!
# Items of a column section

A column section is cut at its commas into items.  An item defines a column, or it begins a clause
of the table, of which only a primary key over one column matters.
-/

namespace EntityMapper.Sql

/-- Cuts tokens at the commas outside parentheses, up to the parenthesis that closes none of them;
the open parentheses are counted and the tokens of the current item, last first, are given. -/
def itemsFrom : Nat → List Token → List Token → List (List Token)
  | _, item, [] => [item.reverse]
  | depth, item, t :: ts =>
    if t.isPunctuation "(" then itemsFrom (depth + 1) (t :: item) ts
    else if t.isPunctuation ")" then
      match depth with
      | 0 => [item.reverse]
      | depth + 1 => itemsFrom depth (t :: item) ts
    else if t.isPunctuation "," && depth == 0 then item.reverse :: itemsFrom 0 [] ts
    else itemsFrom depth (t :: item) ts

/-- The items of a section that the given tokens begin with. -/
def items (ts : List Token) : List (List Token) :=
  (itemsFrom 0 [] ts).filter (· ≠ [])

/-- The tokens outside parentheses, where so many parentheses are open; the parentheses are left
out as well. -/
def topLevelFrom : Nat → List Token → List Token
  | _, [] => []
  | depth, t :: ts =>
    if t.isPunctuation "(" then topLevelFrom (depth + 1) ts
    else if t.isPunctuation ")" then topLevelFrom (depth - 1) ts
    else if depth = 0 then t :: topLevelFrom depth ts
    else topLevelFrom depth ts

/-- The tokens outside parentheses. -/
def topLevel (ts : List Token) : List Token :=
  topLevelFrom 0 ts

/-! ## Clauses of the table -/

/-- The words that begin a clause of the table, quoted or not. -/
def clauseWords : List String :=
  ["PRIMARY", "FOREIGN", "KEY", "CONSTRAINT"]

/-- The words that begin a clause of the table unless they are quoted. -/
def bareClauseWords : List String :=
  ["UNIQUE", "INDEX", "CHECK", "FULLTEXT", "SPATIAL"]

/-- Whether an item that begins with the token is a clause of the table. -/
def beginsClause (first : Token) : Bool :=
  clauseWords.contains first.upper || first.isWordIn bareClauseWords

/-- The column in parentheses that tokens begin with, if it stands alone there. -/
def soleColumn? : List Token → Option String
  | opening :: column :: closing :: _ =>
    if opening.isPunctuation "(" && column.isIdentifier && closing.isPunctuation ")" then
      some column.value
    else none
  | _ => none

/-- The column that a clause declares to be the primary key: the first `PRIMARY KEY` counts, and it
must list one column. -/
def keyColumn? : List Token → Option String
  | [] => none
  | t :: ts =>
    if beginsWith ["PRIMARY", "KEY"] (t :: ts) then soleColumn? (ts.drop 1) else keyColumn? ts

/-! ## Column definitions -/

/-- The end of the group of parentheses that is open to the given depth, and the tokens after it.
-/
def closeGroup : Nat → List Token → Option (Nat × List Token)
  | _, [] => none
  | depth, t :: ts =>
    if t.isPunctuation "(" then closeGroup (depth + 1) ts
    else if t.isPunctuation ")" then
      if depth ≤ 1 then some (t.stop, ts) else closeGroup (depth - 1) ts
    else closeGroup depth ts

/-- The end of a declared type, whose first token is given, and the tokens after it: arguments in
parentheses belong to the type, up to the item's end if they are not closed. -/
def typeExtent (type : Token) : List Token → Nat × List Token
  | [] => (type.stop, [])
  | t :: ts =>
    if t.isPunctuation "(" then
      match closeGroup 1 ts with
      | some extent => extent
      | none => (((t :: ts).getLast?.getD t).stop, [])
    else (type.stop, t :: ts)

/-- A column definition in its parts. -/
structure Definition where
  name : Token
  type : Token
  /-- Where the declared type ends in the text. -/
  typeStop : Nat
  /-- The tokens after the declared type. -/
  rest : List Token
  deriving DecidableEq, Repr

/-- The parts of an item that defines a column: a name that is not empty and a type word. -/
def Definition.ofItem? : List Token → Option Definition
  | name :: type :: ts =>
    if name.value != "" && type.kind == .word then
      let (stop, rest) := typeExtent type ts
      some ⟨name, type, stop, rest⟩
    else none
  | _ => none

/-- The words that mark a column whose values are generated. -/
def autoIncrementWords : List String :=
  ["AUTO_INCREMENT", "AUTOINCREMENT", "IDENTITY"]

namespace Definition

/-- Whether the column is declared the primary key in its own definition. -/
def isKey (d : Definition) : Bool :=
  hasSequence ["PRIMARY", "KEY"] (topLevel d.rest)

/-- Whether the column is declared not to be null. -/
def isNotNull (d : Definition) : Bool :=
  hasSequence ["NOT", "NULL"] (topLevel d.rest)

/-- Whether the column's values are generated: a serial type or a marking word says so. -/
def isAutoIncrement (d : Definition) : Bool :=
  Text.occurs "SERIAL".toList d.type.upper.toList ||
    (topLevel d.rest).any (·.isWordIn autoIncrementWords)

/-- The declared type as it is written in the text. -/
def sqlType (d : Definition) (text : List Char) : String :=
  String.ofList ((text.take d.typeStop).drop d.type.start)

end Definition

end EntityMapper.Sql
