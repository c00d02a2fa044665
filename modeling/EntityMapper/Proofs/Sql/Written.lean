import EntityMapper.Proofs.Schema.JavaTypes
import EntityMapper.Proofs.Sql.Yields
import EntityMapper.Sql.Declaration

/-!
# Declarations as they are written

The plain spelling of a table declaration: names in backticks, a keyword with rows of digits for
each type, and constraints behind it. Every part of it yields the same tokens in front of any text
that may follow it.
-/

namespace EntityMapper.Sql

open Schema

/-- A constraint behind the type of a column. -/
inductive Constraint where
  | notNull
  | primaryKey
  | autoIncrement
  deriving DecidableEq, Repr

/-- The words of a constraint. -/
def Constraint.text : Constraint → String
  | .notNull => "NOT NULL"
  | .primaryKey => "PRIMARY KEY"
  | .autoIncrement => "AUTO_INCREMENT"

/-- A column as it is written in a declaration. -/
structure WrittenColumn where
  name : String
  /-- The rule for the declared type. -/
  rule : List String × JavaType
  /-- The keyword of the declared type. -/
  keyword : String
  /-- The arguments of the declared type, each a row of digits. -/
  arguments : List (List Char)
  constraints : List Constraint
  name_ne : name ≠ ""
  name_not_clause : String.ofList (Text.upper name.toList) ∉ clauseWords
  rule_mem : rule ∈ JavaType.rules
  keyword_mem : keyword ∈ rule.1
  arguments_ne : ∀ ds ∈ arguments, ds ≠ []
  arguments_digits : ∀ ds ∈ arguments, ∀ d ∈ ds, d.isDigit = true

/-! ## The text -/

/-- The arguments behind the first one, with the parenthesis that closes them. -/
def moreArgumentsText : List (List Char) → List Char
  | [] => [')']
  | ds :: dss => ',' :: (ds ++ moreArgumentsText dss)

/-- The arguments of a declared type, in parentheses if there are any. -/
def argumentsText : List (List Char) → List Char
  | [] => []
  | ds :: dss => '(' :: (ds ++ moreArgumentsText dss)

/-- Constraints, each behind a blank. -/
def constraintsText : List Constraint → List Char
  | [] => []
  | k :: ks => ' ' :: (k.text.toList ++ constraintsText ks)

namespace WrittenColumn

/-- The declared type. -/
def typeText (c : WrittenColumn) : List Char :=
  c.keyword.toList ++ argumentsText c.arguments

/-- The definition of the column. -/
def text (c : WrittenColumn) : List Char :=
  inBackticks c.name.toList ++ ' ' :: (c.typeText ++ constraintsText c.constraints)

/-- The column that the definition describes. -/
def column (c : WrittenColumn) : Column :=
  { name := c.name
    fieldName := Naming.fieldName c.name
    type := c.rule.2
    sqlType := String.ofList c.typeText
    primaryKey := decide (.primaryKey ∈ c.constraints)
    autoIncrement :=
      Text.occurs "SERIAL".toList c.typeText || decide (.autoIncrement ∈ c.constraints)
    nullable := decide (.notNull ∉ c.constraints ∧ .primaryKey ∉ c.constraints)
    typeUnknown := false }

end WrittenColumn

/-- The columns behind the first one, with the parenthesis that closes the section. -/
def moreColumnsText : List WrittenColumn → List Char
  | [] => [')']
  | c :: cs => ", ".toList ++ (c.text ++ moreColumnsText cs)

/-- The column section without the parenthesis that opens it. -/
def sectionText : List WrittenColumn → List Char
  | [] => [')']
  | c :: cs => c.text ++ moreColumnsText cs

/-- The words in front of the name, which may ask for the case that there is no table yet. -/
def introText (ifNotExists : Bool) : List Char :=
  "CREATE TABLE".toList ++ if ifNotExists then " IF NOT EXISTS".toList else []

/-- A declaration up to the parenthesis that opens the column section. -/
def headerText (ifNotExists : Bool) (name : String) : List Char :=
  introText ifNotExists ++ ' ' :: (inBackticks name.toList ++ [' ', '('])

/-- The declaration of a table. -/
def declarationText (ifNotExists : Bool) (name : String) (columns : List WrittenColumn) : String :=
  String.ofList (headerText ifNotExists name ++ sectionText columns)

/-! ## The tokens -/

/-- The token of a single word. -/
def word (value : String) (index : Nat) : Token :=
  ⟨.word, value, index, index + value.length⟩

/-- The token of a row of digits. -/
def number (ds : List Char) (index : Nat) : Token :=
  ⟨.number, String.ofList ds, index, index + ds.length⟩

/-- The token of a name in backticks. -/
def quotedName (name : String) (index : Nat) : Token :=
  ⟨.quoted, name, index, index + (inBackticks name.toList).length⟩

/-- The tokens in front of the name. -/
def introTokens (ifNotExists : Bool) (index : Nat) : List Token :=
  [word "CREATE" index, word "TABLE" (index + 7)] ++
    if ifNotExists then
      [word "IF" (index + 13), word "NOT" (index + 16), word "EXISTS" (index + 20)]
    else []

/-- The tokens up to the parenthesis that opens the column section. -/
def headerTokens (ifNotExists : Bool) (name : String) (index : Nat) : List Token :=
  introTokens ifNotExists index ++
    [quotedName name (index + (introText ifNotExists).length + 1),
      mark '(' (index + (introText ifNotExists).length + 1 +
        (inBackticks name.toList).length + 1)]

def moreArgumentsTokens : List (List Char) → Nat → List Token
  | [], index => [mark ')' index]
  | ds :: dss, index => mark ',' index :: number ds (index + 1) ::
      moreArgumentsTokens dss (index + 1 + ds.length)

def argumentsTokens : List (List Char) → Nat → List Token
  | [], _ => []
  | ds :: dss, index => mark '(' index :: number ds (index + 1) ::
      moreArgumentsTokens dss (index + 1 + ds.length)

def Constraint.tokens : Constraint → Nat → List Token
  | .notNull, index => [word "NOT" index, word "NULL" (index + 4)]
  | .primaryKey, index => [word "PRIMARY" index, word "KEY" (index + 8)]
  | .autoIncrement, index => [word "AUTO_INCREMENT" index]

def constraintsTokens : List Constraint → Nat → List Token
  | [], _ => []
  | k :: ks, index =>
    k.tokens (index + 1) ++ constraintsTokens ks (index + 1 + k.text.toList.length)

namespace WrittenColumn

/-- Where the declared type begins in a definition. -/
def typeStart (c : WrittenColumn) : Nat :=
  (inBackticks c.name.toList).length + 1

def tokens (c : WrittenColumn) (index : Nat) : List Token :=
  quotedName c.name index :: word c.keyword (index + c.typeStart) ::
    (argumentsTokens c.arguments (index + c.typeStart + c.keyword.toList.length) ++
      constraintsTokens c.constraints (index + c.typeStart + c.typeText.length))

end WrittenColumn

def moreColumnsTokens : List WrittenColumn → Nat → List Token
  | [], index => [mark ')' index]
  | c :: cs, index =>
    mark ',' index :: (c.tokens (index + 2) ++ moreColumnsTokens cs (index + 2 + c.text.length))

def sectionTokens : List WrittenColumn → Nat → List Token
  | [], index => [mark ')' index]
  | c :: cs, index => c.tokens index ++ moreColumnsTokens cs (index + c.text.length)

/-! ## Words of declarations -/

/-- What may follow the declared type of a column or one of its constraints. -/
def typeFollowers : List String :=
  ["(", ")", ",", " NOT NULL", " PRIMARY KEY", " AUTO_INCREMENT"]

/-- Every type keyword is read as words in front of what may follow it. -/
theorem readsWords_keyword : ∀ keyword ∈ JavaType.keywords, ∀ next ∈ typeFollowers,
    readsWords (some ' ') keyword.toList next.toList = true := by
  decide +kernel

/-- The text of a constraint is read as words in front of what may follow it. -/
theorem readsWords_constraint (k : Constraint) : ∀ next ∈ typeFollowers.tail,
    readsWords (some ' ') k.text.toList next.toList = true := by
  cases k <;> decide

/-- A type keyword is one word: not empty and without white space. -/
theorem wordTokens_keyword : ∀ keyword ∈ JavaType.keywords,
    keyword.toList ≠ [] ∧ ∀ c ∈ keyword.toList, Text.isSpace c = false := by
  decide

/-- A text without white space is one word token. -/
theorem wordTokens_eq_word {value : String} (hne : value.toList ≠ [])
    (h : ∀ c ∈ value.toList, Text.isSpace c = false) (index : Nat) :
    wordTokens index value.toList = [word value index] := by
  rw [wordTokens_of_no_space hne h, String.ofList_toList]
  rfl

/-- A word and a blank in front of a text are one word token in front of its tokens. -/
theorem wordTokens_cons_word {value : String} {cs : List Char} (hne : value.toList ≠ [])
    (h : ∀ c ∈ value.toList, Text.isSpace c = false) (index : Nat) :
    wordTokens index (value.toList ++ ' ' :: cs) =
      word value index :: wordTokens (index + value.length + 1) cs := by
  rw [wordTokens_cons hne h (by decide), String.ofList_toList]
  rfl

/-- The words of a constraint are its tokens. -/
theorem wordTokens_constraint (k : Constraint) (index : Nat) :
    wordTokens index k.text.toList = k.tokens index := by
  cases k with
  | notNull =>
    rw [show Constraint.notNull.text.toList = "NOT".toList ++ ' ' :: "NULL".toList by decide,
      wordTokens_cons_word (by decide) (by decide),
      wordTokens_eq_word (by decide) (by decide)]
    rfl
  | primaryKey =>
    rw [show Constraint.primaryKey.text.toList = "PRIMARY".toList ++ ' ' :: "KEY".toList by decide,
      wordTokens_cons_word (by decide) (by decide),
      wordTokens_eq_word (by decide) (by decide)]
    rfl
  | autoIncrement => exact wordTokens_eq_word (by decide) (by decide) index

/-- `IF NOT EXISTS` is three word tokens. -/
theorem wordTokens_ifNotExists (index : Nat) : wordTokens index "IF NOT EXISTS".toList =
    [word "IF" index, word "NOT" (index + 3), word "EXISTS" (index + 7)] := by
  rw [show "IF NOT EXISTS".toList =
      "IF".toList ++ ' ' :: ("NOT".toList ++ ' ' :: "EXISTS".toList) by
      decide,
    wordTokens_cons_word (by decide) (by decide), wordTokens_cons_word (by decide) (by decide),
    wordTokens_eq_word (by decide) (by decide)]
  rfl

end EntityMapper.Sql
