import EntityMapper.Naming.Identifier
import EntityMapper.Schema.Table
import EntityMapper.Sql.Item
import EntityMapper.Sql.Remark
import EntityMapper.Sql.Statement

/-!
# Table declarations

The table that a text declares: the first statement with a header counts.  Every item of its column
section has one outcome, a column or a remark that says why there is none, and a clause that makes
one column the primary key marks that column in the end.
-/

namespace EntityMapper.Sql

open Schema

/-- A name as it is compared with others: in lower case. -/
def comparable (name : String) : String :=
  String.ofList (Text.lower name.toList)

/-- The column that a definition in the given text describes. -/
def Definition.column (text : List Char) (d : Definition) : Column :=
  let sqlType := d.sqlType text
  { name := d.name.value
    fieldName := Naming.fieldName d.name.value
    type := JavaType.ofSql sqlType
    sqlType := sqlType
    primaryKey := d.isKey
    autoIncrement := d.isAutoIncrement
    nullable := !d.isNotNull && !d.isKey
    typeUnknown := (JavaType.ofSql? sqlType).isNone }

/-- What an item is. -/
inductive ItemReading where
  /-- It begins with no name. -/
  | notAName (first : Token)
  /-- It is a clause of the table, which may make a column the primary key. -/
  | clause (first : Token) (key : Option String)
  /-- It begins with a name but gives no type. -/
  | noType (first : Token)
  /-- It defines a column. -/
  | column (c : Column)
  deriving DecidableEq, Repr

/-- Reads an item of the given text; an empty item is none. -/
def ItemReading.ofItem? (text : List Char) : List Token → Option ItemReading
  | [] => none
  | first :: ts =>
    if !first.isIdentifier then some (.notAName first)
    else if beginsClause first then some (.clause first (keyColumn? (first :: ts)))
    else
      match Definition.ofItem? (first :: ts) with
      | some d => some (.column (d.column text))
      | none => some (.noType first)

/-- What becomes of an item in the table. -/
inductive ItemOutcome where
  /-- A column of the table. -/
  | kept (c : Column)
  /-- A column of a name that is taken. -/
  | duplicate (c : Column)
  /-- No column. -/
  | skipped (why : Remark)
  deriving DecidableEq, Repr

/-- The outcomes of items in order, where the comparable names of earlier columns are given. -/
def outcomes (table : String) : List String → List ItemReading → List ItemOutcome
  | _, [] => []
  | taken, .notAName first :: rs =>
    .skipped (.notAName first.value table) :: outcomes table taken rs
  | taken, .clause first _ :: rs => .skipped (.clause first.value) :: outcomes table taken rs
  | taken, .noType first :: rs => .skipped (.noType first.value) :: outcomes table taken rs
  | taken, .column c :: rs =>
    if comparable c.name ∈ taken then .duplicate c :: outcomes table taken rs
    else .kept c :: outcomes table (comparable c.name :: taken) rs

namespace ItemOutcome

/-- The column that the table gains. -/
def column? : ItemOutcome → Option Column
  | .kept c => some c
  | _ => none

/-- The remarks about a column's type. -/
def typeRemarks (c : Column) : List Remark :=
  if c.typeUnknown then [.unknownType c.sqlType c.name] else []

/-- The remarks that an outcome calls for. -/
def remarks (table : String) : ItemOutcome → List Remark
  | .kept c => typeRemarks c
  | .duplicate c => typeRemarks c ++ [.duplicateColumn c.name table]
  | .skipped why => [why]

end ItemOutcome

/-- The comparable names of the columns that clauses make the primary key. -/
def clauseKeys (readings : List ItemReading) : List String :=
  readings.filterMap fun
    | .clause _ (some key) => if key = "" then none else some (comparable key)
    | _ => none

/-- A column marked as the primary key if its name is among the given ones. -/
def markKey (keys : List String) (c : Column) : Column :=
  if comparable c.name ∈ keys then { c with primaryKey := true, nullable := false } else c

/-- The table of the given name and items, with the remarks about them. -/
def assemble (text : List Char) (name : String) (parts : List (List Token)) :
    Table × List Remark :=
  let readings := parts.filterMap (ItemReading.ofItem? text)
  let results := outcomes name [] readings
  let columns := (results.filterMap ItemOutcome.column?).map (markKey (clauseKeys readings))
  (⟨name, Naming.className name, columns⟩,
    results.flatMap (ItemOutcome.remarks name) ++
      if columns.isEmpty then [.noColumns name] else [])

/-- The table that a header in the given text introduces, with the remarks about it. -/
def Header.table (text : List Char) (h : Header) : Table × List Remark :=
  match h.rest with
  | [] => (⟨h.name, Naming.className h.name, []⟩, [.noColumnSection h.name])
  | t :: ts =>
    if t.isPunctuation "(" then assemble text h.name (items ts)
    else (⟨h.name, Naming.className h.name, []⟩, [.noColumnSection h.name])

/-- The table that a statement declares, with the remarks about it. -/
def tableOf? [DelimiterForm] (statement : List Char) : Option (Table × List Remark) :=
  (Header.find? (tokenize (String.ofList statement))).map (Header.table statement)

/-- Why a text yields no table. -/
inductive ReadingFailure where
  | noTableDeclaration
  deriving DecidableEq, Repr

/-- The failure's name. -/
def ReadingFailure.name : ReadingFailure → String
  | .noTableDeclaration => "NoTableDeclaration"

/-- The failure's wording. -/
def ReadingFailure.message : ReadingFailure → String
  | .noTableDeclaration => "no CREATE TABLE declaration found"

/-- What a text declares, with the remarks about it. -/
structure Reading where
  result : Except ReadingFailure Table
  remarks : List Remark

/-- Reads the first table declaration of a text. -/
def read [DelimiterForm] (text : String) : Reading :=
  match (statements text.toList).findSome? tableOf? with
  | some (table, remarks) => ⟨.ok table, remarks⟩
  | none => ⟨.error .noTableDeclaration, [.noDeclaration text.toList.length]⟩

/-- Matches the beginning of a table declaration: `CREATE`, words, `TABLE`. -/
def declarationPattern : Pattern :=
  .wordEdge ++ .text "CREATE" ++ .blanks ++
    .repeated .reluctant (.oneOrMore Text.isWord ++ .blanks) ++ .text "TABLE" ++ .wordEdge

/-- Whether a text looks as if it declared a table. -/
def mayDeclare (text : String) : Bool :=
  declarationPattern.occursIn text.toList

end EntityMapper.Sql
