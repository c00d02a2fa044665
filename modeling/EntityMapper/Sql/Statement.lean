import EntityMapper.Sql.Lexeme

/-!
# Statements of SQL text

A text is cut into statements after each semicolon that stands outside parentheses and outside the
blocks of procedural code.  The blocks that are open, and the words that may still open one, are
the state of the cut; it starts afresh with every statement.
-/

namespace EntityMapper.Sql

/-- A block of procedural code that a statement can be inside of. -/
inductive Block where
  | declare
  | begin
  | loop
  | forLoop
  | whileLoop
  | ifBlock
  | caseBlock
  deriving DecidableEq, Repr

/-- What is known of the statement that is being read. -/
structure Nesting where
  /-- The open blocks, the innermost first. -/
  blocks : List Block := []
  /-- A loop head whose body has not begun. -/
  awaited : Option Block := none
  /-- Whether the statement defines something. -/
  creating : Bool := false
  /-- Whether the last word was one that may open a block or a transaction. -/
  begun : Bool := false
  /-- The parentheses and blocks that are open, which may fall below zero. -/
  level : Int := 0
  /-- Whether the statement has ended and only takes what trails it. -/
  ended : Bool := false
  deriving DecidableEq, Repr

/-- Whether lexemes of a kind are keywords of one sort or another. -/
def LexemeKind.isKeyword : LexemeKind → Bool
  | .keyword | .definition | .ordering | .timeZone => true
  | _ => false

/-- The lexeme's text in upper case. -/
def Lexeme.upper (l : Lexeme) : String :=
  String.ofList (Text.upper l.text)

/-- Whether the lexeme is a semicolon. -/
def Lexeme.isSemicolon (l : Lexeme) : Bool :=
  l.kind == .punctuation && l.text == [';']

namespace Nesting

/-- The state after a block has been opened. -/
def opened (s : Nesting) (b : Block) : Nesting :=
  { s with blocks := b :: s.blocks, level := s.level + 1 }

/-- The state after the innermost block has been closed if it is one of the given ones. -/
def closed (s : Nesting) (bs : List Block) : Nesting :=
  match s.blocks with
  | b :: rest => if b ∈ bs then { s with blocks := rest, level := s.level - 1 } else s
  | [] => s

/-- The state after a semicolon: a block that has just been begun was a transaction. -/
def afterSemicolon (s : Nesting) : Nesting :=
  let s := { s with awaited := none }
  if s.begun then { s with begun := false }.closed [.begin] else s

/-- The words that turn a begun block into a transaction. -/
def transactionWords : List String :=
  ["TRANSACTION", "WORK", "DEFERRED", "IMMEDIATE", "EXCLUSIVE"]

/-- The state after a word that opens a block inside a begun one, if it is such a word. -/
def insideBlock? (s : Nesting) (word : String) : Option Nesting :=
  if .begin ∉ s.blocks then none
  else if word = "FOR" then some { s with awaited := some .forLoop }
  else if word = "WHILE" then some { s with awaited := some .whileLoop }
  else if word = "LOOP" ∨ word = "DO" then
    match s.awaited with
    | some b => some ({ s with awaited := none }.opened b)
    | none => if word = "LOOP" then some (s.opened .loop) else none
  else if word = "IF" then some (s.opened .ifBlock)
  else if word = "CASE" then some (s.opened .caseBlock)
  else none

/-- The state after a word that closes a block. -/
def atEnd (s : Nesting) (word : String) : Nesting :=
  if word = "END IF" then s.closed [.ifBlock]
  else if word = "END FOR" then s.closed [.forLoop]
  else if word = "END WHILE" then s.closed [.whileLoop]
  else if word = "END CASE" then s.closed [.caseBlock]
  else if word = "END LOOP" then s.closed [.loop, .forLoop, .whileLoop]
  else if word = "END" then { s with blocks := s.blocks.tail, level := s.level - 1 }
  else s

/-- The state after a keyword, given in upper case. -/
def afterKeyword (s : Nesting) (kind : LexemeKind) (word : String) : Nesting :=
  if kind = .definition ∧ "CREATE".toList <+: word.toList then { s with creating := true }
  else if word = "DECLARE" ∧ s.creating ∧ s.blocks = [] then s.opened .declare
  else if word = "BEGIN" then
    match s.blocks with
    | .declare :: rest => { s with begun := true, blocks := .begin :: rest }
    | _ => { s with begun := true }.opened .begin
  else if s.begun ∧ kind = .keyword ∧ word ∈ transactionWords then
    { s with begun := false }.closed [.begin]
  else
    match s.insideBlock? word with
    | some inner => inner
    | none => s.atEnd word

/-- The state after a lexeme as far as blocks and parentheses go. -/
def nest (s : Nesting) (l : Lexeme) : Nesting :=
  if l.isSemicolon then s.afterSemicolon
  else if l.kind = .punctuation ∧ l.text = ['('] then { s with level := s.level + 1 }
  else if l.kind = .punctuation ∧ l.text = [')'] then { s with level := s.level - 1 }
  else if l.kind.isKeyword then s.afterKeyword l.kind l.upper
  else s

/-- Whether lexemes of a kind leave open whether a begun block is a transaction. -/
def isSilent : LexemeKind → Bool
  | .blank | .newline | .lineComment | .blockComment => true
  | _ => false

/-- The state after a lexeme. -/
def after (s : Nesting) (l : Lexeme) : Nesting :=
  let s := s.nest l
  if l.isSemicolon then
    { s with begun := false, ended := s.ended || (s.level ≤ 0 && .begin ∉ s.blocks) }
  else if l.kind = .keyword ∧ (Text.pieces Text.isSpace l.text).head? = some "GO".toList then
    { s with ended := true }
  else if isSilent l.kind ∨ (l.kind = .keyword ∧ l.upper = "BEGIN") then s
  else { s with begun := false }

/-- Whether a lexeme still belongs to a statement that has ended. -/
def trails (l : Lexeme) : Bool :=
  l.kind == .blank || l.kind == .lineComment

end Nesting

/-- The statements of lexemes, each as the list of its lexemes; the lexemes read before, the last
first, and the state that they led to are given. -/
def cut (s : Nesting) (read : List Lexeme) : List Lexeme → List (List Lexeme)
  | [] => [read.reverse]
  | l :: ls =>
    if s.ended && !Nesting.trails l then
      read.reverse :: cut (({} : Nesting).after l) [l] ls
    else cut (s.after l) (l :: read) ls

/-- The text of lexemes. -/
def textOf (ls : List Lexeme) : List Char :=
  ls.flatMap Lexeme.text

/-- The statements of a text, without the white space around them; a last part that holds nothing
but white space is none. -/
def statements [DelimiterForm] (cs : List Char) : List (List Char) :=
  let parts := (cut {} [] (lexemes cs)).map textOf
  let final := (parts.getLast?.getD []).all Text.isSpace
  (if final then parts.dropLast else parts).map Text.strip

end EntityMapper.Sql
