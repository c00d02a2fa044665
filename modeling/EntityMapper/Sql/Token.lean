import EntityMapper.Sql.Lexeme

/-!
# Tokens of SQL text

What a reader of declarations sees of a text: words, quoted names with their quotes undone, string
and number literals, punctuation, and the rest.  White space and comments yield no token.  Each
token knows the span of the text that it comes from.
-/

namespace EntityMapper.Sql

/-- What a token is. -/
inductive TokenKind where
  /-- A keyword or an unquoted identifier. -/
  | word
  /-- An identifier in backticks, double quotes or brackets. -/
  | quoted
  /-- A literal in single quotes. -/
  | string
  | number
  | punctuation
  | other
  deriving DecidableEq, Repr

/-- A token: its value, and the span of the text from `start` up to `stop` that it comes from. -/
structure Token where
  kind : TokenKind
  value : String
  start : Nat := 0
  stop : Nat := 0
  deriving DecidableEq, Repr

namespace Token

/-- The value in upper case. -/
def upper (t : Token) : String :=
  String.ofList (Text.upper t.value.toList)

/-- Whether the token names something: a word or a quoted name. -/
def isIdentifier (t : Token) : Bool :=
  t.kind == .word || t.kind == .quoted

/-- Whether the token is one of the given upper-case words, unquoted. -/
def isWordIn (t : Token) (words : List String) : Bool :=
  t.kind == .word && words.contains t.upper

/-- Whether the token is the given upper-case word, unquoted. -/
def isWord (t : Token) (word : String) : Bool :=
  t.isWordIn [word]

/-- Whether the token is the given punctuation. -/
def isPunctuation (t : Token) (mark : String) : Bool :=
  t.kind == .punctuation && t.value == mark

end Token

/-! ## Undoing quotes -/

/-- A text in which each doubled occurrence of a character, from the left, is a single one. -/
def mergeDoubled (quote : Char) : List Char → List Char
  | c :: d :: cs =>
    if c = quote && d = quote then quote :: mergeDoubled quote cs
    else c :: mergeDoubled quote (d :: cs)
  | cs => cs

/-- The name inside a quoted text: the first character is dropped, the closing quote if it is
there, and where both quotes are the same a doubled quote inside is one. -/
def unquote (raw : List Char) (opening closing : Char) : List Char :=
  let body := raw.drop 1
  let inside := if body.getLast? = some closing then body.dropLast else body
  if opening = closing then mergeDoubled closing inside else inside

/-- The quote that closes a name opened by the given character. -/
def closingQuote? (opening : Char) : Option Char :=
  if opening = backtick then some backtick
  else if opening = '"' then some '"'
  else if opening = '[' then some ']'
  else none

/-! ## From lexemes to tokens -/

/-- Whether lexemes of a kind are read as words, one for each part between white space. -/
def LexemeKind.isWordLike : LexemeKind → Bool
  | .name | .builtinName | .keyword | .definition | .ordering | .timeZone => true
  | _ => false

/-- Whether lexemes of a kind may be quoted names. -/
def LexemeKind.isNameLike : LexemeKind → Bool
  | .name | .builtinName | .placeholder | .quotedName => true
  | _ => false

/-- The words of a lexeme that stands at the given index. -/
def wordTokens (index : Nat) (text : List Char) : List Token :=
  (Text.piecesFrom Text.isSpace index [] text).map fun (start, word) =>
    ⟨.word, String.ofList word, start, start + word.length⟩

/-- The tokens of a lexeme that stands at the given index. -/
def Lexeme.tokens (index : Nat) (l : Lexeme) : List Token :=
  let whole (kind : TokenKind) : List Token :=
    [⟨kind, String.ofList l.text, index, index + l.text.length⟩]
  match l.kind with
  | .blank | .newline | .lineComment | .lineHint | .blockComment | .blockHint => []
  | .string => whole .string
  | .number => whole .number
  | .punctuation => whole .punctuation
  | kind =>
    let quotes : Option (Char × Char) :=
      if kind.isNameLike then
        l.text.head?.bind fun opening => (closingQuote? opening).map ((opening, ·))
      else none
    match quotes with
    | some (opening, closing) =>
      [⟨.quoted, String.ofList (unquote l.text opening closing), index,
        index + l.text.length⟩]
    | none => if kind.isWordLike then wordTokens index l.text else whole .other

/-- The tokens of lexemes the first of which stands at the given index. -/
def tokensFrom : Nat → List Lexeme → List Token
  | _, [] => []
  | index, l :: ls => l.tokens index ++ tokensFrom (index + l.text.length) ls

/-- The tokens of a text. -/
def tokenize [DelimiterForm] (sql : String) : List Token :=
  tokensFrom 0 (lexemes sql.toList)

end EntityMapper.Sql
