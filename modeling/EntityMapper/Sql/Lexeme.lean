import EntityMapper.Pattern.Builders
import EntityMapper.Text.Cutting

/-!
# Lexemes of SQL text

The lexical rules of SQL, tried in order at each place of a text: the delimited spans (dollar-quoted
text and block comments) first and then a table of patterns, of which the first that matches wins.
A character that begins no lexeme is a lexeme of its own, so the lexemes of a text concatenate to
the text.
-/

namespace EntityMapper.Sql

/-- What a lexeme is. -/
inductive LexemeKind where
  | blank
  | newline
  | lineComment
  | lineHint
  | blockComment
  | blockHint
  | dollarQuoted
  | string
  | quotedName
  | number
  | name
  | builtinName
  | placeholder
  | keyword
  | definition
  | ordering
  | timeZone
  | punctuation
  | operator
  | command
  | unknown
  deriving DecidableEq, Repr

/-- A piece of SQL text and what it is. -/
structure Lexeme where
  kind : LexemeKind
  text : List Char
  deriving DecidableEq, Repr

/-- A lexical rule: what its pattern matches is a lexeme of a kind that may depend on the text. -/
structure LexicalRule where
  pattern : Pattern
  kind : List Char → LexemeKind

/-- What a bare word is: one arithmetic operator, the statement words, and keywords or names. -/
def wordKind (word : List Char) : LexemeKind :=
  let upper := String.ofList (Text.upper word)
  if upper = "DIV" then .operator
  else if upper ∈ ["DROP", "CREATE", "ALTER", "TRUNCATE"] then .definition
  else .keyword

section Rules

open Pattern Text

/-- Names begin with a letter of the name alphabet or an underscore. -/
def isNameHead (c : Char) : Bool :=
  c == '_' || isNameStart c

/-- The backtick. -/
def backtick : Char := '\x60'

/-- Matches text between two quotes, where a doubled quote stands for one inside. -/
def doubledQuotes (quote : Char) : Pattern :=
  letter quote ++
    repeated .greedy ((letter quote ++ letter quote) <|> one (· != quote)) ++ letter quote

/-- Matches text between two quotes, where a doubled quote or one after a backslash stands
inside. -/
def escapedQuotes (quote : Char) : Pattern :=
  letter quote ++
    repeated .greedy
      ((letter quote ++ letter quote) <|> (letter '\\' ++ letter quote) <|> one (· != quote)) ++
    letter quote

/-- Matches the end of a line. -/
def lineBreak : Pattern :=
  text "\r\n" <|> text "\r" <|> text "\n"

/-- Matches the rest of a line with its end. -/
def restOfLine : Pattern :=
  many .reluctant (· != '\n') ++ (lineBreak <|> lineEnd)

/-- Matches the marks that begin a line comment. -/
def lineCommentStart : Pattern :=
  text "--" <|> text "# "

/-- Matches digits of at least one character. -/
def digits : Pattern :=
  oneOrMore isDecimal

def sign : Pattern :=
  optional (letter '-')

/-- Matches one of the given words and the white space after it. -/
def leading (words : List String) : Pattern :=
  match words with
  | [] => one fun _ => false
  | [word] => text word ++ blanks
  | word :: words => (text word ++ blanks) <|> leading words

/-- Matches one of the given words and the white space before it. -/
def trailing (words : List String) : Pattern :=
  match words with
  | [] => one fun _ => false
  | [word] => blanks ++ text word
  | word :: words => (blanks ++ text word) <|> trailing words

/-- A rule whose lexemes are all of one kind. -/
def always (kind : LexemeKind) (pattern : Pattern) : LexicalRule :=
  ⟨pattern, fun _ => kind⟩

/-- The lexical rules in the order in which they are tried. -/
def rules : List LexicalRule :=
  [ always .lineHint (lineCommentStart ++ letter '+' ++ restOfLine),
    always .lineComment (lineCommentStart ++ restOfLine),
    always .newline lineBreak,
    always .blank (one isSpace),
    always .operator (text ":="),
    always .punctuation (text "::"),
    always .operator (letter '*'),
    always .name (doubledQuotes backtick),
    always .name (doubledQuotes '´'),
    always .placeholder (letter '?'),
    always .placeholder
      (letter '%' ++ optional (letter '(' ++ oneOrMore isWord ++ letter ')') ++ letter 's'),
    always .placeholder (notBehind isWord ++ oneOf "$:?" ++ oneOrMore isWord),
    always .command (letter '\\' ++ oneOrMore isWord),
    always .keyword (anyOf ["CASE", "IN", "VALUES", "USING", "FROM", "AS"] ++ wordEdge),
    always .name (anyOf ["@", "##", "#"] ++ one isNameStart ++ oneOrMore isWord),
    always .name
      (one isNameStart ++ zeroOrMore isWord ++
        ahead (zeroOrMore isSpace ++ letter '.' ++ notNext isDecimal)),
    always .name
      (behind (·.any (· == '.')) ++ one isNameStart ++ zeroOrMore isWord),
    always .name (one isNameStart ++ zeroOrMore isWord ++ ahead (letter '(')),
    always .number
      (sign ++ text "0x" ++
        oneOrMore fun c => isDecimal (fold c) || ('a' ≤ fold c && fold c ≤ 'f')),
    always .number
      (sign ++ digits ++ optional (letter '.' ++ digits) ++ letter 'E' ++ sign ++ digits),
    always .number
      (notNext isNameHead ++ sign ++
        ((digits ++ letter '.' ++ zeroOrMore isDecimal) <|> (letter '.' ++ digits)) ++
        notNext isNameHead),
    always .number (notNext isNameHead ++ sign ++ digits ++ notNext isNameHead),
    always .string (escapedQuotes '\x27'),
    always .quotedName (escapedQuotes '"'),
    always .quotedName
      (text "\"\"" <|>
        (letter '"' ++ many .reluctant (· != '\n') ++ noneOf "\\" ++ letter '"')),
    always .name
      (notBehind (fun c => isWord c || c == ']' || c == ')') ++
        letter '[' ++ oneOrMore (fun c => c != ']' && c != '[') ++ letter ']'),
    always .keyword
      (optional
          ((optional (leading ["LEFT", "RIGHT", "FULL"]) ++
              optional (leading ["INNER", "OUTER", "STRAIGHT"])) <|>
            optional (leading ["CROSS", "NATURAL"])) ++
        text "JOIN" ++ wordEdge),
    always .keyword
      (text "END" ++ optional (trailing ["IF", "LOOP", "WHILE", "FOR", "CASE"]) ++ wordEdge),
    always .keyword
      (text "IF" ++ blanks ++ optional (leading ["NOT"]) ++ text "EXISTS" ++ wordEdge),
    always .keyword (phrase ["NOT", "NULL"]),
    always .ordering
      (anyOf ["ASC", "DESC"] ++
        optional (blanks ++ text "NULLS" ++ blanks ++ anyOf ["FIRST", "LAST"]) ++ wordEdge),
    always .ordering (anyOf ["ASC", "DESC"] ++ wordEdge),
    always .ordering (text "NULLS" ++ blanks ++ anyOf ["FIRST", "LAST"] ++ wordEdge),
    always .keyword (phrase ["UNION", "ALL"]),
    always .definition
      (text "CREATE" ++ optional (blanks ++ text "OR" ++ blanks ++ text "REPLACE") ++ wordEdge),
    always .builtinName (phrase ["DOUBLE", "PRECISION"]),
    always .keyword (phrase ["GROUP", "BY"]),
    always .keyword (phrase ["ORDER", "BY"]),
    always .keyword (phrase ["PRIMARY", "KEY"]),
    always .keyword (phrase ["HANDLER", "FOR"]),
    always .keyword (text "GO" ++ one isSpace ++ digits ++ wordEdge),
    always .keyword
      (text "LATERAL" ++ blanks ++ text "VIEW" ++ blanks ++
        anyOf ["EXPLODE", "INLINE", "PARSE_URL_TUPLE", "POSEXPLODE", "STACK"] ++ wordEdge),
    always .timeZone
      (anyOf ["AT", "WITH\x27"] ++ blanks ++ text "TIME" ++ blanks ++ text "ZONE" ++ blanks ++
        letter '\x27' ++ oneOrMore (· != '\x27') ++ letter '\x27'),
    always .operator
      (optional (leading ["NOT"]) ++ anyOf ["LIKE", "ILIKE", "RLIKE"] ++ wordEdge),
    always .operator
      (optional (leading ["NOT"]) ++ text "REGEXP" ++ optional (trailing ["BINARY"]) ++ wordEdge),
    ⟨one isWord ++ zeroOrMore fun c => c == '$' || c == '#' || isWord c, wordKind⟩,
    always .punctuation (oneOf ";:()[],."),
    always .operator
      (anyOf ["->>", "->", "#>>", "#>", "@>", "<@", "?|", "?", "?&", "-", "#-"]),
    always .operator (oneOrMore fun c => "<>=~!".toList.contains c),
    always .operator (oneOrMore fun c => "+/@#%^&|-".toList.contains c) ]

end Rules

/-- The kind and length of the lexeme that the first matching rule yields at a place. -/
def ruled? (s : Cursor) : Option (LexemeKind × Nat) :=
  rules.findSome? fun rule =>
    (rule.pattern.length? s).map fun n => (rule.kind (s.rest.take n), n)

/-! ## Delimited spans -/

/-- The delimiter of dollar-quoted text: two dollar signs around a tag that may be empty. -/
def dollarDelimiter : Pattern :=
  .notBehind (fun c => Text.isWord c || c == '"' || c == '$') ++ .letter '$' ++
    .optional (.one isNameHead ++ .zeroOrMore Text.isWord) ++ .letter '$'

/-- How the delimiter that closes dollar-quoted text is compared with the one that opens it: by the
form of each character.  Lexers differ here, and the same lexer did from one release to another. -/
class DelimiterForm where
  form : Char → Char

namespace DelimiterForm

/-- The closing delimiter is the opening one letter for letter. -/
instance exact : DelimiterForm :=
  ⟨id⟩

/-- The closing delimiter is the opening one in any case. -/
@[reducible]
def anyCase : DelimiterForm :=
  ⟨Text.lowerHead⟩

end DelimiterForm

/-- The number of characters up to and including the first text that closes like the given one. -/
def throughClosing? [DelimiterForm] (opening cs : List Char) : Option Nat :=
  Text.throughFirst? (opening.map DelimiterForm.form) (cs.map DelimiterForm.form)

/-- The length of the dollar-quoted text at a place: it ends with the delimiter that begins it. -/
def dollarQuoted? [DelimiterForm] (s : Cursor) : Option Nat := do
  let n ← dollarDelimiter.length? s
  let body ← throughClosing? (s.rest.take n) (s.rest.drop n)
  some (n + body)

example : dollarQuoted? (Cursor.start "$tag$ x $TAG$".toList) = none := by
  decide

example : @dollarQuoted? .anyCase (Cursor.start "$tag$ x $TAG$".toList) = some 13 := by
  decide

/-- The kind and length of the block comment that a text begins with. -/
def blockComment? : List Char → Option (LexemeKind × Nat)
  | '/' :: '*' :: '+' :: cs =>
    (Text.throughFirst? ['*', '/'] cs).map fun n => (.blockHint, n + 3)
  | '/' :: '*' :: cs => (Text.throughFirst? ['*', '/'] cs).map fun n => (.blockComment, n + 2)
  | _ => none

/-! ## The lexemes of a text -/

/-- The kind and length of the lexeme at a place; the length is not zero. -/
def lexeme [DelimiterForm] (s : Cursor) : LexemeKind × Nat :=
  let found : Option (LexemeKind × Nat) :=
    (dollarQuoted? s).map ((.dollarQuoted, ·)) <|> blockComment? s.rest <|> ruled? s
  match found with
  | some (kind, n) => (kind, max n 1)
  | none => (.unknown, 1)

/-- The lexemes from a place on, at most the given number of them. -/
def lexemesFrom [DelimiterForm] : Nat → Cursor → List Lexeme
  | 0, _ => []
  | fuel + 1, s =>
    match s.rest with
    | [] => []
    | c :: cs =>
      let (kind, n) := lexeme s
      ⟨kind, (c :: cs).take n⟩ :: lexemesFrom fuel (s.advance n)

/-- The lexemes of a text, which concatenate to it. -/
def lexemes [DelimiterForm] (cs : List Char) : List Lexeme :=
  lexemesFrom cs.length (Cursor.start cs)

end EntityMapper.Sql
