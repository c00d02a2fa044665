import EntityMapper.Text.Cutting

/-!
# Tokens of Java source

Unicode escapes are replaced first; what remains is cut into tokens, white space and comments being
left out.  Source that is no token is a fault, which stands as a last token in the place where it
occurs, so that it matters only to a reader that gets there.
-/

namespace EntityMapper.Java

open Text

/-- What a token is. -/
inductive TokenKind where
  | keyword
  | modifier
  | basicType
  | literal
  | separator
  | operator
  | atSign
  | identifier
  /-- Source that is no token. -/
  | fault
  deriving DecidableEq, Repr

/-- A token of Java source. -/
structure Token where
  kind : TokenKind
  text : String
  deriving DecidableEq, Repr

/-! ## Words -/

/-- The keywords that are modifiers. -/
def modifierWords : List String :=
  ["abstract", "default", "final", "native", "private", "protected", "public", "static",
   "strictfp", "synchronized", "transient", "volatile"]

/-- The keywords that are primitive types. -/
def basicTypeWords : List String :=
  ["boolean", "byte", "char", "double", "float", "int", "long", "short"]

/-- The other keywords. -/
def plainKeywords : List String :=
  ["assert", "break", "case", "catch", "class", "const", "continue", "do", "else", "enum",
   "extends", "finally", "for", "goto", "if", "implements", "import", "instanceof", "interface",
   "new", "package", "return", "super", "switch", "this", "throw", "throws", "try", "void",
   "while"]

/-- The words that are literals. -/
def literalWords : List String :=
  ["true", "false", "null"]

/-- What a word is. -/
def wordKind (word : String) : TokenKind :=
  if word ∈ modifierWords then .modifier
  else if word ∈ basicTypeWords then .basicType
  else if word ∈ plainKeywords then .keyword
  else if word ∈ literalWords then .literal
  else .identifier

/-- The characters that identifiers begin with. -/
def beginsIdentifier (c : Char) : Bool :=
  c.isAlpha || c == '_' || c == '$' || Property.identifierStart.has c.toNat

/-- The characters that identifiers consist of. -/
def continuesIdentifier (c : Char) : Bool :=
  c.isAlphanum || c == '_' || c == '$' || Property.identifierPart.has c.toNat

/-- Whether a text can be used as a name. -/
def isName (cs : List Char) : Bool :=
  cs.head?.any beginsIdentifier && (cs.drop 1).all continuesIdentifier &&
    wordKind (String.ofList cs) == .identifier

/-! ## Operators and separators -/

/-- The operators, longer ones first; two signs for one shift to the right stay apart. -/
def operators : List String :=
  [">>>=", ">>=", "<<=", "...", "%=", "^=", "|=", "&=", "/=", "*=", "-=", "+=", "<<", "--", "++",
   "||", "&&", "!=", ">=", "<=", "==", "->", "::", "%", "^", "|", "&", "/", "*", "-", "+", ":",
   "?", "~", "!", "<", ">", "="]

/-- The length of the operator that a text begins with. -/
def operatorLength? (cs : List Char) : Option Nat :=
  (operators.find? fun op => op.toList.isPrefixOf cs).map fun op => op.toList.length

/-- The separators. -/
def isSeparator (c : Char) : Bool :=
  "()\x7b\x7d[];,.".toList.contains c

/-! ## Literals -/

/-- The characters that a backslash may stand before, besides octal digits. -/
def isEscape (c : Char) : Bool :=
  "btnfru\"\x27\\".toList.contains c || ('0' ≤ c && c ≤ '7')

/-- The length of the rest of a literal up to and including its closing quote, where it is known
whether a backslash has just been read. -/
def quotedLength? (quote : Char) : Bool → List Char → Option Nat
  | _, [] => none
  | true, c :: cs => if isEscape c then (quotedLength? quote false cs).map (· + 1) else none
  | false, c :: cs =>
    if c = quote then some 1 else (quotedLength? quote (c == '\\') cs).map (· + 1)

/-- The number of digits that a text begins with, with underscores between them and a letter for
long numbers behind them; so many underscores have been read since the last digit. -/
def digitsLength (isDigit : Char → Bool) : Nat → List Char → Nat
  | _, [] => 0
  | pending, c :: cs =>
    if isDigit c then pending + 1 + digitsLength isDigit 0 cs
    else if c = '_' then digitsLength isDigit (pending + 1) cs
    else if c = 'l' ∨ c = 'L' then 1
    else 0

/-- The length of the decimal digits that a text begins with. -/
def decimalLength (cs : List Char) : Nat :=
  digitsLength Char.isDigit 0 cs

/-- Whether a character is a hexadecimal digit. -/
def isHexDigit (c : Char) : Bool :=
  c.isDigit || ('a' ≤ c && c ≤ 'f') || ('A' ≤ c && c ≤ 'F')

/-- The length of one of the given characters at the front of a text. -/
def oneLength (accepted : String) (cs : List Char) : Nat :=
  if cs.head?.any accepted.toList.contains then 1 else 0

/-- The length of the exponent, its sign included, after the letter that begins it. -/
def exponentLength (cs : List Char) : Nat :=
  let sign := oneLength "-+" cs
  sign + decimalLength (cs.drop sign)

/-- The length of a decimal number. -/
def decimalNumberLength (cs : List Char) : Nat :=
  let whole := decimalLength cs
  let afterWhole := cs.drop whole
  let fraction :=
    if afterWhole.head? = some '.' then 1 + decimalLength (afterWhole.drop 1) else 0
  let afterFraction := afterWhole.drop fraction
  let mark := oneLength "eE" afterFraction
  let exponent := if mark = 0 then 0 else 1 + exponentLength (afterFraction.drop 1)
  whole + fraction + exponent + oneLength "fFdD" (afterFraction.drop exponent)

/-- The length of a hexadecimal number, if it is well formed: one with a point needs an exponent. -/
def hexNumberLength? (cs : List Char) : Option Nat :=
  let whole := 2 + digitsLength isHexDigit 0 (cs.drop 2)
  let afterWhole := cs.drop whole
  if !afterWhole.head?.any ".pP".toList.contains then some whole
  else
    let fraction :=
      if afterWhole.head? = some '.' then 1 + digitsLength isHexDigit 0 (afterWhole.drop 1) else 0
    let afterFraction := afterWhole.drop fraction
    if oneLength "pP" afterFraction = 0 then none
    else
      let exponent := 1 + exponentLength (afterFraction.drop 1)
      some (whole + fraction + exponent + oneLength "fFdD" (afterFraction.drop exponent))

/-- The length of the number that a text begins with, if it is well formed. -/
def numberLength? (cs : List Char) : Option Nat :=
  match cs with
  | '0' :: c :: rest =>
    if c = 'x' ∨ c = 'X' then hexNumberLength? cs
    else if c = 'b' ∨ c = 'B' then
      some (2 + digitsLength (fun c => c == '0' || c == '1') 0 rest)
    else if '0' ≤ c ∧ c ≤ '7' then
      some (1 + digitsLength (fun c => '0' ≤ c && c ≤ '7') 0 (c :: rest))
    else some (decimalNumberLength cs)
  | cs => some (decimalNumberLength cs)

/-! ## From characters to tokens -/

/-- What stands at the front of a text: blank space or a comment of some length, or a token. -/
inductive Front where
  | skipped (length : Nat)
  | token (kind : TokenKind) (length : Nat)
  deriving DecidableEq, Repr

/-- A token of the given length, a fault if there is none. -/
def Front.ofLength? (kind : TokenKind) : Option Nat → Front
  | some n => .token kind n
  | none => .token .fault 1

/-- What a text that begins with the given character begins with. -/
def front (c : Char) (rest : List Char) : Front :=
  let cs := c :: rest
  if isSpace c then .skipped 1
  else if ['/', '/'].isPrefixOf cs then .skipped (cs.takeWhile (· != '\n')).length
  else if ['/', '*'].isPrefixOf cs then
    match throughFirst? ['*', '/'] (cs.drop 2) with
    | some n => .skipped (n + 2)
    | none => .token .fault 1
  else if ['.', '.', '.'].isPrefixOf cs then .token .operator 3
  else if c = '@' then .token .atSign 1
  else if c = '.' ∧ rest.head?.any isDigit then .token .literal (decimalNumberLength cs)
  else if isSeparator c then .token .separator 1
  else if c = '"' ∨ c = '\x27' then
    .ofLength? .literal ((quotedLength? c false rest).map (· + 1))
  else if c.isDigit then .ofLength? .literal (numberLength? cs)
  else if beginsIdentifier c then
    let word := c :: rest.takeWhile continuesIdentifier
    .token (wordKind (String.ofList word)) word.length
  else .ofLength? .operator (operatorLength? cs)

/-- The tokens of a text, at most the given number of pieces being read. -/
def tokensWithin : Nat → List Char → List Token
  | 0, _ => []
  | _, [] => []
  | fuel + 1, c :: rest =>
    match front c rest with
    | .skipped n => tokensWithin fuel ((c :: rest).drop n)
    | .token .fault _ => [⟨.fault, ""⟩]
    | .token kind n =>
      ⟨kind, String.ofList ((c :: rest).take n)⟩ :: tokensWithin fuel ((c :: rest).drop n)

/-! ## Unicode escapes -/

/-- The value of a hexadecimal digit. -/
def hexValue? (c : Char) : Option Nat :=
  if c.isDigit then some (c.toNat - '0'.toNat)
  else if 'a' ≤ c ∧ c ≤ 'f' then some (c.toNat - 'a'.toNat + 10)
  else if 'A' ≤ c ∧ c ≤ 'F' then some (c.toNat - 'A'.toNat + 10)
  else none

/-- The character that hexadecimal digits denote; what is no character is replaced by the mark for
one that cannot be shown. -/
def hexChar? (digits : List Char) : Option Char :=
  if digits = [] then none
  else do
    let values ← digits.mapM hexValue?
    let n := values.foldl (fun n v => 16 * n + v) 0
    return if n.isValidChar then Char.ofNat n else '\ufffd'

/-- What has been read of an escape. -/
inductive EscapeState where
  | none
  /-- A backslash. -/
  | backslash
  /-- A backslash and the letter u, once or more. -/
  | marked
  deriving DecidableEq, Repr

/-- A text with its Unicode escapes replaced, `none` if one is malformed; the text since the last
escape and the text since the backslash, both last character first, are given.  A text that ends
inside an escape repeats what stands before it. -/
def replaceEscapesWithin :
    Nat → EscapeState → List Char → List Char → List Char → Option (List Char)
  | 0, _, _, _, _ => some []
  | _, .marked, plain, escape, [] => some (plain.reverse ++ plain.reverse ++ escape.reverse)
  | _, _, plain, escape, [] => some (plain.reverse ++ escape.reverse)
  | fuel + 1, .none, plain, _, c :: cs =>
    if c = '\\' then replaceEscapesWithin fuel .backslash plain [c] cs
    else replaceEscapesWithin fuel .none (c :: plain) [] cs
  | fuel + 1, .backslash, plain, escape, c :: cs =>
    if c = 'u' then replaceEscapesWithin fuel .marked plain (c :: escape) cs
    else replaceEscapesWithin fuel .none (c :: escape ++ plain) [] cs
  | fuel + 1, .marked, plain, escape, c :: cs =>
    if c = 'u' then replaceEscapesWithin fuel .marked plain (c :: escape) cs
    else do
      let d ← hexChar? ((c :: cs).take 4)
      let rest ← replaceEscapesWithin fuel .none [] [] ((c :: cs).drop 4)
      return plain.reverse ++ d :: rest

/-- A text with its Unicode escapes replaced, `none` if one is malformed. -/
def replaceEscapes (cs : List Char) : Option (List Char) :=
  replaceEscapesWithin (cs.length + 1) .none [] [] cs

/-- The tokens of Java source; a malformed escape is a fault in front of all tokens. -/
def tokenize (source : String) : List Token :=
  match replaceEscapes source.toList with
  | some cs => tokensWithin cs.length cs
  | none => [⟨.fault, ""⟩]

end EntityMapper.Java
