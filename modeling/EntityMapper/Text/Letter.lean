import EntityMapper.Text.CaseMapping
import EntityMapper.Text.Property

/-!
# Character classes and letter case

The classes that the readers of SQL, of names and of Java source ask about, on every character, and
the full upper-case and lower-case forms of a text.  On ASCII each class and each mapping is the
familiar one, which the lemmas record; elsewhere the property tables decide.
-/

namespace EntityMapper.Text

/-- Letters and characters with a numeric value. -/
def isAlphanumeric (c : Char) : Bool :=
  c.isAlphanum || Property.alphanumeric.has c.toNat

/-- Characters that words are made of: alphanumeric characters and the underscore. -/
def isWord (c : Char) : Bool :=
  c == '_' || isAlphanumeric c

/-- Upper-case letters. -/
def isUpper (c : Char) : Bool :=
  c.isUpper || Property.uppercase.has c.toNat

/-- Lower-case letters. -/
def isLower (c : Char) : Bool :=
  c.isLower || Property.lowercase.has c.toNat

/-- Characters that stand for one digit, superscripts and the like included. -/
def isDigit (c : Char) : Bool :=
  c.isDigit || Property.digit.has c.toNat

/-- Digits of positional number systems. -/
def isDecimal (c : Char) : Bool :=
  c.isDigit || Property.decimal.has c.toNat

/-- White space: the blank, the controls from tab to carriage return, the four information
separators, and the blanks beyond ASCII. -/
def isSpace (c : Char) : Bool :=
  c == ' ' || (9 ≤ c.toNat && c.toNat ≤ 13) || (28 ≤ c.toNat && c.toNat ≤ 31) ||
    Property.space.has c.toNat

/-- Characters that can be shown as they are. -/
def isPrintable (c : Char) : Bool :=
  (32 ≤ c.toNat && c.toNat < 127) || Property.printable.has c.toNat

/-- Skipping stops neither before nor after a sigma at these characters. -/
def isCaseIgnorable (c : Char) : Bool :=
  c == '\x27' || c == '.' || c == ':' || c == '^' || c == '\x60' ||
    Property.caseIgnorable.has c.toNat

/-- Letters that have case and are not skipped around a sigma. -/
def isCased (c : Char) : Bool :=
  c.isAlpha || Property.cased.has c.toNat

/-! ## Upper case -/

/-- The upper-case form of a character, one character or more. -/
def upperChar (c : Char) : List Char :=
  if c.toNat < 128 then [c.toUpper]
  else
    match CaseMapping.toUpperLong.lookup c.toNat with
    | some long => long.map Char.ofNat
    | none => [(CaseRun.image? CaseMapping.toUpper c.toNat).getD c]

/-- The upper-case form of a text, character by character. -/
def upper (cs : List Char) : List Char :=
  cs.flatMap upperChar

theorem upper_nil : upper [] = [] := rfl

theorem upper_cons (c : Char) (cs : List Char) : upper (c :: cs) = upperChar c ++ upper cs := rfl

theorem upper_append (xs ys : List Char) : upper (xs ++ ys) = upper xs ++ upper ys := by
  simp [upper]

theorem upperChar_of_ascii {c : Char} (h : c.toNat < 128) : upperChar c = [c.toUpper] := by
  simp [upperChar, h]

/-! ## Lower case -/

/-- The lower-case form of a character other than the capital sigma, one character or two. -/
def lowerChar (c : Char) : List Char :=
  if c.toNat < 128 then [c.toLower]
  else if c = 'İ' then ['i', '\u0307']
  else [(CaseRun.image? CaseMapping.toLower c.toNat).getD c]

/-- The lower-case form of a character as one character: two texts are the same but for case if
these forms are. -/
def lowerHead (c : Char) : Char :=
  (lowerChar c).headD c

/-- Whether the first character that is not skipped is a cased letter. -/
def facesLetter (cs : List Char) : Bool :=
  match cs.dropWhile isCaseIgnorable with
  | [] => false
  | c :: _ => isCased c

/-- The lower-case form of a text whose preceding characters, nearest first, are given: a capital
sigma after a letter and before none takes its final form. -/
def lowerAfter : List Char → List Char → List Char
  | _, [] => []
  | before, c :: cs =>
    (if c = 'Σ' then
        if facesLetter before && !facesLetter cs then ['ς'] else ['σ']
      else lowerChar c) ++ lowerAfter (c :: before) cs

/-- The lower-case form of a text. -/
def lower (cs : List Char) : List Char :=
  lowerAfter [] cs

theorem lowerChar_of_ascii {c : Char} (h : c.toNat < 128) : lowerChar c = [c.toLower] := by
  simp [lowerChar, h]

end EntityMapper.Text
