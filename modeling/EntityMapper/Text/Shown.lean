import EntityMapper.Text.Letter

/-!
# Text as messages show it

A text in single quotes, or in double quotes if it holds single quotes and no double ones, with
backslashes, the quote and everything that cannot be shown written as escapes.
-/

namespace EntityMapper.Text

/-- A number in lower-case hexadecimal digits, with zeros in front up to the given width. -/
def hex (width n : Nat) : List Char :=
  let digits := Nat.toDigits 16 n
  List.replicate (width - digits.length) '0' ++ digits

/-- A character between the given quotes. -/
def shownChar (quote c : Char) : List Char :=
  if c = quote ∨ c = '\\' then ['\\', c]
  else if c = '\n' then ['\\', 'n']
  else if c = '\r' then ['\\', 'r']
  else if c = '\t' then ['\\', 't']
  else if isPrintable c then [c]
  else if c.toNat < 0x100 then '\\' :: 'x' :: hex 2 c.toNat
  else if c.toNat < 0x10000 then '\\' :: 'u' :: hex 4 c.toNat
  else '\\' :: 'U' :: hex 8 c.toNat

/-- A text in quotes. -/
def shown (s : String) : String :=
  let cs := s.toList
  let quote := if '\x27' ∈ cs ∧ '"' ∉ cs then '"' else '\x27'
  String.ofList (quote :: cs.flatMap (shownChar quote) ++ [quote])

/-- A list of texts in quotes, between brackets and separated by commas. -/
def shownList (items : List String) : String :=
  "[" ++ ", ".intercalate (items.map shown) ++ "]"

end EntityMapper.Text
