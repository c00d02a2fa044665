import EntityMapper.Text.Letter

/-!
# Comparing letters without case

Lexical rules and searches compare letters regardless of case.  Each character is folded to the
lower-case letter that it stands for; beyond the plain case partners the dotless i and the dotted
capital I count as i, the long s as s, and the Kelvin and Ångström signs as k and å.
-/

namespace EntityMapper.Text

/-- The lower-case letter that an ASCII or Latin-1 letter stands for when case is ignored. -/
def fold (c : Char) : Char :=
  if c.toNat < 128 then c.toLower
  else if ('À' ≤ c && c ≤ 'Ö') || ('Ø' ≤ c && c ≤ 'Þ') then Char.ofNat (c.toNat + 32)
  else if c = 'ı' || c = 'İ' then 'i'
  else if c = 'ſ' then 's'
  else if c = '\u212a' then 'k'
  else if c = '\u212b' then 'å'
  else c

theorem fold_of_ascii {c : Char} (h : c.toNat < 128) : fold c = c.toLower := by
  simp [fold, h]

/-- Whether two characters are the same letter when case is ignored. -/
def sameLetter (a b : Char) : Bool :=
  fold a == fold b

/-- Letters that names begin with: A to Z, and the Latin-1 letters from À to Ü with the
multiplication sign among them, in either case. -/
def isNameStart (c : Char) : Bool :=
  let letter := fold c
  ('a' ≤ letter && letter ≤ 'z') || ('à' ≤ letter && letter ≤ 'ö') ||
    ('ø' ≤ letter && letter ≤ 'ü') || letter == '×'

end EntityMapper.Text
