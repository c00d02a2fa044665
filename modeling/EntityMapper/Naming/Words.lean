import EntityMapper.Text.Cutting

/-!
# The words of a name

A name is cut into words at every character that is neither letter nor numeral, and each chunk
between such characters again where a capital begins a new word: after a lower-case letter or a
digit, or at the last capital of a row of capitals when a lower-case letter follows.
-/

namespace EntityMapper.Naming

open Text

/-- Whether a new word begins at a character, given its neighbours. -/
def beginsWord (previous c : Char) (next : Option Char) : Bool :=
  isUpper c && (isLower previous || isDigit previous || (isUpper previous && next.any isLower))

/-- The words of the rest of a chunk, of which the current word's characters are given, last
first. -/
def wordsAfter : List Char → List Char → List (List Char)
  | [], [] => []
  | word, [] => [word.reverse]
  | [], c :: cs => wordsAfter [c] cs
  | previous :: word, c :: cs =>
    if beginsWord previous c cs.head? then (previous :: word).reverse :: wordsAfter [c] cs
    else wordsAfter (c :: previous :: word) cs

/-- The words of a chunk without separators. -/
def camelWords (chunk : List Char) : List (List Char) :=
  wordsAfter [] chunk

/-- Whether a character separates words. -/
def isSeparator (c : Char) : Bool :=
  !isAlphanumeric c

/-- The words of a name. -/
def words (name : List Char) : List (List Char) :=
  (pieces isSeparator name).flatMap camelWords

end EntityMapper.Naming
