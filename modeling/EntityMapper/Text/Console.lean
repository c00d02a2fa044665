import EntityMapper.Text.Columns
import EntityMapper.Text.Cutting

/-!
# Text on a console

What a console shows of a text: some control characters are dropped, tabs are filled with blanks up
to the next eighth column, and where lines are wrapped, they break between words, and within words
that are longer than a line.
-/

namespace EntityMapper.Text

/-- The control characters that are not shown: bell, backspace, vertical tab, form feed and
carriage return. -/
def isUnshown (c : Char) : Bool :=
  c == '\x07' || c == '\x08' || c == '\x0b' || c == '\x0c' || c == '\r'

/-- The parts of a line between tabs with the tabs filled, from a column on. -/
def fillTabs (column : Nat) : List (List Char) → List Char
  | [] => []
  | [part] => part
  | part :: parts =>
    let column := column + columns (part ++ [' '])
    let blanks := (8 - column % 8) % 8
    part ++ ' ' :: List.replicate blanks ' ' ++ fillTabs (column + blanks) parts

/-- The lines of a text as a console shows them. -/
def consoleLines (cs : List Char) : List (List Char) :=
  (split '\n' (cs.filter (!isUnshown ·))).map fun line => fillTabs 0 (split '\t' line)

/-- A text of the given lines. -/
def ofLines (lines : List (List Char)) : String :=
  "\n".intercalate (lines.map String.ofList)

/-- A text as a console shows it. -/
def onConsole (s : String) : String :=
  ofLines (consoleLines s.toList)

/-! ## Wrapping -/

/-- The words of a text, at most so many, each with the white space after it and the first with that
before it as well. -/
def wordsWithin : Nat → List Char → List (List Char)
  | 0, _ => []
  | fuel + 1, cs =>
    let blank := cs.takeWhile isSpace
    let rest := cs.drop blank.length
    let word := rest.takeWhile (!isSpace ·)
    if word = [] then []
    else
      let rest := rest.drop word.length
      let after := rest.takeWhile isSpace
      (blank ++ word ++ after) :: wordsWithin fuel (rest.drop after.length)

/-- The indices at which lines begin, from a first index on. -/
def lineStarts (start : Nat) : List (List Char) → List Nat
  | [] => []
  | line :: lines => start :: lineStarts (start + line.length) lines

/-- The indices at which words are broken so that lines take at most so many columns, where the
column and the index of the next word are given.  A word that is longer than a line begins a line
and is cut. -/
def breaks (limit column start : Nat) : List (List Char) → List Nat
  | [] => []
  | word :: words =>
    let next := start + word.length
    let length := columns (stripEnd word)
    if column + length ≤ limit then breaks limit (column + columns word) next words
    else if length > limit then
      let lines := chop limit word
      (lineStarts start lines).filter (· ≠ 0) ++
        breaks limit (columns (lines.getLast?.getD [])) next words
    else if column ≠ 0 ∧ start ≠ 0 then start :: breaks limit (columns word) next words
    else breaks limit column next words

/-- A text cut at indices that are given in order; the text begins at the first index. -/
def cutAt (start : Nat) : List Nat → List Char → List (List Char)
  | [], cs => [cs]
  | index :: indices, cs =>
    cs.take (index - start) :: cutAt index indices (cs.drop (index - start))

/-- A line without white space at its end, as far as it has more characters than a limit. -/
def dropExcess (limit : Nat) (line : List Char) : List Char :=
  line.take (max (stripEnd line).length (min line.length limit))

/-- The lines into which a line is wrapped. -/
def wrap (limit : Nat) (line : List Char) : List (List Char) :=
  (cutAt 0 (breaks limit 0 0 (wordsWithin line.length line)) line).map fun line =>
    cutTo limit (dropExcess limit line)

/-- A text as a console shows it that wraps lines at eighty columns. -/
def wrapped (s : String) : String :=
  ofLines ((consoleLines s.toList).flatMap (wrap 80))

end EntityMapper.Text
