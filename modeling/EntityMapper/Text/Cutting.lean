import EntityMapper.Text.Letter

/-!
# Cutting text

Trimming white space, cutting a text into pieces or at separators, finding a text inside another,
and normalising line ends.
-/

namespace EntityMapper.Text

/-- A text without the white space at its end. -/
def stripEnd (cs : List Char) : List Char :=
  (cs.reverse.dropWhile isSpace).reverse

/-- A text without the white space at its ends. -/
def strip (cs : List Char) : List Char :=
  stripEnd (cs.dropWhile isSpace)

/-- The non-empty pieces of a text between separating characters, each with the index of its first
character; the text starts at the given index and continues the piece whose characters, last first,
are given. -/
def piecesFrom (separates : Char → Bool) (index : Nat) (piece : List Char) :
    List Char → List (Nat × List Char)
  | [] => if piece = [] then [] else [(index - piece.length, piece.reverse)]
  | c :: cs =>
    if separates c then
      (if piece = [] then [] else [(index - piece.length, piece.reverse)]) ++
        piecesFrom separates (index + 1) [] cs
    else piecesFrom separates (index + 1) (c :: piece) cs

/-- The non-empty pieces of a text between separating characters. -/
def pieces (separates : Char → Bool) (cs : List Char) : List (List Char) :=
  (piecesFrom separates 0 [] cs).map (·.2)

/-- The parts of a text between separators, of which the first part's characters so far are given,
last first. -/
def splitAfter (separator : Char) (part : List Char) : List Char → List (List Char)
  | [] => [part.reverse]
  | c :: cs =>
    if c = separator then part.reverse :: splitAfter separator [] cs
    else splitAfter separator (c :: part) cs

/-- The parts of a text between separators, empty ones included. -/
def split (separator : Char) (cs : List Char) : List (List Char) :=
  splitAfter separator [] cs

theorem splitAfter_ne_nil (separator : Char) (part cs : List Char) :
    splitAfter separator part cs ≠ [] := by
  induction cs generalizing part with
  | nil => simp [splitAfter]
  | cons c cs ih =>
    rw [splitAfter]
    split
    · simp
    · exact ih _

/-- The parts put together again with the separator between them are the text. -/
theorem intercalate_split (separator : Char) (cs : List Char) :
    [separator].intercalate (split separator cs) = cs := by
  suffices h : ∀ part, [separator].intercalate (splitAfter separator part cs) =
      part.reverse ++ cs from h []
  induction cs with
  | nil => intro part; simp [splitAfter, List.intercalate]
  | cons c cs ih =>
    intro part
    rw [splitAfter]
    split
    · rename_i same
      obtain ⟨next, parts, parts_eq⟩ :=
        List.exists_cons_of_ne_nil (splitAfter_ne_nil separator [] cs)
      have rest := ih []
      rw [parts_eq] at rest ⊢
      simp only [List.intercalate, List.reverse_nil, List.nil_append] at rest
      simp [List.intercalate, List.intersperse, rest, same]
    · simp [ih]

/-- A text in which every line ends with a line feed alone. -/
def normalizeLines : List Char → List Char
  | [] => []
  | '\r' :: '\n' :: cs => '\n' :: normalizeLines cs
  | '\r' :: cs => '\n' :: normalizeLines cs
  | c :: cs => c :: normalizeLines cs

/-- The number of characters up to and including the first occurrence of a text. -/
def throughFirst? (sought : List Char) : List Char → Option Nat
  | [] => if sought = [] then some 0 else none
  | c :: cs =>
    if sought.isPrefixOf (c :: cs) then some sought.length
    else (throughFirst? sought cs).map (· + 1)

/-- Whether a text occurs inside another. -/
def occurs (sought cs : List Char) : Bool :=
  (throughFirst? sought cs).isSome

end EntityMapper.Text
