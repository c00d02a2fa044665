import EntityMapper.Text.Emoji
import EntityMapper.Text.Style

/-!
# Markup

Texts with tags in brackets.  A tag opens a style, and one that begins with a slash closes the style
that it names, or the one opened last if it names none.  A backslash in front of a tag makes it
plain text.  What is shown is the plain text, with emoji in the place of their names.
-/

namespace EntityMapper.Text

/-- A piece of a text with markup. -/
inductive Piece where
  | plain (text : List Char)
  /-- A tag without its brackets, and the index where it stands. -/
  | tag (text : List Char) (index : Nat)
  deriving DecidableEq, Repr

/-- Whether a tag can begin with a character. -/
def beginsTag (c : Char) : Bool :=
  c.isLower || c == '#' || c == '/' || c == '@'

/-- The tag that a text begins with, without its brackets, and the rest. -/
def tag? : List Char → Option (List Char × List Char)
  | '[' :: c :: cs =>
    let inside := cs.takeWhile fun d => d != '[' && d != ']'
    match cs.drop inside.length with
    | ']' :: rest => if beginsTag c then some (c :: inside, rest) else none
    | _ => none
  | _ => none

/-- The piece of plain text whose characters are given, the last one first. -/
def plainPiece (reversed : List Char) : List Piece :=
  if reversed = [] then [] else [.plain reversed.reverse]

/-- The pieces of a text, at most so many characters and tags being read, where the index of the
text and the plain text before it are given.  Backslashes in front of a tag stand for half as many,
and an odd one makes the tag plain text. -/
def piecesOfMarkup : Nat → Nat → List Char → List Char → List Piece
  | 0, _, plain, _ => plainPiece plain
  | _, _, plain, [] => plainPiece plain
  | fuel + 1, index, plain, c :: cs =>
    let slashes := (c :: cs).takeWhile (· == '\\')
    match tag? ((c :: cs).drop slashes.length) with
    | none => piecesOfMarkup fuel (index + 1) (c :: plain) cs
    | some (inside, rest) =>
      let shown := List.replicate (slashes.length / 2) '\\'
      let tag :=
        if slashes.length % 2 = 1 then .plain ('[' :: inside ++ [']'])
        else .tag inside (index + slashes.length)
      plainPiece plain ++ plainPiece shown ++
        tag :: piecesOfMarkup fuel (index + slashes.length + inside.length + 2) [] rest

/-- Plain text in which a backslash in front of a bracket is left out. -/
def unescapeBrackets : List Char → List Char
  | '\\' :: '[' :: cs => '[' :: unescapeBrackets cs
  | c :: cs => c :: unescapeBrackets cs
  | [] => []

/-- Why markup is malformed. -/
inductive MarkupError where
  /-- A closing tag names a style that is not open. -/
  | notOpen (tag : String) (index : Nat)
  /-- A closing tag stands where no style is open. -/
  | nothingOpen (index : Nat)
  deriving DecidableEq, Repr

/-- The wording of the reason. -/
def MarkupError.message : MarkupError → String
  | .notOpen tag index =>
    "closing tag '[" ++ tag ++ "]' at position " ++ toString index ++
      " doesn't match any open tag"
  | .nothingOpen index =>
    "closing tag '[/]' at position " ++ toString index ++ " has nothing to close"

/-- The text that pieces show, where the styles that are open are given, the last one first. -/
def showPieces (opened : List (List Char)) : List Piece → Except MarkupError (List Char)
  | [] => .ok []
  | .plain text :: pieces => do
    return withEmoji (unescapeBrackets text) ++ (← showPieces opened pieces)
  | .tag text index :: pieces =>
    match text.takeWhile (· != '=') with
    | '/' :: name =>
      match strip name, opened with
      | [], [] => .error (.nothingOpen index)
      | [], _ :: opened => showPieces opened pieces
      | name, opened =>
        if normalStyle name ∈ opened then showPieces (opened.erase (normalStyle name)) pieces
        else .error (.notOpen (String.ofList text) index)
    | name => showPieces (normalStyle name :: opened) pieces

/-- The text that markup shows. -/
def showMarkup (s : String) : Except MarkupError String :=
  let cs := s.toList
  (showPieces [] (piecesOfMarkup cs.length 0 [] cs)).map String.ofList

end EntityMapper.Text
