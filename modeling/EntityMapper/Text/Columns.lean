import EntityMapper.Text.Width

/-!
# Columns of a console

How many columns a text takes.  A character takes none, one or two; a joiner swallows the character
after it, and the emoji selector widens the character before it.  Texts are cut between clusters,
which are characters with what joins them.
-/

namespace EntityMapper.Text

/-- The character that joins the character after it to those before. -/
def joiner : Char := '\u200d'

/-- The character that asks for the emoji form of the character before it. -/
def emojiSelector : Char := '\ufe0f'

/-- The number of columns that a character takes by itself. -/
def width (c : Char) : Nat :=
  if c.toNat < 128 then if c.toNat < 32 || c.toNat == 127 then 0 else 1
  else if Width.zero.has c.toNat then 0
  else if Width.double.has c.toNat then 2
  else 1

/-- The columns by which the emoji selector widens a character, if there is one. -/
def widening : Option Char → Nat
  | none => 0
  | some c => if c.isDigit || c == '#' || c == '*' || Width.doubleAsEmoji.has c.toNat then 1 else 0

/-- The number of columns that a text takes, where it is known whether its first character is
swallowed and which character last took any columns. -/
def columnsAfter (joined : Bool) (last : Option Char) : List Char → Nat
  | [] => 0
  | c :: cs =>
    if joined then columnsAfter false last cs
    else if c = joiner then columnsAfter true last cs
    else if c = emojiSelector then widening last + columnsAfter false none cs
    else width c + columnsAfter false (if width c = 0 then last else some c) cs

/-- The number of columns that a text takes. -/
def columns (cs : List Char) : Nat :=
  columnsAfter false none cs

/-! ## Clusters -/

/-- Characters that stand together, and the number of columns that they take. -/
structure Cluster where
  text : List Char
  width : Nat
  deriving DecidableEq, Repr

/-- Clusters, the last one first, of which the last gets one more character and so many columns. -/
def extendLast (c : Char) (columns : Nat) : List Cluster → List Cluster
  | [] => [⟨[c], columns⟩]
  | last :: before => ⟨last.text ++ [c], last.width + columns⟩ :: before

/-- The clusters of a text after others, which are given with the last one first; of what is before
it is known whether it swallows a character and which character last took any columns. -/
def clustersAfter (joined : Bool) (last : Option Char) (before : List Cluster) :
    List Char → List Cluster
  | [] => before.reverse
  | c :: cs =>
    if joined then clustersAfter false last (extendLast c 0 before) cs
    else if c = joiner then clustersAfter (!before.isEmpty) last (extendLast c 0 before) cs
    else if c = emojiSelector then
      clustersAfter false none (extendLast c (widening last) before) cs
    else if width c = 0 then clustersAfter false last (extendLast c 0 before) cs
    else clustersAfter false (some c) (⟨[c], width c⟩ :: before) cs

/-- The clusters of a text. -/
def clusters (cs : List Char) : List Cluster :=
  clustersAfter false none [] cs

/-! ## Cutting -/

/-- The lines that clusters fill, no line being longer than a limit unless one cluster is; the line
so far and its columns are given. -/
def fill (limit : Nat) (line : List Char) (columns : Nat) : List Cluster → List (List Char)
  | [] => [line]
  | c :: cs =>
    if columns + c.width > limit then line :: fill limit c.text c.width cs
    else fill limit (line ++ c.text) (columns + c.width) cs

/-- A text cut into lines of so many columns. -/
def chop (limit : Nat) (cs : List Char) : List (List Char) :=
  fill limit [] 0 (clusters cs)

/-- Clusters as far as so many columns reach; a cluster that they cut through leaves a blank. -/
def takeColumns : Nat → List Cluster → List Char
  | _, [] => []
  | limit, c :: cs =>
    if c.width ≤ limit then c.text ++ takeColumns (limit - c.width) cs
    else if limit = 0 then [] else [' ']

/-- A text, cut if it takes more columns than a limit. -/
def cutTo (limit : Nat) (cs : List Char) : List Char :=
  if columns cs ≤ limit then cs else takeColumns limit (clusters cs)

end EntityMapper.Text
