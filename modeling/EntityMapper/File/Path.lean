import EntityMapper.Text.Cutting

/-!
# Paths

Paths as lists of names behind an optional root.  Empty names and single dots are left out when a
path is read, so spellings of one path coincide; two dots are kept.
-/

namespace EntityMapper.File

/-- What a path starts from. -/
inductive Root where
  | here
  | slash
  | twoSlashes
  deriving DecidableEq, Repr

/-- The root as it is written. -/
def Root.text : Root → String
  | .here => ""
  | .slash => "/"
  | .twoSlashes => "//"

/-- A path: a root and the names from there. -/
structure Path where
  root : Root := .here
  names : List String := []
  deriving DecidableEq, Repr

namespace Path

/-- Reads a path. -/
def ofString (s : String) : Path :=
  let cs := s.toList
  let root := match (cs.takeWhile (· == '/')).length with
    | 0 => Root.here
    | 2 => .twoSlashes
    | _ => .slash
  ⟨root, ((Text.split '/' cs).map String.ofList).filter fun name => name != "" && name != "."⟩

/-- The path as it is written, a dot for the empty path. -/
def toString (p : Path) : String :=
  let text := p.root.text ++ "/".intercalate p.names
  if text = "" then "." else text

/-- A path as seen from another; one with a root of its own stands alone. -/
def join (base p : Path) : Path :=
  if p.root = .here then ⟨base.root, base.names ++ p.names⟩ else p

/-- The last name, empty if there is none. -/
def name (p : Path) : String :=
  p.names.getLast?.getD ""

/-- The part of a name from its last dot, if that dot neither begins nor ends the name. -/
def suffixOf (name : List Char) : List Char :=
  let stem := (name.reverse.dropWhile (· != '.')).drop 1
  let ending := (name.reverse.takeWhile (· != '.')).reverse
  if stem = [] ∨ ending = [] then [] else '.' :: ending

/-- The suffix of the path's name. -/
def suffix (p : Path) : String :=
  String.ofList (suffixOf p.name.toList)

/-- The suffix in lower case. -/
def lowerSuffix (p : Path) : String :=
  String.ofList (Text.lower p.suffix.toList)

/-- The path as a list of parts, the root being the first if there is one. -/
def parts (p : Path) : List String :=
  if p.root = .here then p.names else p.root.text :: p.names

/-- Paths are ordered by their parts. -/
def le (p q : Path) : Bool :=
  decide (¬ q.parts < p.parts)

end Path

end EntityMapper.File
