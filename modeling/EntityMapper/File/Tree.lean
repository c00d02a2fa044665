import EntityMapper.File.Path
import EntityMapper.Text.Cutting
import EntityMapper.Text.Utf8

/-!
# File trees

Files and directories, each named by the list of names that leads to it from the root, and the
working directory, which paths without a root start from.  A path is followed through the tree, so
that two dots step back out of directories that exist.  Names and paths have a limited length.
-/

namespace EntityMapper.File

/-- Names that lead from the root to a file or directory. -/
abbrev Place := List String

/-- The files, with their bytes, the directories, and the working directory. -/
structure Tree where
  files : List (Place × List UInt8) := []
  directories : List Place := []
  home : Place := []
  deriving DecidableEq, Repr

/-- Why something cannot be looked up or written. -/
inductive AccessError where
  /-- A directory on the way does not exist. -/
  | notFound
  /-- A file stands where a directory is wanted. -/
  | exists_
  /-- A file stands on the way. -/
  | notADirectory
  /-- A directory stands where a file is wanted. -/
  | isADirectory
  /-- A name or a path is too long. -/
  | nameTooLong
  /-- A name holds a null character. -/
  | nullCharacter
  deriving DecidableEq, Repr

/-- Checks the length of a name: at most 255 bytes. -/
def checkName (name : String) : Except AccessError Unit :=
  if name.utf8ByteSize > 255 then .error .nameTooLong else .ok ()

/-- Checks the length of a path: at most 4095 bytes. -/
def Path.checkLength (p : Path) : Except AccessError Unit :=
  if p.toString.utf8ByteSize > 4095 then .error .nameTooLong else .ok ()

/-- Whether a path holds a null character, which no file can be named by. -/
def Path.hasNull (p : Path) : Bool :=
  p.names.any fun name => name.toList.contains '\x00'

namespace Tree

/-- The bytes of the file at a place. -/
def bytes? (t : Tree) (place : Place) : Option (List UInt8) :=
  t.files.lookup place

/-- Whether there is a file at a place. -/
def isFileAt (t : Tree) (place : Place) : Bool :=
  (t.bytes? place).isSome

/-- Whether there is a directory at a place; the working directory is one, and so are those that
lead to it. -/
def isDirectoryAt (t : Tree) (place : Place) : Bool :=
  place.isPrefixOf t.home || t.directories.contains place

/-- The place that names lead to from a place, if each of them is looked up in a directory; the last
one need not exist. -/
def follow (t : Tree) (place : Place) : List String → Except AccessError (Option Place)
  | [] => .ok (some place)
  | name :: names => do
    if !t.isDirectoryAt place then return none
    else if name = ".." then t.follow place.dropLast names
    else
      checkName name
      t.follow (place ++ [name]) names

/-- The place that a path starts from. -/
def start (t : Tree) (p : Path) : Place :=
  if p.root = .here then t.home else []

/-- The place that a path leads to, if each of its steps can be taken. -/
def find (t : Tree) (p : Path) : Except AccessError (Option Place) := do
  if p.hasNull then return none
  p.checkLength
  t.follow (t.start p) p.names

/-- Whether a path leads to a file. -/
def isFile (t : Tree) (p : Path) : Except AccessError Bool := do
  return (← t.find p).any t.isFileAt

/-- Whether a path leads to a directory. -/
def isDirectory (t : Tree) (p : Path) : Except AccessError Bool := do
  return (← t.find p).any t.isDirectoryAt

/-- Whether a path leads to anything. -/
def exists_ (t : Tree) (p : Path) : Except AccessError Bool := do
  return (← t.find p).any fun place => t.isFileAt place || t.isDirectoryAt place

/-- The text of the file at a place, with malformed bytes dropped and line ends normalised; empty if
there is none. -/
def textAt (t : Tree) (place : Place) : String :=
  String.ofList (Text.normalizeLines (Text.decodeUtf8 ((t.bytes? place).getD [])))

/-- The files below a place, each by the names that lead there from it. -/
def below (t : Tree) (place : Place) : List Place :=
  t.files.filterMap fun (file, _) =>
    if place.isPrefixOf file ∧ place ≠ file then some (file.drop place.length) else none

/-! ## Changing a tree -/

/-- Puts bytes at a place, in place of those that are there. -/
def putFiles (place : Place) (bytes : List UInt8) :
    List (Place × List UInt8) → List (Place × List UInt8)
  | [] => [(place, bytes)]
  | (other, old) :: files =>
    if other = place then (place, bytes) :: files else (other, old) :: putFiles place bytes files

/-- The tree with bytes at a place. -/
def put (t : Tree) (place : Place) (bytes : List UInt8) : Tree :=
  { t with files := putFiles place bytes t.files }

/-- The tree without the file at a place. -/
def remove (t : Tree) (place : Place) : Tree :=
  { t with files := t.files.filter (·.1 ≠ place) }

/-- The tree with a directory at a place. -/
def addDirectory (t : Tree) (place : Place) : Tree :=
  if t.isDirectoryAt place then t else { t with directories := t.directories ++ [place] }

/-- The tree with the directories that lead to a place, and one at the place itself. -/
def addDirectories (t : Tree) (place : Place) : Tree :=
  ((List.range place.length).map fun n => place.take (n + 1)).foldl addDirectory t

/-- The tree with a file at a place and the directories that lead to it. -/
def putWithin (t : Tree) (place : Place) (bytes : List UInt8) : Tree :=
  (t.addDirectories place.dropLast).put place bytes

/-- The tree of the given files and directories, which are named from the working directory. -/
def ofLists (home : Place) (files : List (List String × List UInt8))
    (directories : List (List String)) : Tree :=
  let t := directories.foldl (fun t names => t.addDirectories (home ++ names)) { home := home }
  files.foldl (fun t (names, bytes) => t.putWithin (home ++ names) bytes) t

/-- The tree with the directories that names lead to from a place, made where they are missing, or
the directories made before the first that cannot be. -/
def makeFrom (t : Tree) (place : Place) : List String → Tree × Option AccessError
  | [] => (t, none)
  | name :: names =>
    if name = ".." then t.makeFrom place.dropLast names
    else
      let place := place ++ [name]
      if t.isFileAt place then (t, some (if names = [] then .exists_ else .notADirectory))
      else
        match checkName name with
        | .error e => (t, some e)
        | .ok () => (t.addDirectory place).makeFrom place names

/-- The tree with the directory that a path leads to, and those on the way, or the reason why it
cannot be made. -/
def makeDirectory (t : Tree) (p : Path) : Tree × Option AccessError :=
  if p.hasNull then (t, some .nullCharacter)
  else
    match p.checkLength with
    | .error e => (t, some e)
    | .ok () => t.makeFrom (t.start p) p.names

/-- Why names do not lead from a place through directories, if they do not. -/
def obstacle? (t : Tree) (place : Place) : List String → Option AccessError
  | [] => none
  | name :: names =>
    let place := if name = ".." then place.dropLast else place ++ [name]
    if t.isDirectoryAt place then t.obstacle? place names
    else if t.isFileAt place then some .notADirectory
    else some .notFound

/-- The tree with a text in the file that a path leads to. -/
def write (t : Tree) (p : Path) (text : String) : Except AccessError Tree := do
  if p.hasNull then throw .nullCharacter
  p.checkLength
  if let some e := t.obstacle? (t.start p) p.names.dropLast then throw e
  match ← t.follow (t.start p) p.names with
  | none => throw .notFound
  | some place =>
    if t.isDirectoryAt place then throw .isADirectory
    return t.put place (Text.encodeUtf8 text)

/-- The files of a tree that another tree does not hold with the same bytes. -/
def changesSince (t before : Tree) : List (Place × List UInt8) :=
  t.files.filter fun (place, bytes) => before.bytes? place != some bytes

/-- The names that lead to a place from the working directory, if it is below that. -/
def fromHome? (t : Tree) (place : Place) : Option (List String) :=
  if t.home.isPrefixOf place then some (place.drop t.home.length) else none

end Tree

end EntityMapper.File
