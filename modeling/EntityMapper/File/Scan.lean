import EntityMapper.File.Tree
import EntityMapper.Sql.Declaration

/-!
# Scanning for SQL files

The files that a source stands for: a file stands for itself, and a directory for the files below it
that have one of the wanted suffixes, lie under no excluded name and look as if they declared a
table.
-/

namespace EntityMapper.File

/-- What a scan looks for. -/
structure ScanRule where
  suffixes : List String := [".sql", ".ddl"]
  excluded : List String := [".git", "node_modules", "target", "build", ".venv"]
  deriving DecidableEq, Repr

/-- Whether a file that names lead to from the scanned directory is to be looked into. -/
def ScanRule.covers (rule : ScanRule) (file : Path) (names : List String) : Bool :=
  rule.suffixes.contains file.lowerSuffix && !names.any rule.excluded.contains

/-- A file that was found, and its text. -/
structure Found where
  path : Path
  text : String
  deriving DecidableEq, Repr

/-- The files that a path stands for, in order. -/
def scan (t : Tree) (rule : ScanRule) (p : Path) : Except AccessError (List Found) := do
  match ← t.find p with
  | none => return []
  | some place =>
    if t.isFileAt place then return [⟨p, t.textAt place⟩]
    else
      let wanted := (t.below place).filterMap fun names =>
        let file := p.join ⟨.here, names⟩
        let inside := place ++ names
        if rule.covers file names && Sql.mayDeclare (t.textAt inside) then
          some ⟨file, t.textAt inside⟩
        else none
      return wanted.mergeSort fun a b => Path.le a.path b.path

end EntityMapper.File
