import PoolLint.Files.Tree
import PoolLint.Report.Basic
import PoolLint.Text.Utf8

/-! Writing a report into a tree of files. Directories that are missing above it are made. A file
that cannot be opened is noted. -/
namespace PoolLint.Report

/-- What writing a report leaves: the notes, and the tree with the report or the fault. The tree may
have new directories even where the report could not be written. -/
structure Written where
  events : List Event
  tree : FileTree
  fault : Option PathFault

/-- Writes a text where its directory is there. -/
def writeText (tree : FileTree) (format : ReportFormat) (p : Path) (text : String) : Written :=
  match tree.write p (Text.Utf8.encode text) with
  | .ok tree => ⟨[], tree, none⟩
  | .error fault => ⟨[.reportFailed format p], tree, some fault⟩

def write (tree : FileTree) (format : ReportFormat) (indent : Option Int) (p : Path)
    (ds : List Diagnostic) : Written :=
  let text := render format indent ds
  match tree.askThere p.parent with
  | .error fault => ⟨[], tree, some fault⟩
  | .ok true => writeText tree format p text
  | .ok false =>
    match tree.ensureDirectories p.parent with
    | .error stopped => ⟨[], stopped.tree, some stopped.fault⟩
    | .ok tree => writeText tree format p text

end PoolLint.Report
