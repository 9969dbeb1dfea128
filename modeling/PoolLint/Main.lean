import PoolLint.CommandLine.Outcome
import PoolLint.Files.Change

/-! The program. It reads the files that its command line names into a tree, lets the library
answer, and writes down the files that have changed. -/
namespace PoolLint.Program

/-- The spelling of a place, read from the top. -/
def spelling (names : List String) : String := (Path.mk 1 names).text

def withParents (tree : FileTree) (names : List String) : FileTree :=
  (List.range names.length).foldl (fun t n =>
    if (t.item? (names.take n)).isSome then t else t.put (names.take n) .directory) tree

/-- Reads what is at a place that is reached without links. Of a directory its subdirectories and
its source files are read; a link is read together with what it leads to. -/
partial def readPlace (tree : FileTree) (names : List String) : IO FileTree := do
  let here := (← IO.currentDir) / spelling names
  let tree := withParents tree names
  if let some (.file _) := tree.item? names then return tree
  match (← here.symlinkMetadata).type with
  | .file =>
    try
      return tree.put names (.file ((← IO.FS.readBinFile here).toList.map UInt8.toNat))
    catch _ =>
      let refused := tree.put names (.file [])
      return { refused with unreadable := (names, .refused) :: refused.unreadable }
  | .dir =>
    let mut tree := tree.put names .directory
    for entry in ← here.readDir do
      let isWanted := FileTree.isSourceName entry.fileName ||
        (← entry.path.isDir) && !SearchOptions.standard.excluded.contains entry.fileName
      if isWanted then tree ← readPlace tree (names ++ [entry.fileName])
    return tree
  | .symlink =>
    if !(← here.pathExists) then return tree
    let target := Path.parse (← IO.FS.realPath here).toString
    readPlace (tree.put names (.link target)) target.names
  | .other => return tree

def readPath (tree : FileTree) (p : Path) : IO FileTree := do
  let mut tree := tree
  let mut place := tree.startOf p
  for name in p.names do
    if name == ".." then place := place.dropLast
    else
      place := place ++ [name]
      let here := (← IO.currentDir) / spelling place
      if (← here.pathExists) then
        if (← here.symlinkMetadata).type == .symlink then
          tree := withParents tree place
          let target := Path.parse (← IO.FS.realPath here).toString
          tree := tree.put place (.link target)
          place := target.names
  let here := (← IO.currentDir) / spelling place
  if (← here.pathExists) then readPlace tree place else return withParents tree place

def namedPaths (args : List String) : List Path :=
  match CommandLine.Command.ofArguments args with
  | .ok (.check request) => request.paths ++ request.output.toList
  | _ => []

def environment : IO Schema.Environment := do
  return ⟨← IO.getEnv "POOLGUARD_TARGETS", ← IO.getEnv "POOLGUARD_POOL_PARAMS",
    ← IO.getEnv "POOLGUARD_PARAM_COUNT", ← IO.getEnv "POOLGUARD_POOL_INDEX"⟩

/-- Writes the files in which two trees differ. -/
def writeChanges (before after : FileTree) : IO Unit := do
  for (names, bytes) in before.changes after do
    IO.FS.createDirAll (spelling names.dropLast)
    IO.FS.writeBinFile (spelling names) ⟨(bytes.map UInt8.ofNat).toArray⟩

def explanation : CommandLine.Fault → String
  | .usage fault => fault.message
  | .settings problems => s!"Unusable settings ({problems.length})"
  | .scan fault => (fault.message?).getD "The scan failed"
  | .report _ => "The report could not be written"

end PoolLint.Program

open PoolLint PoolLint.Program in
def main (args : List String) : IO UInt32 := do
  match (← environment).defaults with
  | .error fault =>
    IO.eprintln fault.message
    return 1
  | .ok defaults =>
    let directory := Path.parse (← IO.currentDir).toString
    let tree ← (namedPaths args).foldlM readPath (.empty directory.names)
    let outcome := CommandLine.Outcome.ofArguments tree defaults args
    writeChanges tree outcome.tree
    for line in outcome.printed do IO.println line
    for line in outcome.notes do IO.eprintln line
    if let some fault := outcome.fault then IO.eprintln (explanation fault)
    return outcome.exitCode.toUInt32
