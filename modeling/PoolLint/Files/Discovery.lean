import PoolLint.Files.Tree

/-! The source files in a directory, in path order. -/
namespace PoolLint

structure SearchOptions where
  isRecursive : Bool
  followsLinks : Bool
  excluded : List String
  deriving DecidableEq, Repr

/-- Caches, repositories and environments are left out. -/
def SearchOptions.standard : SearchOptions where
  isRecursive := true
  followsLinks := false
  excluded := ["__pycache__", ".git", ".venv", "venv", ".mypy_cache", ".pytest_cache"]

namespace FileTree

def isSourceName (name : String) : Bool := ".py".toList.isSuffixOf name.toList

/-- A directory as it is listed: its place, and the names in it. -/
structure Listing where
  place : List String
  names : List String
  deriving Repr

def listing (t : FileTree) (p : Path) : Except PathFault Listing :=
  match t.stat p with
  | .error fault => .error fault
  | .ok (place, .directory) =>
    match faultAt? t.unreadable place with
    | some fault => .error fault
    | none => .ok ⟨place, t.namesIn place⟩
  | .ok _ => .error .notDirectory

/-- The files among some paths. -/
def filesAmong (t : FileTree) : List Path → Except PathFault (List Path)
  | [] => .ok []
  | p :: rest => do
    let isFile ← t.askFile p
    let files ← t.filesAmong rest
    return if isFile then p :: files else files

section Walk

variable (t : FileTree) (options : SearchOptions) (p : Path)

def isLinked (place : List String) (name : String) : Bool :=
  ((t.item? (place ++ [name])).map Item.isLink).getD false

/-- Whether a walk takes a listed name for that of a directory. What the listing tells is enough for
that, other than for a link, which is followed. -/
def leadsOn (place : List String) (name : String) : Bool :=
  match t.item? (place ++ [name]) with
  | some .directory => true
  | some (.link _) => t.isDirectory (p.child name)
  | _ => false

/-- What a walk asks in a directory whether it is a file. -/
def candidates (listed : Listing) : List Path :=
  (listed.names.filter fun name => !t.leadsOn p listed.place name && isSourceName name).map p.child

/-- The directories that a walk goes into from a directory. -/
def entered (listed : Listing) : List Path :=
  (listed.names.filter fun name => t.leadsOn p listed.place name &&
    !options.excluded.contains name &&
    (options.followsLinks || !t.isLinked listed.place name)).map p.child

end Walk

/-- The sources below a directory. A walk asks for the files in a directory before it goes into the
directories there. One that cannot be listed counts as empty. -/
def sourcesBelow (t : FileTree) (options : SearchOptions) : Nat → Path → Except PathFault (List Path)
  | 0, _ => .error .tooDeep
  | depth + 1, p =>
    match t.listing p with
    | .error _ => .ok []
    | .ok listed => do
      let here ← t.filesAmong (t.candidates p listed)
      let below ← (t.entered options p listed).flatMapM (t.sourcesBelow options depth)
      return here ++ below

/-- The sources directly in a directory. Whatever is in it is asked whether it is a file before its
name is looked at. -/
def sourcesIn (t : FileTree) (p : Path) : Except PathFault (List Path) := do
  let listed ← t.listing p
  let files ← t.filesAmong (listed.names.map p.child)
  return files.filter fun q => q.names.getLast?.any isSourceName

/-- The sources in a directory, in the order in which a search comes upon them. -/
def sourcesMet (t : FileTree) (options : SearchOptions) (root : Path) :
    Except PathFault (List Path) :=
  if options.isRecursive then t.sourcesBelow options maxNested root else t.sourcesIn root

def sources (t : FileTree) (options : SearchOptions) (root : Path) : Except PathFault (List Path) :=
  (t.sourcesMet options root).map (·.mergeSort Path.le)

end FileTree
end PoolLint
