import PoolLint.Event
import PoolLint.Files.Tree
import PoolLint.Schema.Problem
import PoolLint.Text.Quoted
import PoolLint.Text.Utf8

/-! Why a scan stops, and what it has noted until then. -/
namespace PoolLint

inductive ScanFault where
  /-- The file holds bytes that are no text. -/
  | notUtf8 (fault : Text.Utf8.Fault)
  /-- The source is nested too deeply. -/
  | tooDeep
  /-- The place of the pool lies outside the arguments of a call. -/
  | indexOutside
  /-- A path cannot be used. -/
  | path (fault : PathFault)
  /-- Links lead to each other. -/
  | endlessLinks (at_ : Path)
  | rootMissing (root : Path)
  | rootNotDirectory (root : Path)
  | pathMissing (p : Path)
  | pathEndless (p at_ : Path)
  /-- The description of the scan is faulty. -/
  | request (problems : List Schema.Problem)
  deriving DecidableEq, Repr

namespace ScanFault

def endlessMessage (at_ : Path) : String := s!"Symlink loop from {Text.quoted at_.text}"

def message? : ScanFault → Option String
  | .notUtf8 fault => some fault.message
  | .indexOutside => some "list index out of range"
  | .endlessLinks at_ => some (endlessMessage at_)
  | .rootMissing root => some s!"Root path does not exist: {root.text}"
  | .rootNotDirectory root => some s!"Root path must be a directory: {root.text}"
  | .pathMissing p => some s!"Path does not exist: {p.text}"
  | .pathEndless p at_ => some s!"Invalid path: {p.text} - {endlessMessage at_}"
  | .tooDeep | .path _ | .request _ => none

end ScanFault

/-- A result or a fault, and what was noted on the way. -/
structure Attempt (ε α : Type) where
  events : List Event
  result : Except ε α

end PoolLint
