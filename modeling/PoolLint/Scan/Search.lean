import PoolLint.Files.Discovery

/-! What is asked of the scan of a directory. -/
namespace PoolLint

/-- What happens when a file in a directory fails. -/
inductive OnError where
  | raise
  | skip
  deriving DecidableEq, Repr

def OnError.name : OnError → String
  | .raise => "raise"
  | .skip => "skip"

def OnError.ofName? (s : String) : Option OnError :=
  [OnError.raise, OnError.skip].find? (·.name == s)

/-- A directory, which of the directories below it are gone into, and what happens when a file
fails. -/
structure Search where
  root : Path
  options : SearchOptions
  onError : OnError
  deriving DecidableEq, Repr

end PoolLint
