import PoolLint.Text.Pieces

/-! Slash separated file paths, kept in a normal form: a path is a number of leading slashes and a
list of names, none of them empty or a single dot. Two leading slashes stay two, any other number
above one is one. Names that go up are kept. -/
namespace PoolLint

structure Path where
  slashes : Nat
  names : List String
  deriving DecidableEq, Repr, Inhabited

namespace Path

/-- The pieces that name something. -/
def namesIn (cs : List Char) : List String :=
  ((Text.pieces '/' cs).filter fun piece => !piece.isEmpty && piece != ['.']).map String.ofList

def leadingSlashes (cs : List Char) : Nat :=
  match (cs.takeWhile (· == '/')).length with
  | 0 => 0
  | 2 => 2
  | _ => 1

def parse (s : String) : Path :=
  ⟨leadingSlashes s.toList, namesIn s.toList⟩

def isAbsolute (p : Path) : Bool := p.slashes != 0

/-- The shortest spelling: the empty relative path is a dot. -/
def text (p : Path) : String :=
  if p.slashes == 0 && p.names.isEmpty then "."
  else String.ofList (List.replicate p.slashes '/') ++ "/".intercalate p.names

/-- How many bytes names take, each with the slash behind it or the end of the path. -/
def namesSize : List String → Nat
  | [] => 0
  | name :: names => name.utf8ByteSize + 1 + namesSize names

def size (p : Path) : Nat := p.slashes + namesSize p.names

/-- A path read from the place of another. -/
def join (base p : Path) : Path :=
  if p.isAbsolute then p else ⟨base.slashes, base.names ++ p.names⟩

def child (p : Path) (name : String) : Path := ⟨p.slashes, p.names ++ [name]⟩

/-- The path without its last name. A path without names is its own parent. -/
def parent (p : Path) : Path := ⟨p.slashes, p.names.dropLast⟩

/-- Paths in order: name by name, each name by its characters. -/
def le (p q : Path) : Bool :=
  if p.slashes == q.slashes then compareNames p.names q.names
  else p.slashes < q.slashes
where
  compareNames : List String → List String → Bool
    | [], _ => true
    | _ :: _, [] => false
    | a :: as, b :: bs => if a == b then compareNames as bs else a < b

end Path
end PoolLint
