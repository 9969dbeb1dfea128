import PoolLint.Syntax.Node

/-! Where a source breaks a rule of the language, as far as it is told. Lines and columns count from
one. -/
namespace PoolLint

/-- The place that is told of a violation. Each part may be left out. A line is not negative; nothing
else is sure, not even that the end comes behind the start. -/
structure Violation where
  line : Option Nat
  column : Option Int
  lineEnd : Option Int
  columnEnd : Option Int
  deriving DecidableEq, Repr, Inhabited

namespace Violation
open PoolLint.Syntax

def untold : Violation := ⟨none, none, none, none⟩

/-- A place whose columns count bytes. -/
def ofSpan (s : Span) : Violation :=
  ⟨some (s.start.row + 1), some (s.start.column + 1),
    some (s.stop.row + 1), some (s.stop.column + 1)⟩

def ofNode (n : Node) : Violation := ofSpan n.span

def charactersIn : Nat → List Char → Nat
  | _, [] => 0
  | bytes, c :: cs => if bytes == 0 then 0 else charactersIn (bytes - c.utf8Size) cs + 1

def characterColumn (lines : List (List Char)) (p : Position) : Nat :=
  charactersIn p.column ((lines[p.row]?).getD [])

/-- A place whose columns count characters. -/
def inCharacters (lines : List (List Char)) (s : Span) : Violation :=
  ⟨some (s.start.row + 1), some (characterColumn lines s.start + 1),
    some (s.stop.row + 1), some (characterColumn lines s.stop + 1)⟩

end Violation
end PoolLint
