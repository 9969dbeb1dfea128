/-! Places in a text, counted from zero. A column counts bytes from the start of its line. -/
namespace PoolLint.Syntax

structure Position where
  row : Nat
  column : Nat
  byte : Nat
  deriving DecidableEq, Repr, Inhabited

namespace Position

def start : Position := ⟨0, 0, 0⟩

def after (p : Position) (c : Char) : Position :=
  if c == '\n' then ⟨p.row + 1, 0, p.byte + 1⟩
  else ⟨p.row, p.column + c.utf8Size, p.byte + c.utf8Size⟩

def afterAll (p : Position) (cs : List Char) : Position := cs.foldl after p

end Position

/-- A stretch of a text; the stop is exclusive. -/
structure Span where
  start : Position
  stop : Position
  deriving DecidableEq, Repr, Inhabited

end PoolLint.Syntax
