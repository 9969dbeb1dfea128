import PoolLint.Files.Path

/-! Places in a source file. Lines and columns count from one and columns count bytes; ends are
exclusive; byte offsets count from zero. -/
namespace PoolLint

structure Location where
  file : Path
  lineStart : Nat
  columnStart : Nat
  lineEnd : Nat
  columnEnd : Nat
  startByte : Nat := 0
  endByte : Nat := 0
  deriving DecidableEq, Repr, Inhabited

namespace Location

/-- What a location has to satisfy. The order of the columns is not part of it. -/
structure Valid (l : Location) : Prop where
  lineStart : 1 ≤ l.lineStart
  columnStart : 1 ≤ l.columnStart
  lineEnd : 1 ≤ l.lineEnd
  columnEnd : 1 ≤ l.columnEnd
  ordered : l.lineStart ≤ l.lineEnd

/-- How a location is cited: file, line and column. -/
def text (l : Location) : String := s!"{l.file.text}:{l.lineStart}:{l.columnStart}"

end Location
end PoolLint
