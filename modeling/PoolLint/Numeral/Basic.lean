import PoolLint.Numeral.Integer

/-! The numbers that pool settings are compared as. -/
namespace PoolLint

/-- How the value of a setting is read. -/
inductive ValueKind where
  | integer
  | float
  deriving DecidableEq, Repr

def ValueKind.name : ValueKind → String
  | .integer => "integer"
  | .float => "float"

def ValueKind.ofName? (s : String) : Option ValueKind :=
  [ValueKind.integer, .float].find? (·.name == s)

inductive Number where
  | integer (n : Int)
  | float (x : Binary64)
  deriving DecidableEq, Repr

def Number.atLeast (minimum : Int) : Number → Bool
  | .integer n => minimum ≤ n
  | .float x => x.atLeast minimum

def Number.read? (kind : ValueKind) (text : String) : Option Number :=
  match kind with
  | .integer => (Numeral.readIntegerLiteral text).toOption.map .integer
  | .float => (Numeral.readDecimal? text).map .float

end PoolLint
