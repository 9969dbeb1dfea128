import PoolLint.Location

/-! Expressions as far as pool settings can be read from them: literals, signed literals, records
with keys written out, and everything else, of which only the kind of syntax is known. -/
namespace PoolLint

inductive LiteralKind where
  | integer
  | float
  | string
  | boolean
  | none
  deriving DecidableEq, Repr

def LiteralKind.name : LiteralKind → String
  | .integer => "integer"
  | .float => "float"
  | .string => "string"
  | .boolean => "boolean"
  | .none => "none"

def LiteralKind.all : List LiteralKind := [.integer, .float, .string, .boolean, .none]

def LiteralKind.ofName? (s : String) : Option LiteralKind := LiteralKind.all.find? (·.name == s)

mutual

inductive Expr where
  | literal (kind : LiteralKind) (text : String) (location : Location)
  | unary (operator : String) (operand : Expr) (text : String) (location : Location)
  | record (fields : List Field) (text : String) (location : Location)
  | other (syntaxKind : String) (text : String) (location : Location)

/-- An entry of a record. A key that is not written out, or an entry that spreads another record,
has no key. -/
inductive Field where
  | mk (key : Option String) (value : Expr) (location : Location)

end

namespace Field

def key : Field → Option String
  | .mk key _ _ => key

def value : Field → Expr
  | .mk _ value _ => value

def location : Field → Location
  | .mk _ _ location => location

end Field

namespace Expr

def text : Expr → String
  | .literal _ text _ | .unary _ _ text _ | .record _ text _ | .other _ text _ => text

def location : Expr → Location
  | .literal _ _ location | .unary _ _ _ location | .record _ _ location | .other _ _ location =>
    location

end Expr

mutual

/-- How many expressions stand in each other at most, the outermost one included. -/
def Expr.depth : Expr → Nat
  | .literal .. | .other .. => 1
  | .unary _ operand _ _ => operand.depth + 1
  | .record fields _ _ => Field.depthIn fields + 1

def Field.depth : Field → Nat
  | .mk _ value _ => value.depth

def Field.depthIn : List Field → Nat
  | [] => 0
  | f :: fs => max f.depth (Field.depthIn fs)

end

end PoolLint
