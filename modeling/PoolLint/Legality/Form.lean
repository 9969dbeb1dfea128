import PoolLint.Legality.Violation

/-! The forms of expressions that decide where an expression may stand: an operand may stand
anywhere, while a spread or named one needs a place made for it. -/
namespace PoolLint.Legality
open PoolLint.Syntax

inductive Form where
  | operand
  | comparison
  | logical
  | conditional
  | lambda
  | named
  | spread
  | yield
  | renamed
  | list
  | statement
  deriving DecidableEq, Repr, Inhabited

mutual

/-- Whether the leftmost part of a value is spread: the star then goes for all of it. -/
def isSpread : Node → Bool
  | .mk kind _ _ _ children =>
    match kind with
    | .listSplat => true
    | .call | .attribute | .subscript | .binaryOperator => startsSpread children
    | _ => false

def startsSpread : List Node → Bool
  | [] => false
  | n :: _ => isSpread n

end

/-- The form of an expression. A name that is given a value takes a condition behind it along. -/
def formOf (n : Node) : Form :=
  match n.kind with
  | .comparisonOperator => .comparison
  | .notOperator | .booleanOperator => .logical
  | .conditionalExpression =>
    if (n.child? .body).any (·.kind == .namedExpression) then .named else .conditional
  | .lambda => .lambda
  | .namedExpression => .named
  | .yield => .yield
  | .asPattern => .renamed
  | .expressionList => .list
  | .assignment | .augmentedAssignment => .statement
  | _ => if isSpread n then .spread else .operand

namespace Form

/-- What binary operators and comparisons join. -/
def isOperand (f : Form) : Bool := f == .operand

/-- What boolean operators join, and what stands around a condition. -/
def isDisjunction (f : Form) : Bool := f == .operand || f == .comparison || f == .logical

/-- What stands where one value is needed. -/
def isExpression (f : Form) : Bool := f.isDisjunction || f == .conditional || f == .lambda

/-- What may also give its value a name. -/
def isNamed (f : Form) : Bool := f.isExpression || f == .named

end Form

/-- The parts of a construct that are no marks, comments or line continuations. -/
def parts (n : Node) : List Node :=
  n.children.filter fun c =>
    !(c.kind == .mark || c.kind == .comment || c.kind == .lineContinuation)

/-- The first part that does not meet a requirement. -/
def partNot (ok : Node → Bool) (ns : List Node) : List Violation :=
  ((ns.filter (!ok ·)).take 1).map Violation.ofNode

/-- A violation at a node unless a condition holds. -/
def require (ok : Bool) (n : Node) : List Violation := if ok then [] else [Violation.ofNode n]

def isExpression (n : Node) : Bool := (formOf n).isExpression

def isNamedOrExpression (n : Node) : Bool := (formOf n).isNamed

def isDisjunction (n : Node) : Bool := (formOf n).isDisjunction

def isOperand (n : Node) : Bool := (formOf n).isOperand

/-- What a star may stand in front of in a collection. -/
def splatIsOperand (n : Node) : Bool :=
  if n.kind == .listSplat then (parts n).all isOperand else isSpread n

/-- An item of a list of expressions. -/
def isListItem (n : Node) : Bool := isExpression n || splatIsOperand n

/-- An element of a collection in brackets. -/
def isElement (n : Node) : Bool := isNamedOrExpression n || splatIsOperand n

/-- One expression, or a list of them. -/
def isExpressionList (n : Node) : Bool :=
  if n.kind == .expressionList then (parts n).all isListItem else isExpression n

/-- What may be handed over by an assignment. -/
def isAssignable (n : Node) : Bool := formOf n == .yield || isExpressionList n

end PoolLint.Legality
