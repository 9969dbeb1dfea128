import PoolLint.Syntax.Node

/-! How deeply a tree is nested. Parentheses and chains of one boolean operator add nothing. -/
namespace PoolLint.Legality
open PoolLint.Syntax

/-- The depth beyond which a source is refused as too deep to be worked on. An estimate, on the low
side: the exact bound lies below three thousand and depends on what the program runs in. -/
def maxDepth : Nat := 2900

def joiningWord (children : List Node) : String :=
  ((children.find? (·.role == .operator)).map (·.text)).getD ""

mutual

/-- The depth of a tree under an operator; a chain of that operator goes on. -/
def depthUnder (operator : String) : Node → Nat
  | .mk kind _ _ _ children =>
    match kind with
    | .mark | .comment | .lineContinuation => 0
    | .parenthesized => deepest "" children
    | .booleanOperator =>
      let word := joiningWord children
      if word == operator then deepest word children else deepest word children + 1
    | _ => deepest "" children + 1

def deepest (operator : String) : List Node → Nat
  | [] => 0
  | n :: rest => max (depthUnder operator n) (deepest operator rest)

end

def isTooDeep (root : Node) : Bool := maxDepth < depthUnder "" root

end PoolLint.Legality
