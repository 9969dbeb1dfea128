import PoolLint.Syntax.Node

/-! The words and marks a source text consists of. Each knows what lies between it and the one
before: the text of it, the comments and line continuations in it, whether a line ended, and how
far the line it stands on is indented. -/
namespace PoolLint.Syntax

inductive Token.Kind where
  | word
  | integer
  | float
  | mark
  | stringStart
  | stringContent
  | stringEnd
  | conversion
  | specText
  | finish
  deriving DecidableEq, Repr, Inhabited

structure Token where
  kind : Token.Kind
  text : String
  layout : String
  extras : List Node
  endsLine : Bool
  indent : Nat
  span : Span
  deriving Repr, Inhabited

namespace Token

def isMark (t : Token) (s : String) : Bool := t.kind == .mark && t.text == s

def isWord (t : Token) (s : String) : Bool := t.kind == .word && t.text == s

/-- The kind of node a token makes when it stands alone. -/
def nodeKind (t : Token) : Syntax.Kind :=
  match t.kind with
  | .word => .identifier
  | .integer => .integer
  | .float => .float
  | .stringContent | .specText => .stringContent
  | .conversion => .typeConversion
  | .mark | .stringStart | .stringEnd | .finish => .mark

def node (t : Token) (kind : Syntax.Kind) (role : Role) : Node := .mk kind role t.text t.span []

end Token
end PoolLint.Syntax
