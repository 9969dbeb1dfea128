import PoolLint.Expr

/-! Calls with their arguments in source order. -/
namespace PoolLint

inductive Argument where
  | positional (value : Expr)
  | named (name : String) (value : Expr)

def Argument.value : Argument → Expr
  | .positional value | .named _ value => value

def Argument.depth (a : Argument) : Nat := a.value.depth

structure CallSite where
  callee : String
  arguments : List Argument
  location : Location

def CallSite.depth (c : CallSite) : Nat := c.arguments.foldr (fun a deepest => max a.depth deepest) 0

end PoolLint
