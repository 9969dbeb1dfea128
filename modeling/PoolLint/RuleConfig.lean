/-! Which constructors are checked and where in their argument list the pool stands. -/
namespace PoolLint

structure RuleConfig where
  targets : List String
  poolNames : List String
  parameterCount : Int
  poolIndex : Int
  deriving DecidableEq, Repr

/-- The signature of the client that is checked unless told otherwise: five parameters, the pool
last. -/
def RuleConfig.standard : RuleConfig :=
  ⟨["jdbc.Client"], ["connectionPool", "connection_pool"], 5, 4⟩

end PoolLint
