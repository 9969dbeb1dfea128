import PoolLint.Diagnostic
import PoolLint.Numeral.Basic

/-! The pool settings that are checked: their names, how their values are read, and the least value
each may have. -/
namespace PoolLint

inductive PoolKey where
  | maxOpenConnections
  | minIdleConnections
  | maxConnectionLifeTime
  deriving DecidableEq, Repr

namespace PoolKey

def all : List PoolKey := [.maxOpenConnections, .minIdleConnections, .maxConnectionLifeTime]

def name : PoolKey → String
  | .maxOpenConnections => "maxOpenConnections"
  | .minIdleConnections => "minIdleConnections"
  | .maxConnectionLifeTime => "maxConnectionLifeTime"

def ofName? (s : String) : Option PoolKey := all.find? (·.name == s)

def aliases : PoolKey → List String
  | .maxOpenConnections => ["max_open_connections"]
  | .minIdleConnections => ["min_idle_connections"]
  | .maxConnectionLifeTime => ["max_connection_lifetime", "max_connection_life_time"]

def lookup? (s : String) : Option PoolKey :=
  match ofName? s with
  | some key => some key
  | none => all.find? (·.aliases.contains s)

end PoolKey

/-- How one setting is checked. The default is what an unreadable expression counts as. -/
structure PoolRule where
  key : PoolKey
  kind : ValueKind
  default : String
  minimum : Nat
  finding : Finding
  deriving DecidableEq, Repr

namespace PoolRule

def of : PoolKey → PoolRule
  | .maxOpenConnections => ⟨.maxOpenConnections, .integer, "1", 1, .tooFewOpenConnections⟩
  | .minIdleConnections => ⟨.minIdleConnections, .integer, "0", 0, .tooFewIdleConnections⟩
  | .maxConnectionLifeTime => ⟨.maxConnectionLifeTime, .float, "30", 30, .tooShortLifeTime⟩

def table : List PoolRule := PoolKey.all.map of

def text (r : PoolRule) : String :=
  s!"{r.finding.code}  {r.key.name} ({r.kind.name}) >= {r.minimum}: {r.finding.message}"

end PoolRule
end PoolLint
