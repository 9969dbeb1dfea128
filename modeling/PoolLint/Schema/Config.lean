import PoolLint.Numeral.Integer
import PoolLint.PoolRule
import PoolLint.RuleConfig
import PoolLint.Schema.Scalar
import PoolLint.Text.Pieces

/-! Documents and environments that describe which calls are checked and how. Values given in a
document have lower bounds; values taken from the environment are only held to the rule that the
pool stands inside the parameter list. -/
namespace PoolLint.Schema
open Check PoolLint.Text

/-- The texts between commas, without blanks around them and without empty ones. -/
def commaList (s : String) : List String :=
  (((pieces ',' s.toList).map trim).filter (!·.isEmpty)).map String.ofList

/-- A variable that has to be an integer holds something else. -/
structure EnvironmentFault where
  value : String
  fault : Numeral.IntegerFault
  deriving DecidableEq, Repr

def EnvironmentFault.message (f : EnvironmentFault) : String := f.fault.message f.value

/-- The variables that replace standard settings. -/
structure Environment where
  targets : Option String
  poolNames : Option String
  parameterCount : Option String
  poolIndex : Option String
  deriving DecidableEq, Repr

namespace Environment

def empty : Environment := ⟨none, none, none, none⟩

def ofBindings (bindings : List (String × String)) : Environment :=
  let value (name : String) := (bindings.reverse.find? (·.1 == name)).map (·.2)
  ⟨value "POOLGUARD_TARGETS", value "POOLGUARD_POOL_PARAMS", value "POOLGUARD_PARAM_COUNT",
    value "POOLGUARD_POOL_INDEX"⟩

def integerOr (standard : Int) : Option String → Except EnvironmentFault Int
  | none => .ok standard
  | some s => (Numeral.readInteger s).mapError fun fault => ⟨s, fault⟩

def defaults (e : Environment) : Except EnvironmentFault RuleConfig := do
  let parameterCount ← integerOr RuleConfig.standard.parameterCount e.parameterCount
  let poolIndex ← integerOr RuleConfig.standard.poolIndex e.poolIndex
  return {
    targets := (e.targets.map commaList).getD RuleConfig.standard.targets
    poolNames := (e.poolNames.map commaList).getD RuleConfig.standard.poolNames
    parameterCount, poolIndex }

end Environment

/-- Settings whose fields have been read one by one. -/
def insideSignature (c : RuleConfig) : Check RuleConfig :=
  if c.parameterCount ≤ c.poolIndex then
    .fail (.rejected "config_param_index must be lower than total_param_count")
  else .ok c

def configFields (defaults : RuleConfig) (members : List (String × Json)) : Check RuleConfig :=
  (both (optional "target_constructors" defaults.targets texts members) <|
    both (optional "pool_param_names" defaults.poolNames texts members) <|
    both (optional "total_param_count" defaults.parameterCount (integerFrom 1) members)
      (optional "config_param_index" defaults.poolIndex (integerFrom 0) members)).map
    fun (targets, poolNames, parameterCount, poolIndex) =>
      ⟨targets, poolNames, parameterCount, poolIndex⟩

def config (defaults : RuleConfig) (members : List (String × Json)) : Check RuleConfig :=
  configFields defaults members >>= insideSignature

/-- Settings do not change once made. -/
def assign {α : Type} (name : String) : Check α := under (.name name) (.fail .fixed)

/-- A rule cannot be described by a document: no word names the finding it makes. -/
def rule (j : Json) : Check Unit :=
  match j with
  | .object members =>
    (both (required "key" (word PoolKey.ofName?) members) <|
      both (required "value_kind" (word ValueKind.ofName?) members) <|
      both (required "default_text" text members) <|
      both (required "minimum" double members)
        (required "code" (word fun _ => (none : Option Unit)) members)).map fun _ => ()
  | _ => .fail .notObject

end PoolLint.Schema
