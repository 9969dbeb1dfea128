import PoolLint.CallSite
import PoolLint.Event
import PoolLint.PoolRule
import PoolLint.RuleConfig

/-! The check of one call: find the argument that holds the pool, read the settings written out in
it, and report the ones below their minimum. What cannot be read without running code is passed
over. -/
namespace PoolLint
open PoolLint.Text

namespace PoolCheck

/-- A key or value token without blanks around it and without quotes and line ends in it. -/
def plainChars (cs : List Char) : List Char :=
  (trim cs).filter fun c => !(c == '"' || c == '\'' || c == '\n')

def plainToken (s : String) : String := String.ofList (plainChars s.toList)

/-- A file that already has an error is not checked. -/
def isBlocked (prior : List Diagnostic) : Bool := prior.any (·.severity == .error)

def isAnalyzed (prior : List Diagnostic) (site : CallSite) (isTarget : CallSite → Bool) : Bool :=
  !isBlocked prior && isTarget site

/-- An index lies outside a list. -/
structure IndexFault where
  deriving DecidableEq, Repr

/-- The element at an index; negative indexes count from the end. -/
def elementAt {α : Type} (xs : List α) (index : Int) : Except IndexFault α :=
  let position := if index < 0 then index + xs.length else index
  if position < 0 then .error {}
  else match xs[position.toNat]? with
    | some x => .ok x
    | none => .error {}

def namedValue? (names : List String) : List Argument → Option Expr
  | [] => none
  | .named name value :: rest => if names.contains name then some value else namedValue? names rest
  | .positional _ :: rest => namedValue? names rest

/-- The argument that holds the pool. A named one always wins; without one the place of the pool is
known only when every parameter has an argument. -/
def poolArgument (arguments : List Argument) (names : List String) (count index : Int) :
    Except IndexFault (Option Expr) :=
  match namedValue? names arguments with
  | some value => .ok (some value)
  | none =>
    if (arguments.length : Int) != count then .ok none
    else match elementAt arguments index with
      | .error fault => .error fault
      | .ok (.positional value) => .ok (some value)
      | .ok (.named _ _) => .ok none

/-- The entries of a record that have a key, in source order. -/
def settings? : Expr → Option (List (String × Expr))
  | .record fields _ _ =>
    some (fields.filterMap fun f => f.key.map fun key => (plainToken key, f.value))
  | _ => none

/-- The text of a literal or of a signed literal, and the default for everything else. -/
def literalText (default : String) : Expr → String
  | .literal _ text _ => plainToken text
  | .unary operator (.literal _ text _) _ _ => plainToken (operator ++ text)
  | _ => default

structure Outcome where
  events : List Event
  diagnostics : List Diagnostic

def Outcome.none : Outcome := ⟨[], []⟩

def Outcome.append (a b : Outcome) : Outcome :=
  ⟨a.events ++ b.events, a.diagnostics ++ b.diagnostics⟩

def checkValue (key : PoolKey) (text : String) (location : Location) : Outcome :=
  let rule := PoolRule.of key
  match Number.read? rule.kind text with
  | Option.none => ⟨[.unreadableValue text rule.kind], []⟩
  | some value =>
    if value.atLeast rule.minimum then .none
    else ⟨[], [Diagnostic.of rule.finding location]⟩

/-- The check of one setting; a name that is not recognised is passed over. -/
def checkSetting (name : String) (value : Expr) : Outcome :=
  match PoolKey.lookup? name with
  | Option.none => .none
  | some key => checkValue key (literalText (PoolRule.of key).default value) value.location

def checkSettings : List (String × Expr) → Outcome
  | [] => .none
  | (name, value) :: rest => (checkSetting name value).append (checkSettings rest)

def checkPool (pool : Expr) : Outcome :=
  match settings? pool with
  | Option.none => ⟨[.poolNotRecord pool.location], []⟩
  | some settings => checkSettings settings

def perform (config : RuleConfig) (prior : List Diagnostic) (isTarget : CallSite → Bool)
    (site : CallSite) : Except IndexFault Outcome :=
  if !isAnalyzed prior site isTarget then .ok .none
  else match poolArgument site.arguments config.poolNames config.parameterCount
      config.poolIndex with
    | .error fault => .error fault
    | .ok Option.none => .ok .none
    | .ok (some pool) => .ok (checkPool pool)

end PoolCheck
end PoolLint
