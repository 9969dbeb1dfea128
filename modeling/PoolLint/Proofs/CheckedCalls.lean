import PoolLint.PoolCheck

/-! What the check of one call reports, setting by setting. The default that stands for an
unreadable value is never below its own minimum, so only literals are reported. -/
namespace PoolLint.PoolCheck

def readableText? : Expr → Option String
  | .literal _ text _ => some (plainToken text)
  | .unary operator (.literal _ text _) _ _ => some (plainToken (operator ++ text))
  | _ => none

def isTooLow (key : PoolKey) (text : String) : Bool :=
  (Number.read? (PoolRule.of key).kind text).any fun n => !n.atLeast (PoolRule.of key).minimum

/-- What is reported for a setting: its key and the expression it is set to. -/
def tooLow? (name : String) (value : Expr) : Option PoolKey :=
  (PoolKey.lookup? name).filter fun key => (readableText? value).any (isTooLow key)

def findingOf (key : PoolKey) (location : Location) : Diagnostic :=
  Diagnostic.of (PoolRule.of key).finding location

theorem literalText_eq (default : String) (value : Expr) :
    literalText default value = (readableText? value).getD default := by
  unfold literalText
  split <;> simp [readableText?, *]

/-- Every default passes its own check. -/
theorem default_not_tooLow (key : PoolKey) : isTooLow key (PoolRule.of key).default = false := by
  cases key <;> decide +kernel

theorem checkValue_diagnostics (key : PoolKey) (text : String) (location : Location) :
    (checkValue key text location).diagnostics =
      if isTooLow key text then [findingOf key location] else [] := by
  simp only [checkValue, isTooLow]
  split
  · rename_i unread
    simp [unread]
  · rename_i n read
    cases low : n.atLeast (PoolRule.of key).minimum <;>
      simp [read, low, Outcome.none, findingOf]

theorem checkSetting_diagnostics (name : String) (value : Expr) :
    (checkSetting name value).diagnostics =
      ((tooLow? name value).map (findingOf · value.location)).toList := by
  simp only [checkSetting, tooLow?]
  cases PoolKey.lookup? name with
  | none => rfl
  | some key =>
    simp only [checkValue_diagnostics, literalText_eq]
    cases readableText? value with
    | none => simp [default_not_tooLow]
    | some text => cases low : isTooLow key text <;> simp [low, Option.filter]

theorem checkSettings_diagnostics (settings : List (String × Expr)) :
    (checkSettings settings).diagnostics =
      settings.filterMap fun s => (tooLow? s.1 s.2).map (findingOf · s.2.location) := by
  induction settings with
  | nil => rfl
  | cons setting rest ih =>
    obtain ⟨name, value⟩ := setting
    simp only [checkSettings, Outcome.append, checkSetting_diagnostics, ih, List.filterMap_cons]
    cases tooLow? name value <;> rfl

theorem checkPool_diagnostics (pool : Expr) :
    (checkPool pool).diagnostics =
      ((settings? pool).getD []).filterMap fun s =>
        (tooLow? s.1 s.2).map (findingOf · s.2.location) := by
  unfold checkPool
  cases settings? pool with
  | none => rfl
  | some settings => exact checkSettings_diagnostics settings

/-- The argument that holds the pool, where its place lies inside the parameter list. -/
def poolValue? (config : RuleConfig) (arguments : List Argument) : Option Expr :=
  match namedValue? config.poolNames arguments with
  | some value => some value
  | none =>
    if (arguments.length : Int) = config.parameterCount then
      match arguments[config.poolIndex.toNat]? with
      | some (.positional value) => some value
      | _ => none
    else none

section Inside
variable {config : RuleConfig} (lower : 0 ≤ config.poolIndex)
  (upper : config.poolIndex < config.parameterCount)
include lower upper

theorem poolArgument_eq (arguments : List Argument) :
    poolArgument arguments config.poolNames config.parameterCount config.poolIndex =
      .ok (poolValue? config arguments) := by
  unfold poolArgument poolValue?
  cases namedValue? config.poolNames arguments with
  | some value => rfl
  | none =>
    by_cases full : (arguments.length : Int) = config.parameterCount
    · have inside : config.poolIndex.toNat < arguments.length := by omega
      have notBelow : ¬ config.poolIndex < 0 := by omega
      simp only [full, bne_self_eq_false, Bool.false_eq_true, if_false, if_true, elementAt,
        notBelow, List.getElem?_eq_getElem inside]
      cases arguments[config.poolIndex.toNat] <;> rfl
    · simp [full]

theorem perform_eq (prior : List Diagnostic) (isTarget : CallSite → Bool) (site : CallSite) :
    perform config prior isTarget site = .ok
      (if isAnalyzed prior site isTarget then
        ((poolValue? config site.arguments).map checkPool).getD .none
      else .none) := by
  unfold perform
  rw [poolArgument_eq lower upper]
  cases isAnalyzed prior site isTarget with
  | false => rfl
  | true => cases poolValue? config site.arguments <;> rfl

end Inside

end PoolLint.PoolCheck
