import PoolLint.Proofs.CheckedCalls
import PoolLint.Schema.Config

/-! Where the pool stands in the parameter lists of settings that can be made. Every such settings
object keeps the pool in front of the end of the list. That the pool does not stand in front of the
beginning is checked for documents only, and an environment can put it there. -/
namespace PoolLint

namespace Schema

theorem Check.under_ok {α : Type} (step : Step) (c : Check α) (a : α) :
    c.under step = .ok a ↔ c = .ok a := by
  cases c <;> simp [Check.under]

theorem Check.both_ok {α β : Type} {a : Check α} {b : Check β} {x : α} {y : β} :
    Check.both a b = .ok (x, y) ↔ a = .ok x ∧ b = .ok y := by
  cases a <;> cases b <;> simp [Check.both]

theorem Check.map_ok {α β : Type} (f : α → β) (c : Check α) (b : β) :
    c.map f = .ok b ↔ ∃ a, c = .ok a ∧ f a = b := by
  cases c <;> simp [Except.map]

theorem optional_ok {α : Type} {name : String} {default a : α} {check : Json → Check α}
    {members : List (String × Json)} :
    optional name default check members = .ok a ↔
      (∃ j, Json.member? name members = some j ∧ check j = .ok a) ∨
        (Json.member? name members = none ∧ default = a) := by
  unfold optional
  cases Json.member? name members <;> simp [Check.under_ok]

theorem integerFrom_lower {minimum n : Int} {j : Json} (read : integerFrom minimum j = .ok n) :
    minimum ≤ n := by
  unfold integerFrom at read
  split at read
  · split at read
    · rename_i lower
      cases read
      exact lower
    · cases read
  · cases read

theorem insideSignature_ok {c d : RuleConfig} (checked : insideSignature c = .ok d) :
    c = d ∧ d.poolIndex < d.parameterCount := by
  unfold insideSignature at checked
  split at checked
  · cases checked
  · rename_i inside
    cases checked
    exact ⟨rfl, by omega⟩

/-- All that is checked when settings are made from a document. -/
theorem config_ok {defaults c : RuleConfig} {members : List (String × Json)}
    (made : config defaults members = .ok c) :
    optional "total_param_count" defaults.parameterCount (integerFrom 1) members =
        .ok c.parameterCount ∧
      optional "config_param_index" defaults.poolIndex (integerFrom 0) members =
        .ok c.poolIndex ∧
      c.poolIndex < c.parameterCount := by
  unfold config at made
  cases fields : configFields defaults members with
  | error problems =>
    rw [fields] at made
    cases made
  | ok read =>
    rw [fields] at made
    obtain ⟨rfl, inside⟩ := insideSignature_ok made
    obtain ⟨⟨targets, poolNames, parameterCount, poolIndex⟩, parts, rfl⟩ :=
      (Check.map_ok _ _ _).mp fields
    obtain ⟨-, rest⟩ := Check.both_ok.mp parts
    obtain ⟨-, numbers⟩ := Check.both_ok.mp rest
    obtain ⟨countRead, indexRead⟩ := Check.both_ok.mp numbers
    exact ⟨countRead, indexRead, inside⟩

theorem Environment.defaults_poolIndex {e : Environment} {defaults : RuleConfig}
    (defined : e.defaults = .ok defaults) :
    Environment.integerOr RuleConfig.standard.poolIndex e.poolIndex = .ok defaults.poolIndex := by
  unfold Environment.defaults at defined
  cases count : Environment.integerOr RuleConfig.standard.parameterCount e.parameterCount with
  | error fault =>
    rw [count] at defined
    cases defined
  | ok parameterCount =>
    rw [count] at defined
    cases index : Environment.integerOr RuleConfig.standard.poolIndex e.poolIndex with
    | error fault =>
      rw [index] at defined
      cases defined
    | ok poolIndex =>
      rw [index] at defined
      cases defined
      rfl

def Environment.HasNaturalIndex (e : Environment) : Prop :=
  ∀ s n, e.poolIndex = some s → Numeral.readInteger s = .ok n → 0 ≤ n

theorem Environment.hasNaturalIndex_iff {e : Environment} {defaults : RuleConfig}
    (defined : e.defaults = .ok defaults) : e.HasNaturalIndex ↔ 0 ≤ defaults.poolIndex := by
  have read := defaults_poolIndex defined
  unfold HasNaturalIndex
  cases given : e.poolIndex with
  | none =>
    rw [given] at read
    have same : 4 = defaults.poolIndex := Except.ok.inj read
    simp [← same]
  | some text =>
    rw [given] at read
    cases value : Numeral.readInteger text with
    | error fault =>
      simp only [integerOr, value] at read
      cases read
    | ok n =>
      simp only [integerOr, value] at read
      have same : n = defaults.poolIndex := Except.ok.inj read
      rw [← same]
      constructor
      · intro natural
        exact natural text n rfl value
      · intro lower s m set readAgain
        cases set
        cases value.symm.trans readAgain
        exact lower

/-- A document that names the place of the pool is held to its lower bound; otherwise the default
has to keep it. -/
theorem config_lower_iff {defaults c : RuleConfig} {members : List (String × Json)}
    (made : config defaults members = .ok c) :
    0 ≤ c.poolIndex ↔
      (Json.member? "config_param_index" members).isSome ∨ 0 ≤ defaults.poolIndex := by
  obtain ⟨-, index, -⟩ := config_ok made
  rcases optional_ok.mp index with ⟨j, member, read⟩ | ⟨absent, same⟩
  · have lower := integerFrom_lower read
    simp [member, lower]
  · simp [absent, same]

end Schema

namespace PoolCheck

theorem elementAt_error {α : Type} {xs : List α} {index : Int} (upper : index < xs.length) :
    elementAt xs index = .error {} ↔ xs.length + index < 0 := by
  unfold elementAt
  by_cases negative : index < 0
  · simp only [negative, if_true]
    by_cases before : index + xs.length < 0
    · simp only [before, if_true, true_iff]
      omega
    · have inside : (index + xs.length).toNat < xs.length := by omega
      simp only [before, if_false, List.getElem?_eq_getElem inside, reduceCtorEq, false_iff]
      omega
  · have inside : index.toNat < xs.length := by omega
    simp only [negative, if_false, List.getElem?_eq_getElem inside, reduceCtorEq, false_iff]
    omega

/-- The only way in which the check of a call fails, for settings that can be made: no argument is
named for the pool, there is an argument for every parameter, and the place of the pool counted
from the end lies in front of the first argument. -/
theorem perform_error {config : RuleConfig} (upper : config.poolIndex < config.parameterCount)
    (prior : List Diagnostic) (isTarget : CallSite → Bool) (site : CallSite) :
    perform config prior isTarget site = .error {} ↔
      isAnalyzed prior site isTarget ∧ namedValue? config.poolNames site.arguments = none ∧
        (site.arguments.length : Int) = config.parameterCount ∧
        config.parameterCount + config.poolIndex < 0 := by
  unfold perform
  cases analyzed : isAnalyzed prior site isTarget with
  | false => simp
  | true =>
    unfold poolArgument
    cases named : namedValue? config.poolNames site.arguments with
    | some value => simp
    | none =>
      by_cases full : (site.arguments.length : Int) = config.parameterCount
      · have failure : elementAt site.arguments config.poolIndex = .error {} ↔ _ :=
          elementAt_error (full ▸ upper)
        rw [full] at failure
        cases element : elementAt site.arguments config.poolIndex with
        | error fault =>
          rw [element] at failure
          have before := failure.mp rfl
          simp [full, before]
        | ok argument =>
          rw [element] at failure
          have notBefore : ¬ config.parameterCount + config.poolIndex < 0 := by
            intro before
            cases failure.mpr before
          cases argument <;> simp [full, notBefore]
      · simp [full]

end PoolCheck

namespace Schema

/-- Settings keep the place of the pool inside the parameter list, and no check of a call fails,
exactly when a document or the environment gives a natural number for it or neither gives one. In
any case the place lies in front of the end of the list, and calls fail only as described. -/
theorem config_inside_iff (e : Environment) (members : List (String × Json))
    (defaults c : RuleConfig) (defined : e.defaults = .ok defaults)
    (made : config defaults members = .ok c) :
    ((0 ≤ c.poolIndex ∧ c.poolIndex < c.parameterCount ∧
        ∀ prior isTarget site, ∃ outcome,
          PoolCheck.perform c prior isTarget site = .ok outcome) ↔
      (Json.member? "config_param_index" members).isSome ∨ e.HasNaturalIndex) ∧
    c.poolIndex < c.parameterCount ∧
    ∀ prior isTarget site,
      PoolCheck.perform c prior isTarget site = .error {} ↔
        PoolCheck.isAnalyzed prior site isTarget ∧
          PoolCheck.namedValue? c.poolNames site.arguments = none ∧
          (site.arguments.length : Int) = c.parameterCount ∧
          c.parameterCount + c.poolIndex < 0 := by
  have upper : c.poolIndex < c.parameterCount := (config_ok made).2.2
  have lower : 0 ≤ c.poolIndex ↔
      (Json.member? "config_param_index" members).isSome ∨ e.HasNaturalIndex := by
    rw [Environment.hasNaturalIndex_iff defined]
    exact config_lower_iff made
  refine ⟨⟨fun inside => lower.mp inside.1, ?_⟩, upper, PoolCheck.perform_error upper⟩
  intro given
  have natural := lower.mpr given
  refine ⟨natural, upper, ?_⟩
  intro prior isTarget site
  exact ⟨_, PoolCheck.perform_eq natural upper prior isTarget site⟩

def thirdPlace : Environment := ⟨none, none, none, some "2"⟩

theorem thirdPlace_inside :
    ∃ defaults c, thirdPlace.defaults = .ok defaults ∧ config defaults [] = .ok c ∧
      0 ≤ c.poolIndex ∧ c.poolIndex < c.parameterCount ∧
      ∀ prior isTarget site, ∃ outcome,
        PoolCheck.perform c prior isTarget site = .ok outcome := by
  have defined : thirdPlace.defaults =
      .ok ⟨["jdbc.Client"], ["connectionPool", "connection_pool"], 5, 2⟩ := rfl
  have made : config ⟨["jdbc.Client"], ["connectionPool", "connection_pool"], 5, 2⟩ [] =
      .ok ⟨["jdbc.Client"], ["connectionPool", "connection_pool"], 5, 2⟩ := rfl
  refine ⟨_, _, defined, made, (config_inside_iff _ _ _ _ defined made).1.mpr (.inr ?_)⟩
  intro s n set read
  cases set
  have value : Numeral.readInteger "2" = .ok 2 := rfl
  rw [value] at read
  cases read
  decide

/-- An environment that puts the pool six places in front of the end of a list of five. -/
def beforeFirst : Environment := ⟨none, none, none, some "-6"⟩

def fullCall : CallSite :=
  ⟨"jdbc.Client", List.replicate 5 (.positional (.other "identifier" "u" default)), default⟩

/-- Settings can be made whose pool stands nowhere, and the check of a call with five arguments then
fails. -/
theorem beforeFirst_fails :
    ¬ ∀ e members defaults c, Environment.defaults e = .ok defaults →
      config defaults members = .ok c →
      0 ≤ c.poolIndex ∧ c.poolIndex < c.parameterCount ∧
        ∀ prior isTarget site, ∃ outcome,
          PoolCheck.perform c prior isTarget site = .ok outcome := by
  intro always
  have defined : beforeFirst.defaults =
      .ok ⟨["jdbc.Client"], ["connectionPool", "connection_pool"], 5, -6⟩ := rfl
  have made : config ⟨["jdbc.Client"], ["connectionPool", "connection_pool"], 5, -6⟩ [] =
      .ok ⟨["jdbc.Client"], ["connectionPool", "connection_pool"], 5, -6⟩ := rfl
  obtain ⟨-, -, succeeds⟩ := always beforeFirst [] _ _ defined made
  obtain ⟨outcome, ends⟩ := succeeds [] (fun _ => true) fullCall
  cases ends

end Schema

end PoolLint
