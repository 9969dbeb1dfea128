import PoolLint.Proofs.CheckedCalls
import PoolLint.Proofs.RewrappedTrees

/-! Calls whose arguments correspond to each other one by one. If the values are related and related
values are checked alike, the checks of the calls end alike: with outcomes that read the same, or with
the same failure. -/
namespace PoolLint.PoolCheck
open Syntax.Node

/-- Arguments that are both positional, or have the same name, and hold related values. -/
inductive SameForm (R : Expr → Expr → Prop) : Argument → Argument → Prop
  | positional {a b : Expr} (values : R a b) : SameForm R (.positional a) (.positional b)
  | named {a b : Expr} (name : String) (values : R a b) :
      SameForm R (.named name a) (.named name b)

section Related

variable {R : Expr → Expr → Prop} {as bs : List Argument} (pairs : List.Forall₂ (SameForm R) as bs)
include pairs

theorem namedValue?_related (names : List String) :
    Option.Rel R (namedValue? names as) (namedValue? names bs) := by
  induction pairs with
  | nil => exact .none
  | cons pair rest ih =>
    cases pair with
    | positional values => exact ih
    | named name values =>
      rw [namedValue?, namedValue?]
      split
      · exact .some values
      · exact ih

theorem elementAt_related (index : Int) :
    elementAt as index = .error {} ∧ elementAt bs index = .error {} ∨
      ∃ a b, elementAt as index = .ok a ∧ elementAt bs index = .ok b ∧ SameForm R a b := by
  unfold elementAt
  rw [pairs.length_eq]
  generalize (if index < 0 then index + (bs.length : Int) else index) = position
  dsimp only
  split
  · exact .inl ⟨rfl, rfl⟩
  · rcases missing_or_related (getElem?_related pairs _) with ⟨left, right⟩ | ⟨a, b, left, right, pair⟩
    · rw [left, right]
      exact .inl ⟨rfl, rfl⟩
    · rw [left, right]
      exact .inr ⟨a, b, rfl, rfl, pair⟩

theorem poolArgument_related (names : List String) (count index : Int) :
    poolArgument as names count index = .error {} ∧ poolArgument bs names count index = .error {} ∨
      ∃ a b, poolArgument as names count index = .ok a ∧
        poolArgument bs names count index = .ok b ∧ Option.Rel R a b := by
  unfold poolArgument
  rcases missing_or_related (namedValue?_related pairs names) with
    ⟨left, right⟩ | ⟨a, b, left, right, values⟩
  · rw [left, right, pairs.length_eq]
    dsimp only
    split
    · exact .inr ⟨_, _, rfl, rfl, .none⟩
    · rcases elementAt_related pairs index with ⟨left, right⟩ | ⟨a, b, left, right, pair⟩
      · rw [left, right]
        exact .inl ⟨rfl, rfl⟩
      · rw [left, right]
        cases pair with
        | positional values => exact .inr ⟨_, _, rfl, rfl, .some values⟩
        | named name values => exact .inr ⟨_, _, rfl, rfl, .none⟩
  · rw [left, right]
    exact .inr ⟨_, _, rfl, rfl, .some values⟩

end Related

/-- Calls with arguments that correspond to each other are checked alike, in whatever is read off the
outcomes: related values have to be checked alike, and both calls or neither construct a target. -/
theorem perform_related {β : Type} (read : Outcome → β) {R : Expr → Expr → Prop}
    {site site' : CallSite} (pairs : List.Forall₂ (SameForm R) site.arguments site'.arguments)
    (pools : ∀ a b, R a b → read (checkPool a) = read (checkPool b)) (config : RuleConfig)
    (prior : List Diagnostic) {isTarget isTarget' : CallSite → Bool}
    (targets : isTarget site = isTarget' site') :
    (perform config prior isTarget site).map read =
      (perform config prior isTarget' site').map read := by
  unfold perform isAnalyzed
  rw [targets]
  split
  · rfl
  · rcases poolArgument_related pairs config.poolNames config.parameterCount config.poolIndex with
      ⟨left, right⟩ | ⟨a, b, left, right, values⟩
    · rw [left, right]
    · rw [left, right]
      cases values with
      | none => rfl
      | some values => exact congrArg Except.ok (pools _ _ values)

end PoolLint.PoolCheck
