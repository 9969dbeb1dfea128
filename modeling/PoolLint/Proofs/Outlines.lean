import PoolLint.Proofs.RelatedArguments
import PoolLint.Scan.Source

/-! The outline of a call: what is left of it without the texts that are mere excerpts of the source.
Those of records, of signed values and of anything that is no literal are never read, so a call and
its outline are checked alike. -/
namespace PoolLint

mutual

/-- An expression without the excerpts. The text of a literal is its value and stays. -/
def Expr.outline : Expr → Expr
  | .literal kind text place => .literal kind text place
  | .unary operator operand _ place => .unary operator operand.outline "" place
  | .record fields _ place => .record (Field.outlines fields) "" place
  | .other syntaxKind _ place => .other syntaxKind "" place

def Field.outline : Field → Field
  | .mk key value place => .mk key value.outline place

def Field.outlines : List Field → List Field
  | [] => []
  | f :: rest => f.outline :: Field.outlines rest

end

def Argument.outline : Argument → Argument
  | .positional value => .positional value.outline
  | .named name value => .named name value.outline

def CallSite.outline (site : CallSite) : CallSite :=
  ⟨site.callee, site.arguments.map Argument.outline, site.location⟩

@[simp] theorem Expr.location_outline (e : Expr) : e.outline.location = e.location := by
  cases e <;> rfl

@[simp] theorem Field.key_outline (f : Field) : f.outline.key = f.key := by
  cases f
  rfl

@[simp] theorem Field.value_outline (f : Field) : f.outline.value = f.value.outline := by
  cases f
  rfl

theorem Field.outlines_eq_map (fields : List Field) : outlines fields = fields.map outline := by
  induction fields with
  | nil => rfl
  | cons f rest ih => rw [outlines, ih, List.map_cons]

namespace PoolCheck

theorem settings?_outline (e : Expr) :
    settings? e.outline = (settings? e).map (·.map fun s => (s.1, s.2.outline)) := by
  cases e with
  | literal | unary | other => rfl
  | record fields text place =>
    simp only [Expr.outline, settings?, Field.outlines_eq_map, List.filterMap_map, Option.map_some,
      List.map_filterMap, Function.comp_def, Field.key_outline, Field.value_outline, Option.map_map]

theorem literalText_outline (default : String) (e : Expr) :
    literalText default e.outline = literalText default e := by
  cases e with
  | literal | record | other => rfl
  | unary operator operand text place => cases operand <;> rfl

theorem checkSettings_outline (settings : List (String × Expr)) :
    checkSettings (settings.map fun s => (s.1, s.2.outline)) = checkSettings settings := by
  induction settings with
  | nil => rfl
  | cons s rest ih =>
    simp only [List.map_cons, checkSettings, checkSetting, literalText_outline,
      Expr.location_outline, ih]

theorem checkPool_outline (pool : Expr) : checkPool pool.outline = checkPool pool := by
  unfold checkPool
  rw [settings?_outline, Expr.location_outline]
  cases settings? pool with
  | none => rfl
  | some settings => exact checkSettings_outline settings

theorem outline_sameForm (arguments : List Argument) :
    List.Forall₂ (SameForm fun a b => a = b.outline) (arguments.map Argument.outline)
      arguments := by
  induction arguments with
  | nil => exact .nil
  | cons argument rest ih =>
    cases argument with
    | positional value => exact .cons (.positional rfl) ih
    | named name value => exact .cons (.named name rfl) ih

theorem perform_outline (config : RuleConfig) (prior : List Diagnostic) {isTarget : CallSite → Bool}
    {site : CallSite} (targets : isTarget site.outline = isTarget site) :
    perform config prior isTarget site.outline = perform config prior isTarget site := by
  have checked := perform_related id (outline_sameForm site.arguments)
    (by rintro a b rfl; exact checkPool_outline b) config prior targets
  simpa only [Except.map_id, id] using checked

end PoolCheck

theorem Scan.checkSites_outline (config : RuleConfig) (facts : FileFacts) (sites : List CallSite) :
    checkSites config facts (sites.map CallSite.outline) = checkSites config facts sites := by
  induction sites with
  | nil => rfl
  | cons site rest ih =>
    have targets : facts.isTarget config.targets site.outline = facts.isTarget config.targets site :=
      rfl
    simp only [List.map_cons, checkSites, PoolCheck.perform_outline config facts.diagnostics targets,
      ih]

end PoolLint
