import Mathlib.Data.List.Forall2
import PoolLint.Proofs.CheckedCalls

/-! What the check of one call reports, told by its arguments alone. A call that is checked and passes
on a record is searched field by field: each field is judged by its own key and its own value, and
what the others hold makes no difference to it. -/
namespace PoolLint.PoolCheck

def Spells (key : PoolKey) (name : String) : Prop := name = key.name ∨ name ∈ key.aliases

/-- A value that is written out, with its text: a literal, or an operator in front of a literal. -/
inductive Written : Expr → String → Prop
  | literal (kind : LiteralKind) (text : String) (place : Location) :
      Written (.literal kind text place) text
  | signed (operator text whole : String) (kind : LiteralKind) (inner place : Location) :
      Written (.unary operator (.literal kind text inner) whole place) (operator ++ text)

/-- A field sets a setting to a number that is not at least the least one allowed. -/
inductive Low (key : PoolKey) (field : Field) : Prop
  | intro (name text : String) (n : Number) (keyed : field.key = some name)
      (spelled : Spells key (plainToken name)) (written : Written field.value text)
      (read : Number.read? (PoolRule.of key).kind (plainToken text) = some n)
      (low : ¬ n.atLeast (PoolRule.of key).minimum)

inductive FieldFindings (field : Field) : List Diagnostic → Prop
  | low (key : PoolKey) (low : Low key field) :
      FieldFindings field [Diagnostic.of (PoolRule.of key).finding field.value.location]
  | fine (fine : ∀ key, ¬ Low key field) : FieldFindings field []

def IsUnnamed (names : List String) (arguments : List Argument) : Prop :=
  ∀ a ∈ arguments, ∀ n v, a = .named n v → n ∉ names

/-- The argument that holds the pool: the first one with a name of the pool; without one, and with an
argument for every parameter, the positional one in the place of the pool. -/
inductive Holds (config : RuleConfig) (arguments : List Argument) : Expr → Prop
  | named (before after : List Argument) (name : String) (value : Expr)
      (split : arguments = before ++ .named name value :: after)
      (first : IsUnnamed config.poolNames before) (chosen : name ∈ config.poolNames) : Holds config arguments value
  | placed (value : Expr)
      (unnamed : IsUnnamed config.poolNames arguments)
      (full : (arguments.length : Int) = config.parameterCount)
      (place : arguments[config.poolIndex.toNat]? = some (.positional value)) :
      Holds config arguments value

/-- The fields of the record that a call passes on as the pool, if the call is checked at all. -/
inductive CheckedFields (config : RuleConfig) (prior : List Diagnostic)
    (isTarget : CallSite → Bool) (site : CallSite) : List Field → Prop
  | intro (fields : List Field) (text : String) (place : Location)
      (clean : ∀ d ∈ prior, d.severity ≠ .error) (target : isTarget site = true)
      (held : Holds config site.arguments (.record fields text place)) :
      CheckedFields config prior isTarget site fields

/-- What is reported for a call: the findings of its fields one after the other, or nothing where
there are no fields to check. -/
inductive Reported (config : RuleConfig) (prior : List Diagnostic) (isTarget : CallSite → Bool)
    (site : CallSite) : List Diagnostic → Prop
  | fields (fields : List Field) (groups : List (List Diagnostic))
      (checked : CheckedFields config prior isTarget site fields)
      (each : List.Forall₂ FieldFindings fields groups) :
      Reported config prior isTarget site groups.flatten
  | nothing (unchecked : ∀ fields, ¬ CheckedFields config prior isTarget site fields) :
      Reported config prior isTarget site []

theorem lookup?_iff (name : String) (key : PoolKey) :
    PoolKey.lookup? name = some key ↔ Spells key name := by
  constructor
  · intro found
    unfold PoolKey.lookup? at found
    split at found
    · rename_i named
      cases found
      have same : key.name = name := by simpa using List.find?_some named
      exact .inl same.symm
    · exact .inr (by simpa using List.find?_some found)
  · rintro (rfl | listed)
    · cases key <;> rfl
    · cases key <;> simp only [PoolKey.aliases, List.mem_cons, List.not_mem_nil, or_false] at listed
      · subst listed; decide +kernel
      · subst listed; decide +kernel
      · rcases listed with rfl | rfl <;> decide +kernel

theorem readableText?_iff (value : Expr) (token : String) :
    readableText? value = some token ↔ ∃ text, Written value text ∧ plainToken text = token := by
  constructor
  · intro readable
    unfold readableText? at readable
    split at readable
    · exact ⟨_, .literal _ _ _, Option.some.inj readable⟩
    · exact ⟨_, .signed _ _ _ _ _ _, Option.some.inj readable⟩
    · cases readable
  · rintro ⟨text, written, rfl⟩
    cases written <;> rfl

theorem isTooLow_true (key : PoolKey) (token : String) : isTooLow key token = true ↔
    ∃ n, Number.read? (PoolRule.of key).kind token = some n ∧
      ¬ n.atLeast (PoolRule.of key).minimum := by
  simp [isTooLow, Option.any_eq_true]

/-- The setting that a field sets too low, if it does. -/
def lowKey? (field : Field) : Option PoolKey :=
  field.key.bind fun name => tooLow? (plainToken name) field.value

theorem lowKey?_iff (field : Field) (key : PoolKey) : lowKey? field = some key ↔ Low key field := by
  simp only [lowKey?, tooLow?, Option.bind_eq_some_iff, Option.filter_eq_some_iff,
    Option.any_eq_true, lookup?_iff, readableText?_iff, isTooLow_true]
  constructor
  · rintro ⟨name, keyed, spelled, _, ⟨text, written, rfl⟩, n, read, low⟩
    exact ⟨name, text, n, keyed, spelled, written, read, low⟩
  · rintro ⟨name, text, n, keyed, spelled, written, read, low⟩
    exact ⟨name, keyed, spelled, _, ⟨text, written, rfl⟩, n, read, low⟩

def fieldFindings (field : Field) : List Diagnostic :=
  ((lowKey? field).map (findingOf · field.value.location)).toList

theorem fieldFindings_iff (field : Field) (group : List Diagnostic) :
    FieldFindings field group ↔ fieldFindings field = group := by
  unfold fieldFindings
  constructor
  · rintro (⟨key, low⟩ | fine)
    · rw [(lowKey?_iff field key).mpr low]
      rfl
    · have none : lowKey? field = none :=
        Option.eq_none_iff_forall_ne_some.mpr fun key found => fine key ((lowKey?_iff field key).mp found)
      rw [none]
      rfl
  · rintro rfl
    cases found : lowKey? field with
    | none =>
      refine .fine fun key low => ?_
      rw [(lowKey?_iff field key).mpr low] at found
      cases found
    | some key => exact .low key ((lowKey?_iff field key).mp found)

/-- The findings of fields, taken one by one, are determined by the fields. -/
theorem forall₂_fieldFindings (fields : List Field) (groups : List (List Diagnostic)) :
    List.Forall₂ FieldFindings fields groups ↔ fields.map fieldFindings = groups := by
  have each : FieldFindings = fun field group => fieldFindings field = group := by
    funext field group
    exact propext (fieldFindings_iff field group)
  rw [each, ← List.forall₂_map_left_iff, List.forall₂_eq_eq_eq]

theorem checkPool_record (fields : List Field) (text : String) (place : Location) :
    (checkPool (.record fields text place)).diagnostics = (fields.map fieldFindings).flatten := by
  rw [checkPool_diagnostics]
  simp only [settings?, Option.getD_some]
  induction fields with
  | nil => rfl
  | cons field rest ih =>
    rw [List.map_cons, List.flatten_cons, ← ih]
    cases keyed : field.key with
    | none => simp [keyed, fieldFindings, lowKey?]
    | some name =>
      cases low : tooLow? (plainToken name) field.value <;>
        simp [keyed, low, fieldFindings, lowKey?]

theorem checkPool_other (pool : Expr)
    (noRecord : ∀ fields text place, pool ≠ .record fields text place) :
    (checkPool pool).diagnostics = [] := by
  cases pool with
  | record fields text place => exact absurd rfl (noRecord fields text place)
  | literal => rfl
  | unary => rfl
  | other => rfl

theorem namedValue?_skip {names : List String} {before : List Argument}
    (unnamed : IsUnnamed names before) (rest : List Argument) :
    namedValue? names (before ++ rest) = namedValue? names rest := by
  induction before with
  | nil => rfl
  | cons a before ih =>
    obtain ⟨first, others⟩ := List.forall_mem_cons.mp unnamed
    cases a with
    | positional value => exact ih others
    | named name value =>
      have differs : name ∉ names := first name value rfl
      simp [namedValue?, differs, ih others]

theorem namedValue?_eq_none (names : List String) (arguments : List Argument) :
    namedValue? names arguments = none ↔ IsUnnamed names arguments := by
  constructor
  · intro absent
    induction arguments with
    | nil => simp [IsUnnamed]
    | cons a rest ih =>
      cases a with
      | positional value => exact List.forall_mem_cons.mpr ⟨by simp, ih absent⟩
      | named name value =>
        by_cases chosen : name ∈ names
        · simp [namedValue?, chosen] at absent
        · refine List.forall_mem_cons.mpr ⟨?_, ih (by simpa [namedValue?, chosen] using absent)⟩
          rintro _ _ ⟨⟩
          exact chosen
  · intro unnamed
    simpa [namedValue?] using namedValue?_skip unnamed []

theorem namedValue?_eq_some (names : List String) (arguments : List Argument) (value : Expr) :
    namedValue? names arguments = some value ↔ ∃ before after name,
      arguments = before ++ .named name value :: after ∧ IsUnnamed names before ∧ name ∈ names := by
  constructor
  · intro found
    induction arguments with
    | nil => cases found
    | cons a rest ih =>
      cases a with
      | positional other =>
        obtain ⟨before, after, name, rfl, unnamed, chosen⟩ := ih found
        refine ⟨.positional other :: before, after, name, rfl, ?_, chosen⟩
        exact List.forall_mem_cons.mpr ⟨by simp, unnamed⟩
      | named name other =>
        by_cases chosen : name ∈ names
        · have same : other = value := by simpa [namedValue?, chosen] using found
          subst same
          exact ⟨[], rest, name, rfl, by simp [IsUnnamed], chosen⟩
        · obtain ⟨before, after, later, rfl, unnamed, picked⟩ :=
            ih (by simpa [namedValue?, chosen] using found)
          refine ⟨.named name other :: before, after, later, rfl, ?_, picked⟩
          refine List.forall_mem_cons.mpr ⟨?_, unnamed⟩
          rintro _ _ ⟨⟩
          exact chosen
  · rintro ⟨before, after, name, rfl, unnamed, chosen⟩
    rw [namedValue?_skip unnamed]
    simp [namedValue?, chosen]

theorem holds_iff (config : RuleConfig) (arguments : List Argument) (value : Expr) :
    Holds config arguments value ↔ poolValue? config arguments = some value := by
  unfold poolValue?
  constructor
  · rintro (⟨before, after, name, _, split, first, chosen⟩ | ⟨_, unnamed, full, place⟩)
    · have found := (namedValue?_eq_some config.poolNames arguments value).mpr
        ⟨before, after, name, split, first, chosen⟩
      rw [found]
    · rw [(namedValue?_eq_none config.poolNames arguments).mpr unnamed, if_pos full, place]
  · intro held
    split at held
    · rename_i named
      cases held
      obtain ⟨before, after, name, split, first, chosen⟩ :=
        (namedValue?_eq_some config.poolNames arguments value).mp named
      exact .named before after name value split first chosen
    · rename_i absent
      have unnamed := (namedValue?_eq_none config.poolNames arguments).mp absent
      split at held
      · rename_i full
        split at held
        · rename_i place
          cases held
          exact .placed value unnamed full place
        · cases held
      · cases held

theorem isAnalyzed_iff (prior : List Diagnostic) (isTarget : CallSite → Bool) (site : CallSite) :
    isAnalyzed prior site isTarget = true ↔
      (∀ d ∈ prior, d.severity ≠ .error) ∧ isTarget site = true := by
  simp [isAnalyzed, isBlocked]

section Inside

variable {config : RuleConfig} (lower : 0 ≤ config.poolIndex)
  (upper : config.poolIndex < config.parameterCount)
include lower upper

theorem perform_checked {prior : List Diagnostic} {isTarget : CallSite → Bool} {site : CallSite}
    {fields : List Field} (checked : CheckedFields config prior isTarget site fields) :
    ∃ outcome, perform config prior isTarget site = .ok outcome ∧
      outcome.diagnostics = (fields.map fieldFindings).flatten := by
  obtain ⟨text, place, clean, target, held⟩ := checked
  have analyzed := (isAnalyzed_iff prior isTarget site).mpr ⟨clean, target⟩
  refine ⟨_, perform_eq lower upper prior isTarget site, ?_⟩
  rw [analyzed, (holds_iff config _ _).mp held]
  exact checkPool_record fields text place

theorem perform_unchecked {prior : List Diagnostic} {isTarget : CallSite → Bool} {site : CallSite}
    (unchecked : ∀ fields, ¬ CheckedFields config prior isTarget site fields) :
    ∃ outcome, perform config prior isTarget site = .ok outcome ∧ outcome.diagnostics = [] := by
  refine ⟨_, perform_eq lower upper prior isTarget site, ?_⟩
  cases analyzed : isAnalyzed prior site isTarget with
  | false => rfl
  | true =>
    obtain ⟨clean, target⟩ := (isAnalyzed_iff prior isTarget site).mp analyzed
    cases held : poolValue? config site.arguments with
    | none => rfl
    | some pool =>
      refine checkPool_other pool fun fields text place same => ?_
      subst same
      exact unchecked fields (.intro fields text place clean target ((holds_iff _ _ _).mpr held))

end Inside

/-- The check of a call never fails, and it reports just what its fields give rise to. -/
theorem perform_reports (config : RuleConfig) (prior : List Diagnostic)
    (isTarget : CallSite → Bool) (site : CallSite) (lower : 0 ≤ config.poolIndex)
    (upper : config.poolIndex < config.parameterCount) :
    ∃ outcome, perform config prior isTarget site = .ok outcome ∧
      ∀ found, Reported config prior isTarget site found ↔ found = outcome.diagnostics := by
  by_cases checked : ∃ fields, CheckedFields config prior isTarget site fields
  · obtain ⟨fields, checked⟩ := checked
    obtain ⟨outcome, made, whole⟩ := perform_checked lower upper checked
    refine ⟨outcome, made, fun found => ?_⟩
    constructor
    · rintro (⟨others, groups, alsoChecked, each⟩ | unchecked)
      · obtain ⟨_, alsoMade, alsoWhole⟩ := perform_checked lower upper alsoChecked
        cases made.symm.trans alsoMade
        rw [alsoWhole, (forall₂_fieldFindings others groups).mp each]
      · exact absurd checked (unchecked fields)
    · rintro rfl
      rw [whole]
      exact .fields fields _ checked ((forall₂_fieldFindings fields _).mpr rfl)
  · have unchecked := not_exists.mp checked
    obtain ⟨outcome, made, empty⟩ := perform_unchecked lower upper unchecked
    refine ⟨outcome, made, fun found => ?_⟩
    rw [empty]
    constructor
    · rintro (⟨fields, groups, checked, each⟩ | _)
      · exact absurd checked (unchecked fields)
      · rfl
    · rintro rfl
      exact .nothing unchecked

/-- A call whose pool sets one setting twice, too low both times, another one to something that is
not written out, and holds entries without a key and with an unknown one. -/
def mixedSite : CallSite :=
  let place : Location := ⟨⟨0, ["app.py"]⟩, 1, 1, 1, 1, 0, 0⟩
  let literal (text : String) : Expr := .literal .integer text place
  let entry (key : Option String) (value : Expr) : Field := .mk key value place
  ⟨"jdbc.Client", [.named "connectionPool" (.record [
      entry (some "\"maxOpenConnections\"") (literal "0"),
      entry none (.other "dictionary_splat" "**rest" place),
      entry (some "max_connection_lifetime") (.other "identifier" "size" place),
      entry (some "timeout") (literal "0"),
      entry (some "max_open_connections") (.unary "-" (literal "3") "-3" place)] "" place)], place⟩

theorem mixedSite_reports : 0 ≤ RuleConfig.standard.poolIndex ∧
    RuleConfig.standard.poolIndex < RuleConfig.standard.parameterCount ∧
    ∃ outcome, perform .standard [] (fun _ => true) mixedSite = .ok outcome ∧
      outcome.diagnostics.map (·.code) = ["SQL_101", "SQL_101"] ∧
      ∀ found, Reported .standard [] (fun _ => true) mixedSite found ↔
        found = outcome.diagnostics := by
  obtain ⟨outcome, made, reported⟩ := perform_reports .standard [] (fun _ => true) mixedSite
    (by decide) (by decide)
  have codes : (perform .standard [] (fun _ => true) mixedSite).map
      (·.diagnostics.map (·.code)) = .ok ["SQL_101", "SQL_101"] := by decide +kernel
  rw [made] at codes
  exact ⟨by decide, by decide, outcome, made, Except.ok.inj codes, reported⟩

end PoolLint.PoolCheck
