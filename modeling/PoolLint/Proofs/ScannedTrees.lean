import Mathlib.Data.List.Sigma
import PoolLint.Proofs.ReadingDepth
import PoolLint.Proofs.Shortfalls

/-! The scan of a tree reports its shortfalls, each exactly once, unless a value lies too deep: the
calls are met once each, the pool of a call is found in its arguments as it is in the tree, and every
entry of a record is read at its own position. -/
namespace PoolLint.Shortfall
open PoolLint.Syntax PoolCheck Lowering

def below? (name : String) (value : Node) : Option PoolKey :=
  (PoolKey.lookup? (plainToken name)).filter fun key =>
    (value.literalText?.map plainToken).any (isTooLow key)

def ofCall (config : RuleConfig) (place : List Nat) (call : Node) : List Shortfall :=
  match (poolNode? config call).bind Node.record? with
  | none => []
  | some (entries, read) => entries.zipIdx.filterMap fun e =>
    (read e.1).bind fun field => (below? field.1 field.2).map (⟨place, e.2, ·, field.2⟩)

def isTargetCall (config : RuleConfig) (root call : Node) : Bool :=
  call.kind == .call &&
    config.targets.contains (Imports.resolve (Imports.bindings root) (calleeText call))

def inTree (config : RuleConfig) (root : Node) : List Shortfall :=
  (root.placed.filter fun p => isTargetCall config root p.2).flatMap fun p => ofCall config p.1 p.2

private theorem isTooLow_iff (key : PoolKey) (text : String) :
    isTooLow key text = true ↔ ∃ n, Number.read? (PoolRule.of key).kind text = some n ∧
      ¬ n.atLeast (PoolRule.of key).minimum := by
  simp [isTooLow, Option.any_eq_true]

private theorem below?_eq_some (name : String) (value : Node) (key : PoolKey) :
    below? name value = some key ↔
      PoolKey.lookup? (plainToken name) = some key ∧ Below key value := by
  simp only [below?, Option.filter_eq_some_iff, Option.any_eq_true, Option.map_eq_some_iff]
  refine and_congr_right fun _ => ?_
  constructor
  · rintro ⟨_, ⟨text, written, rfl⟩, low⟩
    obtain ⟨n, read, low⟩ := (isTooLow_iff key _).mp low
    exact ⟨text, n, (written_iff value text).mpr written, read, low⟩
  · rintro ⟨text, n, written, read, low⟩
    exact ⟨_, ⟨text, (written_iff value text).mp written, rfl⟩, (isTooLow_iff key _).mpr ⟨n, read, low⟩⟩

theorem mem_ofCall (config : RuleConfig) (place : List Nat) (call : Node) (s : Shortfall) :
    s ∈ ofCall config place call ↔ s.call = place ∧ ∃ pool name, PoolNode config call pool ∧
      Entry pool s.entry name s.value ∧ PoolKey.lookup? (plainToken name) = some s.key ∧
      Below s.key s.value := by
  simp only [poolNode_iff, entry_iff]
  constructor
  · intro member
    simp only [ofCall] at member
    split at member
    · cases member
    · rename_i entries read record
      obtain ⟨pool, held, record⟩ := Option.bind_eq_some_iff.mp record
      obtain ⟨⟨entry, position⟩, inside, made⟩ := List.mem_filterMap.mp member
      obtain ⟨⟨name, value⟩, field, made⟩ := Option.bind_eq_some_iff.mp made
      obtain ⟨key, low, rfl⟩ := Option.map_eq_some_iff.mp made
      obtain ⟨recognised, below⟩ := (below?_eq_some _ _ _).mp low
      exact ⟨rfl, pool, name, held, ⟨entries, read, entry, record,
        List.mk_mem_zipIdx_iff_getElem?.mp inside, field⟩, recognised, below⟩
  · obtain ⟨callPlace, position, key, value⟩ := s
    rintro ⟨rfl, pool, name, held, ⟨entries, read, entry, record, place, field⟩, recognised, below⟩
    simp only [ofCall, held, record, Option.bind_some]
    refine List.mem_filterMap.mpr ⟨(entry, position), List.mk_mem_zipIdx_iff_getElem?.mpr place, ?_⟩
    simp [field, (below?_eq_some name value key).mpr ⟨recognised, below⟩]

/-- Within a call the positions of the entries tell its shortfalls apart. -/
theorem nodup_ofCall (config : RuleConfig) (place : List Nat) (call : Node) :
    (ofCall config place call).Nodup := by
  unfold ofCall
  split
  · exact List.nodup_nil
  · rename_i entries read record
    refine List.pairwise_filterMap.mpr ?_
    refine (List.pairwise_map.mp (List.nodup_zipIdx_map_snd entries)).imp ?_
    intro e f apart s first t second same
    obtain ⟨_, _, made⟩ := Option.bind_eq_some_iff.mp first
    obtain ⟨_, _, rfl⟩ := Option.map_eq_some_iff.mp made
    obtain ⟨_, _, made⟩ := Option.bind_eq_some_iff.mp second
    obtain ⟨_, _, rfl⟩ := Option.map_eq_some_iff.mp made
    exact apart (congrArg Shortfall.entry same)

theorem mem_inTree (config : RuleConfig) (root : Node) (s : Shortfall) :
    s ∈ inTree config root ↔ In config root s := by
  simp only [inTree, List.mem_flatMap, List.mem_filter, mem_ofCall, isTargetCall, Bool.and_eq_true,
    beq_iff_eq, List.contains_eq_mem, decide_eq_true_eq, Prod.exists, Node.mem_placed]
  constructor
  · rintro ⟨place, call, ⟨found, kind, target⟩, same, pool, name, holds, entry, recognised, below⟩
    obtain ⟨_, position, key, value⟩ := s
    cases same
    exact ⟨_, position, key, value, call, pool, name, _, found, kind,
      (Imports.expands_iff _ _ _).mpr rfl, target, holds, entry, recognised, below⟩
  · rintro ⟨place, position, key, value, call, pool, name, full, found, kind, expands, target, holds,
      entry, recognised, below⟩
    have resolved := (Imports.expands_iff _ _ _).mp expands
    exact ⟨place, call, ⟨found, kind, resolved ▸ target⟩, rfl, pool, name, holds, entry, recognised,
      below⟩

theorem nodup_inTree (config : RuleConfig) (root : Node) : (inTree config root).Nodup := by
  refine List.nodup_flatMap.mpr ⟨fun p _ => nodup_ofCall config p.1 p.2, ?_⟩
  have places := (List.pairwise_map.mp (Node.nodup_placed root)).filter
    fun p => isTargetCall config root p.2
  refine places.imp fun {p q} apart s first second => apart ?_
  rw [← ((mem_ofCall _ _ _ _).mp first).1, ← ((mem_ofCall _ _ _ _).mp second).1]

private theorem namedValue?_arguments (file : Path) (names : List String) (entries : List Node) :
    namedValue? names (entries.map fun n => (argumentOf file n).value) =
      (entries.findSome? (poolNamed? names)).map fun n => (exprOf file n).value := by
  induction entries with
  | nil => rfl
  | cons entry rest ih =>
    rw [List.map_cons, argumentOf_value file entry, List.findSome?_cons, poolNamed?]
    cases entry.named? with
    | none => exact ih
    | some field =>
      obtain ⟨name, value⟩ := field
      by_cases chosen : name ∈ names
      · simp [namedValue?, chosen, Option.filter]
      · simp only [namedValue?, List.contains_eq_mem, chosen, decide_false, Bool.false_eq_true,
          if_false, Option.filter, Option.map_none]
        exact ih

/-- The pool of a call has the settings of the node that holds it. A broken named argument in its
place would be no record. -/
private theorem poolValue?_settings (config : RuleConfig) (file : Path) (call : Node)
    (lower : 0 ≤ config.poolIndex) (upper : config.poolIndex < config.parameterCount) :
    (poolValue? config (callSiteOf file call).value.arguments).bind settings? =
      ((poolNode? config call).bind Node.fields?).map (·.map (settingAt file)) := by
  have settings (n : Node) := settings?_exprOf file n
  simp only [callSiteOf, argumentsOf, poolNode?]
  cases call.child? .arguments with
  | none =>
    have missing : (0 : Int) ≠ config.parameterCount := by omega
    simp [poolValue?, namedValue?, missing]
  | some arguments =>
    by_cases list : arguments.kind = .argumentList
    · simp only [list, beq_self_eq_true, if_true, List.map_map, Function.comp_def, poolValue?,
        namedValue?_arguments, List.length_map, Option.bind_some]
      cases arguments.entries.findSome? (poolNamed? config.poolNames) with
      | some value => simp [settings]
      | none =>
        by_cases full : (arguments.entries.length : Int) = config.parameterCount
        · simp only [full, if_true, List.getElem?_map, Option.map_none]
          cases arguments.entries[config.poolIndex.toNat]? with
          | none => rfl
          | some entry =>
            simp only [Option.map_some, argumentOf_value]
            by_cases keyword : entry.kind = .keywordArgument
            · have noRecord : entry.fields? = none := by simp [Node.fields?, Node.record?, keyword]
              cases entry.named? with
              | none => simp [settings, keyword, noRecord, Option.filter]
              | some field => simp [keyword, Option.filter]
            · have unnamed : entry.named? = none := by simp [Node.named?, keyword]
              simp [unnamed, settings, keyword, Option.filter]
        · simp [full]
    · simp only [list, beq_iff_eq, if_false, List.map_cons, List.map_nil, poolValue?, namedValue?,
        Option.bind_some]
      by_cases full : config.parameterCount = 1
      · have first : config.poolIndex.toNat = 0 := by omega
        simp [full, first, settings]
      · simp [full, Ne.symm full]

theorem tooLow?_settingAt (file : Path) (field : String × Node) :
    tooLow? (settingAt file field).1 (settingAt file field).2 = below? field.1 field.2 := by
  simp only [tooLow?, settingAt, readableText?_exprOf, below?]

/-- The positions of the entries do not show in what is reported. -/
theorem map_ofCall {α : Type} (f : PoolKey → Node → α) (config : RuleConfig) (place : List Nat)
    (call : Node) :
    (ofCall config place call).map (fun s => f s.key s.value) =
      (((poolNode? config call).bind Node.fields?).getD []).filterMap fun field =>
        (below? field.1 field.2).map (f · field.2) := by
  have fields : (poolNode? config call).bind Node.fields? =
      ((poolNode? config call).bind Node.record?).map fun r => r.1.filterMap r.2 := by
    cases poolNode? config call <;> rfl
  rw [fields, ofCall]
  cases (poolNode? config call).bind Node.record? with
  | none => rfl
  | some record =>
    obtain ⟨entries, read⟩ := record
    simp only [Option.map_some, Option.getD_some, List.map_filterMap, List.filterMap_filterMap]
    conv_rhs => rw [← List.zipIdx_map_fst 0 entries, List.filterMap_map]
    refine List.filterMap_congr fun e _ => ?_
    simp only [Function.comp_apply]
    cases read e.1 with
    | none => rfl
    | some field => simp [Option.map_map, Function.comp_def]

private theorem checkPool_call (config : RuleConfig) (file : Path) (place : List Nat) (call : Node)
    (lower : 0 ≤ config.poolIndex) (upper : config.poolIndex < config.parameterCount) :
    (((poolValue? config (callSiteOf file call).value.arguments).map checkPool).getD
      .none).diagnostics = (ofCall config place call).map (diagnostic file) := by
  have checked (pool : Option Expr) : ((pool.map checkPool).getD .none).diagnostics =
      ((pool.bind settings?).getD []).filterMap fun s =>
        (tooLow? s.1 s.2).map (findingOf · s.2.location) := by
    cases pool with
    | none => rfl
    | some pool => exact checkPool_diagnostics pool
  have reported := map_ofCall (fun key value => findingOf key (location file value.span)) config
    place call
  rw [checked, poolValue?_settings config file call lower upper]
  refine Eq.trans ?_ reported.symm
  cases (poolNode? config call).bind Node.fields? with
  | none => rfl
  | some fields =>
    simp only [Option.map_some, Option.getD_some, List.filterMap_map]
    refine List.filterMap_congr fun field _ => ?_
    simp only [Function.comp_apply, tooLow?_settingAt]
    simp [settingAt, exprOf_location]

end PoolLint.Shortfall

namespace PoolLint.Scan
open PoolLint.Syntax PoolCheck

theorem checkSites_eq (config : RuleConfig) (facts : FileFacts) (sites : List CallSite)
    (lower : 0 ≤ config.poolIndex) (upper : config.poolIndex < config.parameterCount) :
    (checkSites config facts sites).result = .ok ((sites.filter fun site =>
      isAnalyzed facts.diagnostics site (facts.isTarget config.targets)).flatMap fun site =>
        (((poolValue? config site.arguments).map checkPool).getD .none).diagnostics) := by
  induction sites with
  | nil => rfl
  | cons site rest ih =>
    simp only [checkSites, perform_eq lower upper, ih, Except.map, List.filter_cons]
    cases isAnalyzed facts.diagnostics site (facts.isTarget config.targets) with
    | true => rfl
    | false => rfl

theorem ofTree_shortfalls (config : RuleConfig) (file : Path) (root : Node)
    (lower : 0 ≤ config.poolIndex) (upper : config.poolIndex < config.parameterCount) :
    (ofTree config file none root).result =
      if root.Shallow then .ok ((Shortfall.inTree config root).map (Shortfall.diagnostic file))
      else .error .tooDeep := by
  have targets (p : List Nat × Node) :
      (isAnalyzed (FileFacts.of file none root).diagnostics (Lowering.callSiteOf file p.2).value
        ((FileFacts.of file none root).isTarget config.targets) && p.2.kind == .call) =
      Shortfall.isTargetCall config root p.2 := by
    simp only [isAnalyzed, isBlocked, FileFacts.of, FileFacts.isTarget, Shortfall.isTargetCall,
      Lowering.callSiteOf, Imports.resolve_squeezed]
    rw [Bool.and_comm]
    rfl
  rw [ofTree_result, checkSites_eq config _ _ lower upper]
  congr 2
  simp only [Lowering.callSites, Node.ofKind_eq_placed, List.map_map, List.filter_map,
    List.filter_filter, List.flatMap_map, Shortfall.inTree, List.map_flatMap, Function.comp_def,
    targets]
  exact List.flatMap_congr fun p _ => Shortfall.checkPool_call config file p.1 p.2 lower upper

theorem ofText_legal (config : RuleConfig) (file : Path) (cs : List Char) (root : Node)
    (parsed : Node.ofText? cs = some root) (legal : Legality.check cs = .legal) :
    ofText config file cs = ofTree config file none root := by
  simp [ofText, parsed, legal]

theorem exists_returned {config : RuleConfig} {file : Path} {cs : List Char}
    {test : List Diagnostic → Bool}
    (passes : (ofText config file cs).result.toOption.any test = true) :
    ∃ ds, (ofText config file cs).result = .ok ds ∧ test ds = true := by
  cases result : (ofText config file cs).result with
  | error fault =>
    rw [result] at passes
    cases passes
  | ok ds =>
    rw [result] at passes
    exact ⟨ds, rfl, passes⟩

/-- Unless a value given to a call lies too deep, the scan reports exactly one finding for each setting
of a target's pool that is written below its minimum, at the value of the setting, and no other. -/
theorem scan_reports_each_shortfall_once (config : RuleConfig) (file : Path) (root : Node)
    (lower : 0 ≤ config.poolIndex) (upper : config.poolIndex < config.parameterCount) :
    ∃ found : List Shortfall, found.Nodup ∧ (∀ s, s ∈ found ↔ Shortfall.In config root s) ∧
      (ofTree config file none root).result =
        (if root.Shallow then .ok (found.map (Shortfall.diagnostic file)) else .error .tooDeep) ∧
      ∀ cs, Node.ofText? cs = some root → Legality.check cs = .legal →
        (ofText config file cs).result =
          if root.Shallow then .ok (found.map (Shortfall.diagnostic file)) else .error .tooDeep := by
  refine ⟨Shortfall.inTree config root, Shortfall.nodup_inTree config root,
    Shortfall.mem_inTree config root, ofTree_shortfalls config file root lower upper, ?_⟩
  intro cs parsed legal
  rw [ofText_legal config file cs root parsed legal]
  exact ofTree_shortfalls config file root lower upper

/-- The tree of `jdbc.Client(connectionPool=dict(maxOpenConnections=0))`, without places, with further
arguments in front. -/
def lowPoolTree (others : List Node) : Node :=
  let part (kind : Kind) (role : Role) (text : String) (children : List Node) : Node :=
    .mk kind role text default children
  let setting := part .keywordArgument .plain "maxOpenConnections=0"
    [part .identifier .name "maxOpenConnections" [], part .integer .value "0" []]
  let pool := part .call .value "dict(maxOpenConnections=0)"
    [part .identifier .function "dict" [], part .argumentList .arguments "" [setting]]
  let argument := part .keywordArgument .plain "connectionPool=dict(maxOpenConnections=0)"
    [part .identifier .name "connectionPool" [], pool]
  part .module .plain "" [part .call .plain ""
    [part .attribute .function "jdbc.Client" [],
      part .argumentList .arguments "" (others ++ [argument])]]

theorem lowPoolTree_reported_once :
    0 ≤ RuleConfig.standard.poolIndex ∧
      RuleConfig.standard.poolIndex < RuleConfig.standard.parameterCount ∧
      (Shortfall.inTree RuleConfig.standard (lowPoolTree [])).length = 1 ∧
      ∃ found : List Shortfall, found.Nodup ∧
        (∀ s, s ∈ found ↔ Shortfall.In RuleConfig.standard (lowPoolTree []) s) ∧
        (ofTree RuleConfig.standard ⟨0, ["app.py"]⟩ none (lowPoolTree [])).result =
          .ok (found.map (Shortfall.diagnostic ⟨0, ["app.py"]⟩)) := by
  refine ⟨by decide, by decide, by decide +kernel, ?_⟩
  obtain ⟨found, once, exactly_, scanned, -⟩ := scan_reports_each_shortfall_once
    RuleConfig.standard ⟨0, ["app.py"]⟩ (lowPoolTree []) (by decide) (by decide)
  have shallow : (lowPoolTree []).Shallow := by decide +kernel
  rw [if_pos shallow] at scanned
  exact ⟨found, once, exactly_, scanned⟩

/-- With a number behind 1500 signs among the arguments nothing is returned. -/
theorem signedArgument_unreported :
    (ofTree RuleConfig.standard ⟨0, ["app.py"]⟩ none (lowPoolTree [Lowering.signedNumber 1500])).result =
        .error .tooDeep ∧
      ¬ ∃ found : List Shortfall, found.Nodup ∧
        (∀ s, s ∈ found ↔
          Shortfall.In RuleConfig.standard (lowPoolTree [Lowering.signedNumber 1500]) s) ∧
        (ofTree RuleConfig.standard ⟨0, ["app.py"]⟩ none
          (lowPoolTree [Lowering.signedNumber 1500])).result =
            .ok (found.map (Shortfall.diagnostic ⟨0, ["app.py"]⟩)) := by
  have deep : ¬ (lowPoolTree [Lowering.signedNumber 1500]).Shallow :=
    Lowering.not_shallow [0] rfl rfl rfl rfl List.mem_cons_self rfl
      (Lowering.readsOn_signedNumber 1500) (by decide)
  have stopped : (ofTree RuleConfig.standard ⟨0, ["app.py"]⟩ none
      (lowPoolTree [Lowering.signedNumber 1500])).result = .error .tooDeep := by
    rw [ofTree_result, if_neg deep]
  refine ⟨stopped, ?_⟩
  rintro ⟨found, -, -, scanned⟩
  rw [stopped] at scanned
  cases scanned

end PoolLint.Scan
