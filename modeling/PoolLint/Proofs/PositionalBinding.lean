import PoolLint.Legality.Argument
import PoolLint.Proofs.LoweredNodes

/-! What a call passes on by position, set beside the place in which the pool is looked for. Every
entry of an argument list counts as one place there, whatever it is. A spread sequence passes on any
number of values, so the place is right for all of them only where nothing is spread before it. -/
namespace PoolLint.Binding
open PoolLint.Syntax Lowering PoolCheck

inductive Shape where
  | plain
  | keyword
  | iterable
  | mapping
  deriving DecidableEq

def shapeOf (n : Node) : Shape :=
  match n.kind with
  | .keywordArgument => .keyword
  | .listSplat => .iterable
  | .dictionarySplat => .mapping
  | _ => .plain

/-- The entries of a call with their shapes, in source order. A comprehension without parentheses of
its own is the only one. -/
def entriesOf (call : Node) : List (Shape × Node) :=
  match call.child? .arguments with
  | none => []
  | some arguments =>
    if arguments.kind = .argumentList then arguments.entries.map fun n => (shapeOf n, n)
    else [(.plain, arguments)]

/-- A value that is passed on by position: that of a whole entry, or one that an entry spreads. -/
inductive Passed where
  | whole (entry : Nat)
  | element (entry number : Nat)
  deriving DecidableEq

def passedBy (counts : Nat → Nat) (entry : Nat) : Shape → List Passed
  | .plain => [.whole entry]
  | .iterable => (List.range (counts entry)).map (.element entry)
  | .keyword | .mapping => []

/-- The values that entries pass on by position, counted from an entry on. -/
def passed (counts : Nat → Nat) : Nat → List Shape → List Passed
  | _, [] => []
  | entry, s :: rest => passedBy counts entry s ++ passed counts (entry + 1) rest

/-- The entries stand in an order that the language allows, and no line is continued between
them. -/
def IsOrdered (call : Node) : Prop :=
  ∀ arguments, call.child? .arguments = some arguments → arguments.kind = .argumentList →
    (∀ n ∈ arguments.children, n.kind ≠ .lineContinuation) ∧
      Legality.fromMisplaced .plain (Legality.parts arguments) = []

section Values

variable (counts : Nat → Nat)

theorem passed_append (entry : Nat) (first second : List Shape) :
    passed counts entry (first ++ second) =
      passed counts entry first ++ passed counts (entry + first.length) second := by
  induction first generalizing entry with
  | nil => rfl
  | cons s first ih =>
    have shift : entry + 1 + first.length = entry + (first.length + 1) := by omega
    simp only [List.cons_append, passed, ih, List.append_assoc, List.length_cons, shift]

theorem whole_mem_passed {entry start : Nat} {shapes : List Shape}
    (member : .whole entry ∈ passed counts start shapes) :
    ∃ k, entry = start + k ∧ shapes[k]? = some .plain := by
  induction shapes generalizing start with
  | nil => cases member
  | cons s rest ih =>
    rcases List.mem_append.mp member with here | later
    · cases s with
      | plain =>
        cases List.mem_singleton.mp here
        exact ⟨0, rfl, rfl⟩
      | iterable =>
        obtain ⟨number, -, other⟩ := List.mem_map.mp here
        cases other
      | keyword => cases here
      | mapping => cases here
    · obtain ⟨k, same, found⟩ := ih later
      exact ⟨k + 1, by omega, found⟩

theorem passed_plain {shapes : List Shape} (plain : ∀ s ∈ shapes, s = .plain) (start : Nat) :
    passed counts start shapes = (List.range' start shapes.length).map .whole := by
  induction shapes generalizing start with
  | nil => rfl
  | cons s rest ih =>
    obtain ⟨rfl, others⟩ := List.forall_mem_cons.mp plain
    simp [passed, passedBy, ih others, List.range'_succ]

theorem passed_halves {shapes : List Shape} {place : Nat} (inside : place < shapes.length) :
    passed counts 0 shapes =
      passed counts 0 (shapes.take place) ++ passed counts place (shapes.drop place) := by
  have length : (shapes.take place).length = place := List.length_take_of_le (by omega)
  have split := passed_append counts 0 (shapes.take place) (shapes.drop place)
  rw [List.take_append_drop, length, Nat.zero_add] at split
  exact split

theorem passed_behind_plain {shapes : List Shape} {place : Nat} (inside : place < shapes.length)
    (plain : shapes[place] = .plain) (before : ∀ s ∈ shapes.take place, s = .plain) :
    (passed counts 0 shapes)[place]? = some (.whole place) := by
  have length : (shapes.take place).length = place := List.length_take_of_le (by omega)
  rw [passed_halves counts inside, passed_plain counts before, List.drop_eq_getElem_cons inside,
    plain, List.getElem?_append_right (by simp [length])]
  simp [length, passed, passedBy]

end Values

theorem long_passed {shapes : List Shape} (spread : .iterable ∈ shapes) (start many : Nat) :
    many ≤ (passed (fun _ => many) start shapes).length := by
  obtain ⟨before, after, rfl⟩ := List.append_of_mem spread
  simp only [passed_append, passed, passedBy, List.length_append, List.length_map,
    List.length_range]
  omega

theorem unspread_of_passed {shapes : List Shape} {place : Nat} (inside : place < shapes.length)
    (always : ∀ counts, (passed counts 0 shapes)[place]? = some (.whole place)) :
    .iterable ∉ shapes.take place := by
  intro spread
  -- enough values before the place push the entry behind it
  have many := long_passed spread 0 (place + 1)
  have moved := always fun _ => place + 1
  rw [passed_halves _ inside, List.getElem?_append_left (by omega)] at moved
  obtain ⟨k, same, found⟩ := whole_mem_passed _ (List.mem_of_getElem? moved)
  have short := (List.getElem?_eq_some_iff.mp found).1
  rw [List.length_take] at short
  omega

/-- A plain entry has its own place among the values passed on, however much is spread, exactly when
nothing is spread before it. -/
theorem passed_at_iff {shapes : List Shape} {place : Nat} (inside : place < shapes.length)
    (order : shapes[place]? = some .plain →
      ∀ s ∈ shapes.take place, s = .plain ∨ s = .iterable) :
    (∀ counts, (passed counts 0 shapes)[place]? = some (.whole place)) ↔
      shapes[place]? = some .plain ∧ .iterable ∉ shapes.take place := by
  constructor
  · intro always
    obtain ⟨k, same, plain⟩ := whole_mem_passed _ (List.mem_of_getElem? (always fun _ => 0))
    rw [Nat.zero_add] at same
    subst same
    exact ⟨plain, unspread_of_passed inside always⟩
  · rintro ⟨plain, unspread⟩ counts
    have before : ∀ s ∈ shapes.take place, s = .plain := by
      intro s member
      rcases order plain s member with same | spread
      · exact same
      · exact absurd (spread ▸ member) unspread
    obtain ⟨_, here⟩ := List.getElem?_eq_some_iff.mp plain
    exact passed_behind_plain counts inside here before

section Order

open Legality (ArgumentStage fromMisplaced)

theorem fromMisplaced_cons {stage : ArgumentStage} {n : Node} {rest : List Node}
    (ordered : fromMisplaced stage (n :: rest) = []) :
    ∃ next, stage.after? n = some next ∧ fromMisplaced next rest = [] := by
  unfold fromMisplaced at ordered
  split at ordered
  · rename_i next allowed
    exact ⟨next, allowed, ordered⟩
  · cases ordered

theorem plain_iff (n : Node) : shapeOf n = .plain ↔
    n.kind ≠ .keywordArgument ∧ n.kind ≠ .listSplat ∧ n.kind ≠ .dictionarySplat := by
  unfold shapeOf
  split <;> simp_all

theorem stage_of_plain {stage next : ArgumentStage} {n : Node} (plain : shapeOf n = .plain)
    (allowed : stage.after? n = some next) : stage = .plain := by
  obtain ⟨noKeyword, noIterable, noMapping⟩ := (plain_iff n).mp plain
  unfold ArgumentStage.after? at allowed
  split at allowed
  case h_6 => rfl
  case h_7 => cases allowed
  all_goals contradiction

theorem shape_of_stage {stage : ArgumentStage} {n : Node}
    (allowed : stage.after? n = some .plain) :
    stage = .plain ∧ (shapeOf n = .plain ∨ shapeOf n = .iterable) := by
  unfold ArgumentStage.after? at allowed
  split at allowed
  · cases allowed
  · rename_i behind
    exact absurd (Option.some.inj allowed) behind
  · cases allowed
  · cases allowed
  · rename_i kind _
    exact ⟨Option.some.inj allowed, .inr (by simp [shapeOf, kind])⟩
  · rename_i noKeyword noMapping noIterable
    exact ⟨rfl, .inl ((plain_iff n).mpr ⟨noKeyword, noIterable, noMapping⟩)⟩
  · cases allowed

/-- In an order that the language allows, all entries before a plain one are plain or spread. -/
theorem shapes_before {stage : ArgumentStage} {before after : List Node} {n : Node}
    (ordered : fromMisplaced stage (before ++ n :: after) = []) (plain : shapeOf n = .plain) :
    stage = .plain ∧ ∀ b ∈ before, shapeOf b = .plain ∨ shapeOf b = .iterable := by
  induction before generalizing stage with
  | nil =>
    obtain ⟨next, allowed, -⟩ := fromMisplaced_cons ordered
    refine ⟨stage_of_plain plain allowed, ?_⟩
    intro b member
    cases member
  | cons b before ih =>
    obtain ⟨next, allowed, behind⟩ := fromMisplaced_cons ordered
    obtain ⟨rfl, others⟩ := ih behind
    obtain ⟨first, shape⟩ := shape_of_stage allowed
    exact ⟨first, List.forall_mem_cons.mpr ⟨shape, others⟩⟩

theorem parts_eq_entries {arguments : Node}
    (straight : ∀ n ∈ arguments.children, n.kind ≠ .lineContinuation) :
    Legality.parts arguments = arguments.entries := by
  unfold Legality.parts Node.entries Node.namedChildren
  rw [List.filter_filter]
  apply List.filter_congr
  intro n member
  have noBreak : (n.kind == .lineContinuation) = false := beq_false_of_ne (straight n member)
  rw [noBreak, Bool.or_false, Bool.not_or, Bool.and_comm]
  rfl

theorem IsOrdered.shapes {call : Node} (ordered : IsOrdered call) {place : Nat}
    (plain : ((entriesOf call).map Prod.fst)[place]? = some .plain) :
    ∀ s ∈ ((entriesOf call).map Prod.fst).take place, s = .plain ∨ s = .iterable := by
  unfold entriesOf at plain ⊢
  split at plain
  · cases plain
  · rename_i arguments found
    split at plain
    · rename_i list
      obtain ⟨straight, order⟩ := ordered arguments found list
      rw [parts_eq_entries straight] at order
      simp only [list, if_true, List.map_map, ← List.map_take] at plain ⊢
      rw [List.getElem?_map] at plain
      obtain ⟨n, here, shape⟩ := Option.map_eq_some_iff.mp plain
      obtain ⟨inside, rfl⟩ := List.getElem?_eq_some_iff.mp here
      rw [← List.take_append_drop place arguments.entries, List.drop_eq_getElem_cons inside]
        at order
      obtain ⟨-, before⟩ := shapes_before order shape
      intro s member
      obtain ⟨b, isBefore, rfl⟩ := List.mem_map.mp member
      exact before b isBefore
    · rename_i bare
      have first : place = 0 := by
        have inside := (List.getElem?_eq_some_iff.mp plain).1
        simpa using inside
      simp [first]

end Order

section Resolved

def argumentAt (file : Path) (entry : Shape × Node) : Argument :=
  match entry.1, entry.2.named? with
  | .keyword, some (name, value) => .named name (exprOf file value).value
  | _, _ => .positional (exprOf file entry.2).value

theorem argumentOf_eq (file : Path) (n : Node) :
    (argumentOf file n).value = argumentAt file (shapeOf n, n) := by
  rw [argumentOf_value]
  unfold argumentAt
  by_cases keyword : n.kind = .keywordArgument
  · have shape : shapeOf n = .keyword := by simp [shapeOf, keyword]
    simp only [shape]
    cases n.named? <;> rfl
  · have unnamed : n.named? = none := by simp [Node.named?, keyword]
    simp only [unnamed]
    cases shapeOf n <;> rfl

theorem arguments_eq (file : Path) (call : Node) :
    (callSiteOf file call).value.arguments = (entriesOf call).map (argumentAt file) := by
  change (argumentsOf file call).map (·.value) = _
  unfold argumentsOf entriesOf
  cases call.child? .arguments with
  | none => rfl
  | some arguments =>
    by_cases list : arguments.kind = .argumentList
    · simp [list, argumentOf_eq]
    · simp [list, argumentAt]

def IsUnnamed (config : RuleConfig) (call : Node) : Prop :=
  ∀ e ∈ entriesOf call, e.1 = .keyword → ∀ name value, e.2.named? = some (name, value) →
    name ∉ config.poolNames

theorem namedValue?_unnamed {config : RuleConfig} (file : Path) {entries : List (Shape × Node)}
    (unnamed : ∀ e ∈ entries, e.1 = .keyword → ∀ name value, e.2.named? = some (name, value) →
      name ∉ config.poolNames) :
    namedValue? config.poolNames (entries.map (argumentAt file)) = none := by
  induction entries with
  | nil => rfl
  | cons entry rest ih =>
    obtain ⟨first, others⟩ := List.forall_mem_cons.mp unnamed
    rw [List.map_cons, argumentAt]
    split
    · rename_i name value keyword named
      have differs : name ∉ config.poolNames := first keyword name value named
      simp [namedValue?, differs, ih others]
    · exact ih others

end Resolved

/-- The pool that is found without a name is what stands in its place when every entry counts as one.
It is passed on in that place, however much the sequences hold that are spread, exactly when it is a
plain entry and no sequence is spread before it. -/
theorem pool_place_is_position_iff (config : RuleConfig) (file : Path) (call : Node) (expr : Expr)
    (lower : 0 ≤ config.poolIndex) (upper : config.poolIndex < config.parameterCount)
    (ordered : IsOrdered call) (unnamed : IsUnnamed config call)
    (found : poolArgument (callSiteOf file call).value.arguments config.poolNames
      config.parameterCount config.poolIndex = .ok (some expr)) :
    ∃ entry, (entriesOf call)[config.poolIndex.toNat]? = some entry ∧
      expr = (exprOf file entry.2).value ∧
      ((∀ counts, (passed counts 0 ((entriesOf call).map Prod.fst))[config.poolIndex.toNat]? =
          some (.whole config.poolIndex.toNat)) ↔
        entry.1 = .plain ∧ ∀ e ∈ (entriesOf call).take config.poolIndex.toNat, e.1 ≠ .iterable) := by
  rw [poolArgument_eq lower upper, arguments_eq] at found
  have held : poolValue? config ((entriesOf call).map (argumentAt file)) = some expr :=
    Except.ok.inj found
  unfold poolValue? at held
  rw [namedValue?_unnamed file unnamed] at held
  simp only [List.getElem?_map] at held
  split at held
  · split at held
    · rename_i value positional
      cases held
      obtain ⟨entry, here, made⟩ := Option.map_eq_some_iff.mp positional
      refine ⟨entry, here, ?_, ?_⟩
      · unfold argumentAt at made
        split at made
        · cases made
        · cases made
          rfl
      · obtain ⟨inside, -⟩ := List.getElem?_eq_some_iff.mp here
        rw [passed_at_iff (by simpa using inside) ordered.shapes, List.getElem?_map, here,
          ← List.map_take]
        simp only [Option.map_some, Option.some.injEq, List.mem_map, not_exists, not_and, ne_eq]
    · cases held
  · cases held

def clientCall (entries : List (Kind × String)) : Node :=
  .mk .call .plain "" default
    [.mk .attribute .function "jdbc.Client" default [],
      .mk .argumentList .arguments "" default
        (entries.map fun e => .mk e.1 .plain e.2 default [])]

/-- Two plain entries and a sequence: the second is the pool. -/
def spreadBehind : Node :=
  clientCall [(.identifier, "url"), (.dictionary, "\x7b\x7d"), (.listSplat, "*rest")]

theorem spreadBehind_position :
    ∃ expr, poolArgument (callSiteOf ⟨0, ["app.py"]⟩ spreadBehind).value.arguments ["pool"] 3 1 =
        .ok (some expr) ∧
      ∃ entry, (entriesOf spreadBehind)[1]? = some entry ∧
        expr = (exprOf ⟨0, ["app.py"]⟩ entry.2).value ∧
        ∀ counts, (passed counts 0 ((entriesOf spreadBehind).map Prod.fst))[1]? =
          some (.whole 1) := by
  have ordered : IsOrdered spreadBehind := by
    intro arguments found _
    cases found
    decide
  have noKeyword : ∀ e ∈ entriesOf spreadBehind, e.1 ≠ .keyword := by decide
  have unnamed : IsUnnamed ⟨["jdbc.Client"], ["pool"], 3, 1⟩ spreadBehind := by
    intro e member keyword
    exact absurd keyword (noKeyword e member)
  obtain ⟨entry, here, same, always⟩ := pool_place_is_position_iff
    ⟨["jdbc.Client"], ["pool"], 3, 1⟩ ⟨0, ["app.py"]⟩ spreadBehind _ (by decide) (by decide)
    ordered unnamed rfl
  refine ⟨_, rfl, entry, here, same, always.mpr ⟨?_, by decide⟩⟩
  cases here
  rfl

/-- A sequence in the middle: the pool is the last of five entries. -/
def spreadBefore : Node :=
  clientCall [(.identifier, "url"), (.identifier, "user"), (.listSplat, "*rest"),
    (.identifier, "options"), (.dictionary, "\x7b\x7d")]

/-- When a sequence before the pool is empty, nothing is passed on in the place of the pool. -/
theorem spreadBefore_moves :
    ¬ ∀ config file call expr, 0 ≤ config.poolIndex → config.poolIndex < config.parameterCount →
      IsOrdered call → IsUnnamed config call →
      poolArgument (callSiteOf file call).value.arguments config.poolNames config.parameterCount
        config.poolIndex = .ok (some expr) →
      ∀ counts, ∃ place entry, (passed counts 0 ((entriesOf call).map
          Prod.fst))[config.poolIndex.toNat]? = some (.whole place) ∧
        (entriesOf call)[place]? = some entry ∧ expr = (exprOf file entry.2).value := by
  intro always
  have ordered : IsOrdered spreadBefore := by
    intro arguments found _
    cases found
    decide
  have noKeyword : ∀ e ∈ entriesOf spreadBefore, e.1 ≠ .keyword := by decide
  have unnamed : IsUnnamed .standard spreadBefore := by
    intro e member keyword
    exact absurd keyword (noKeyword e member)
  obtain ⟨place, entry, moved, -⟩ := always .standard ⟨0, ["app.py"]⟩ spreadBefore _ (by decide)
    (by decide) ordered unnamed rfl fun _ => 0
  cases moved

end PoolLint.Binding
