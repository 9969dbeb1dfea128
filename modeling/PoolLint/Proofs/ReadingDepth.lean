import PoolLint.Proofs.LoweredNodes
import PoolLint.Proofs.Places
import PoolLint.Scan.Source

/-! How deep the values of a tree are nested. A value is read inside another if it is its operand or
an entry of its record, and the levels on which the reader is entered are those of the values that are
read: the call sites of a tree are read unless a value lies too deep. -/
namespace PoolLint.Syntax.Node
open Lowering

/-- The value that is read of an entry of a record in braces. Something spread is read as it stands. -/
def pairValue? (n : Node) : Option Node :=
  match n.kind with
  | .pair => (n.child? .key).bind fun _ => n.child? .value
  | .dictionarySplat => some n
  | _ => none

/-- The value that is read of an entry of a record that is written as a call. -/
def namedValue? (n : Node) : Option Node :=
  match n.kind with
  | .keywordArgument => (n.child? .name).bind fun _ => n.child? .value
  | .dictionarySplat => some n
  | _ => none

/-- The arguments of a call of `dict`, up to one that is neither named nor spread. -/
def dictArgumentsRead (n : Node) : List Node :=
  match n.child? .function, n.child? .arguments with
  | some function, some arguments =>
    if function.text = "dict" ∧ arguments.kind = .argumentList then
      arguments.entries.takeWhile (isNamedOrSpread ·.kind)
    else []
  | _, _ => []

/-- The values that are read for a value, each with the number of levels that it is below it. -/
def valuesRead (n : Node) : List (Nat × Node) :=
  match n.kind with
  | .unaryOperator =>
    (((n.child? .operator).bind fun _ => n.child? .operand).toList).map (1, ·)
  | .dictionary => (n.entries.filterMap pairValue?).map (2, ·)
  | .call => (n.dictArgumentsRead.filterMap namedValue?).map (2, ·)
  | _ => []

theorem valuesRead_pos {n : Node} {read : Nat × Node} (member : read ∈ n.valuesRead) :
    0 < read.1 := by
  unfold valuesRead at member
  split at member
  · obtain ⟨value, -, rfl⟩ := List.mem_map.mp member
    exact Nat.one_pos
  · obtain ⟨value, -, rfl⟩ := List.mem_map.mp member
    exact Nat.two_pos
  · obtain ⟨value, -, rfl⟩ := List.mem_map.mp member
    exact Nat.two_pos
  · cases member

/-- The values in a value, itself included, with the level on which each is read. -/
inductive ReadsOn : Node → Nat → Node → Prop
  | itself (n : Node) : ReadsOn n 1 n
  | inside {n value m : Node} {levels level : Nat} (read : (levels, value) ∈ n.valuesRead)
      (below : ReadsOn value level m) : ReadsOn n (level + levels) m

/-- The values that are given to a call. -/
def valuesGiven (call : Node) : List Node :=
  match call.child? .arguments with
  | none => []
  | some arguments =>
    if arguments.kind = .argumentList then
      arguments.entries.map fun entry => (entry.named?.map (·.2)).getD entry
    else [arguments]

/-- No value that is given to a call of a tree has another one in it that is read on a level that the
reader does not reach. -/
def Shallow (root : Node) : Prop :=
  ∀ call ∈ root.ofKind .call, ∀ given ∈ call.valuesGiven, ∀ level m,
    given.ReadsOn level m → level ≤ maxLevel

end PoolLint.Syntax.Node

namespace PoolLint.Lowering
open PoolLint.Syntax

theorem enter_mem_deeper (level levels : Nat) (inner : List ReadStep) :
    .enter level ∈ inner.map (ReadStep.deeper levels) ↔
      ∃ below, .enter below ∈ inner ∧ below + levels = level := by
  rw [List.mem_map]
  constructor
  · rintro ⟨step, member, lowered⟩
    cases step with
    | enter below =>
      cases lowered
      exact ⟨below, member, rfl⟩
    | note event => cases lowered
  · rintro ⟨below, member, rfl⟩
    exact ⟨_, member, rfl⟩

theorem exprOf_splat_steps (file : Path) {n : Node} (splat : n.kind = .dictionarySplat) :
    (exprOf file n).steps = [.enter 1] := by
  obtain ⟨_, role, text, span, children⟩ := n
  cases splat
  rfl

private theorem recordField?_steps (file : Path) (n : Node) :
    (recordField? file n).map (·.steps) = n.pairValue?.map fun value => (exprOf file value).steps := by
  obtain ⟨kind, role, text, span, children⟩ := n
  simp only [recordField?, Node.pairValue?, Node.kind_mk, Node.child?, Node.children_mk, valueIn_eq]
  cases kind with
  | pair =>
    cases children.find? (·.role == Role.key) with
    | none => rfl
    | some key => cases children.find? (·.role == Role.value) <;> rfl
  | dictionarySplat => exact congrArg some (exprOf_splat_steps file rfl).symm
  | _ => rfl

private theorem dictField?_steps (file : Path) (n : Node) :
    (dictField? file n).map (·.steps) = n.namedValue?.map fun value => (exprOf file value).steps := by
  obtain ⟨kind, role, text, span, children⟩ := n
  simp only [dictField?, Node.namedValue?, Node.kind_mk, Node.child?, Node.children_mk, valueIn_eq,
    textIn?]
  cases kind with
  | keywordArgument =>
    cases children.find? (·.role == Role.name) with
    | none => rfl
    | some name => cases children.find? (·.role == Role.value) <;> rfl
  | dictionarySplat => exact congrArg some (exprOf_splat_steps file rfl).symm
  | _ => rfl

private theorem recordFields_steps (file : Path) (nodes : List Node) :
    (recordFields file nodes).steps =
      ((nodes.filter fun n => !isSkipped n.kind).filterMap Node.pairValue?).flatMap
        fun value => (exprOf file value).steps := by
  induction nodes with
  | nil => rfl
  | cons n rest ih =>
    have head := recordField?_steps file n
    have whole : (recordFields file (n :: rest)).steps =
        (n.pairValue?.map fun value => (exprOf file value).steps).getD [] ++
          (recordFields file rest).steps := by
      rw [← head, recordFields]
      cases recordField? file n <;> rfl
    rw [whole, ih, List.filter_cons]
    cases skipped : isSkipped n.kind with
    | true =>
      have unread : n.pairValue? = none := by
        simp only [isSkipped, Bool.or_eq_true, beq_iff_eq] at skipped
        rcases skipped with kind | kind <;> simp [Node.pairValue?, kind]
      simp [unread]
    | false => cases value : n.pairValue? <;> simp [value]

private theorem dictEntries_steps (file : Path) (nodes : List Node) :
    (dictEntries file nodes).steps =
      (((nodes.filter fun n => !isSkipped n.kind).takeWhile (isNamedOrSpread ·.kind)).filterMap
        Node.namedValue?).flatMap fun value => (exprOf file value).steps := by
  induction nodes with
  | nil => rfl
  | cons n rest ih =>
    have head := dictField?_steps file n
    rw [dictEntries, List.filter_cons]
    cases isSkipped n.kind with
    | true => exact ih
    | false =>
      simp only [Bool.false_eq_true, if_false, Bool.not_false, if_true, List.takeWhile_cons]
      cases isNamedOrSpread n.kind with
      | false => rfl
      | true =>
        simp only [if_true, List.filterMap_cons]
        cases made : dictField? file n with
        | none =>
          rw [made] at head
          rw [Option.map_eq_none_iff.mp head.symm]
          exact ih
        | some field =>
          rw [made] at head
          obtain ⟨value, read, steps⟩ := Option.map_eq_some_iff.mp head.symm
          rw [read]
          simp only [DictEntries.cons, List.flatMap_cons, ih, steps]

private theorem around_read (file : Path) (levels : Nat) (values : List Node) :
    ReadStep.around levels (values.flatMap fun value => (exprOf file value).steps) =
      .enter 1 :: (values.map (levels, ·)).flatMap fun read =>
        (exprOf file read.2).steps.map (ReadStep.deeper read.1) := by
  rw [ReadStep.around, List.map_flatMap, List.flatMap_map]

private theorem exprOf_dict_steps (file : Path) {n : Node} (call : n.kind = .call) :
    ∃ notes : List Event, (exprOf file n).steps =
      ReadStep.around 2 ((n.dictArgumentsRead.filterMap Node.namedValue?).flatMap
        fun value => (exprOf file value).steps) ++ notes.map .note := by
  obtain ⟨_, role, text, span, children⟩ := n
  cases call
  simp only [exprOf, literalKind?, textIn?, dictFields_eq, Node.dictArgumentsRead, Node.child?,
    Node.children_mk]
  cases children.find? (·.role == Role.function) with
  | none => exact ⟨[], rfl⟩
  | some function =>
    cases children.find? (·.role == Role.arguments) with
    | none => exact ⟨[], by split <;> rfl⟩
    | some arguments =>
      by_cases dict : function.text = "dict"
      · by_cases list : arguments.kind = .argumentList
        · simp only [Option.map_some, dict, beq_self_eq_true, if_true, Option.bind_some,
            argumentFields?_eq, list, and_self, entries_eq, ← dictEntries_steps]
          split
          · exact ⟨[], (List.append_nil _).symm⟩
          · exact ⟨[_], rfl⟩
        · refine ⟨[], ?_⟩
          simp [dict, list, argumentFields?_eq, ReadStep.around]
      · refine ⟨[], ?_⟩
        simp [dict, ReadStep.around]

/-- The reader is entered for a value and then for the values that are read for it. -/
theorem exprOf_steps (file : Path) (n : Node) :
    ∃ notes : List Event, (exprOf file n).steps = .enter 1 :: (n.valuesRead.flatMap fun read =>
      (exprOf file read.2).steps.map (ReadStep.deeper read.1)) ++ notes.map .note := by
  by_cases call : n.kind = .call
  · obtain ⟨notes, steps⟩ := exprOf_dict_steps file call
    refine ⟨notes, ?_⟩
    rw [steps, around_read, Node.valuesRead, call]
  · refine ⟨[], ?_⟩
    rw [List.map_nil, List.append_nil, Node.valuesRead]
    obtain ⟨kind, role, text, span, children⟩ := n
    cases kind with
    | call => exact absurd rfl call
    | unaryOperator =>
      simp only [exprOf, literalKind?, textIn?, valueIn_eq, Node.kind_mk, Node.child?,
        Node.children_mk]
      cases children.find? (·.role == Role.operator) with
      | none => rfl
      | some operator =>
        cases children.find? (·.role == Role.operand) with
        | none => rfl
        | some operand => simp [ReadStep.around]
    | dictionary =>
      rw [Node.kind_mk, ← around_read, entries_eq, ← recordFields_steps]
      rfl
    | _ => rfl

/-- The levels on which the reader is entered are those of the values in a value. -/
theorem enter_mem_exprOf (file : Path) (n : Node) (level : Nat) :
    .enter level ∈ (exprOf file n).steps ↔ ∃ m, n.ReadsOn level m := by
  induction level using Nat.strongRecOn generalizing n with
  | ind level ih =>
    obtain ⟨notes, steps⟩ := exprOf_steps file n
    simp only [steps, List.cons_append, List.mem_cons, ReadStep.enter.injEq, List.mem_append,
      List.mem_flatMap, enter_mem_deeper]
    constructor
    · rintro (rfl | ⟨read, member, below, entered, rfl⟩ | note)
      · exact ⟨n, .itself n⟩
      · have higher := Node.valuesRead_pos member
        obtain ⟨m, reads⟩ := (ih below (by omega) read.2).mp entered
        exact ⟨m, .inside member reads⟩
      · obtain ⟨event, -, impossible⟩ := List.mem_map.mp note
        cases impossible
    · rintro ⟨m, reads⟩
      cases reads with
      | itself => exact .inl rfl
      | @inside _ value _ levels below member reads =>
        have higher := Node.valuesRead_pos member
        refine .inr (.inl ⟨(levels, value), member, below, ?_, rfl⟩)
        exact (ih below (by simpa using higher) value).mpr ⟨m, reads⟩

theorem argumentsOf_steps (file : Path) (call : Node) :
    (argumentsOf file call).flatMap (·.steps) =
      call.valuesGiven.flatMap fun value => (exprOf file value).steps := by
  have each (entry : Node) : (argumentOf file entry).steps =
      (exprOf file ((entry.named?.map (·.2)).getD entry)).steps := by
    rw [argumentOf_eq]
    cases entry.named? <;> rfl
  unfold argumentsOf Node.valuesGiven
  cases call.child? .arguments with
  | none => rfl
  | some arguments =>
    by_cases list : arguments.kind = .argumentList
    · simp only [list, beq_self_eq_true, if_true, List.flatMap_map, each]
    · simp [list]

theorem all_within_iff (file : Path) (root : Node) :
    (callSites file root).steps.all (ReadStep.isWithin maxLevel) = true ↔ root.Shallow := by
  have entered : (callSites file root).steps.all (ReadStep.isWithin maxLevel) = true ↔
      ∀ level, .enter level ∈ (callSites file root).steps → level ≤ maxLevel := by
    rw [List.all_eq_true]
    constructor
    · intro within level member
      exact of_decide_eq_true (within _ member)
    · intro within step member
      cases step with
      | enter level => exact decide_eq_true (within level member)
      | note event => rfl
  have mem (level : Nat) : .enter level ∈ (callSites file root).steps ↔
      ∃ call ∈ root.ofKind .call, ∃ given ∈ call.valuesGiven, ∃ m, given.ReadsOn level m := by
    simp only [callSites, List.flatMap_map, callSiteOf, argumentsOf_steps, List.mem_flatMap,
      enter_mem_exprOf]
  simp only [entered, mem, Node.Shallow]
  constructor
  · intro within call member given passed level m reads
    exact within level ⟨call, member, given, passed, m, reads⟩
  · rintro within level ⟨call, member, given, passed, m, reads⟩
    exact within call member given passed level m reads

instance (root : Node) : Decidable root.Shallow := decidable_of_iff _ (all_within_iff default root)

/-- An operator among the arguments of a call, with a value that lies too deep in it. -/
theorem not_shallow {root call arguments given m : Node} {level : Nat} (place : List Nat)
    (found : root.nodeAt? place = some call) (kind : call.kind = .call)
    (passed : call.child? .arguments = some arguments) (list : arguments.kind = .argumentList)
    (entry : given ∈ arguments.children) (unary : given.kind = .unaryOperator)
    (reads : given.ReadsOn level m) (deep : maxLevel < level) : ¬ root.Shallow := by
  have met : call ∈ root.ofKind .call := by
    rw [Node.ofKind_eq_placed]
    exact List.mem_map.mpr ⟨(place, call),
      List.mem_filter.mpr ⟨(Node.mem_placed root place call).mpr found, by simp [kind]⟩, rfl⟩
  have unnamed : given.named? = none := by simp [Node.named?, unary]
  have isGiven : given ∈ call.valuesGiven := by
    simp only [Node.valuesGiven, passed, list, if_true, entries_eq, List.mem_map, List.mem_filter]
    exact ⟨given, ⟨entry, by simp [isSkipped, unary]⟩, by simp [unnamed]⟩
  intro shallow
  exact Nat.not_le.mpr deep (shallow call met given isGiven level m reads)

/-- The tree of a number behind so many signs, without places. -/
def signedNumber : Nat → Node
  | 0 => .mk .integer .operand "1" default []
  | signs + 1 => .mk .unaryOperator .operand "" default
      [.mk .mark .operator "-" default [], signedNumber signs]

theorem role_signedNumber (signs : Nat) : (signedNumber signs).role = .operand := by
  cases signs <;> rfl

theorem readsOn_signedNumber (signs : Nat) :
    (signedNumber signs).ReadsOn (signs + 1) (signedNumber 0) := by
  induction signs with
  | zero => exact .itself _
  | succ signs ih =>
    refine .inside ?_ ih
    simp [signedNumber, Node.valuesRead, Node.child?, role_signedNumber]

end PoolLint.Lowering

namespace PoolLint.Scan
open PoolLint.Syntax

/-- The call sites of a tree are read exactly if no value lies too deep. -/
theorem readSites_result (file : Path) (root : Node) : (readSites file root).result =
    if root.Shallow then .ok (Lowering.callSites file root).value else .error .tooDeep := by
  simp only [readSites, Noted.within, Lowering.all_within_iff]

theorem ofTree_result (config : RuleConfig) (file : Path) (fault : Option Violation) (root : Node) :
    (ofTree config file fault root).result =
      if root.Shallow then
        (checkSites config (.of file fault root) (Lowering.callSites file root).value).result
      else .error .tooDeep := by
  simp only [ofTree, readSites_result]
  split
  · rename_i deep
    split at deep
    · cases deep
    · rename_i notShallow
      cases deep
      rw [if_neg notShallow]
  · rename_i sites read
    split at read
    · rename_i shallow
      cases read
      rw [if_pos shallow]
    · cases read

theorem returned_of_ofTree {config : RuleConfig} {file : Path} {fault : Option Violation}
    {root : Node} {ds : List Diagnostic} (returned : (ofTree config file fault root).result = .ok ds) :
    (checkSites config (.of file fault root) (Lowering.callSites file root).value).result = .ok ds := by
  rw [ofTree_result] at returned
  split at returned
  · exact returned
  · cases returned

end PoolLint.Scan
