import PoolLint.Proofs.ImportedNames
import PoolLint.Proofs.LoweredNodes
import PoolLint.Proofs.Places
import PoolLint.Scan.Source

/-! The settings of a source tree that are written below their minimum, told by the tree alone: by
the places of calls, the entries of records and the texts of literals. The scan of a tree reports
each of them exactly once and nothing else. -/
namespace PoolLint
open PoolLint.Syntax

/-- A setting that is written below its minimum: the place of the call, the position of the entry in
the record that holds the pool, the setting, and the node of its value. -/
structure Shortfall where
  call : List Nat
  entry : Nat
  key : PoolKey
  value : Node

namespace Shortfall

def calleeText (call : Node) : String := ((call.child? .function).map Node.text).getD ""

inductive Named (entry : Node) : String → Node → Prop
  | intro (name value : Node) (kind : entry.kind = .keywordArgument)
      (nameFound : entry.child? .name = some name) (valueFound : entry.child? .value = some value) :
      Named entry name.text value

/-- The node that holds the pool of a call: the value of the first argument with one of the pool's
names; without one, and with an argument for every parameter, what stands at the place of the
pool. A comprehension without parentheses of its own is the only argument. -/
inductive PoolNode (config : RuleConfig) (call : Node) : Node → Prop
  | named (arguments entry value : Node) (before after : List Node) (name : String)
      (found : call.child? .arguments = some arguments) (list : arguments.kind = .argumentList)
      (split : arguments.entries = before ++ entry :: after)
      (first : ∀ e ∈ before, ∀ name value, Named e name value → name ∉ config.poolNames)
      (named : Named entry name value) (chosen : name ∈ config.poolNames) :
      PoolNode config call value
  | placed (arguments entry : Node)
      (found : call.child? .arguments = some arguments) (list : arguments.kind = .argumentList)
      (unnamed : ∀ e ∈ arguments.entries, ∀ name value, Named e name value →
        name ∉ config.poolNames)
      (full : (arguments.entries.length : Int) = config.parameterCount)
      (place : arguments.entries[config.poolIndex.toNat]? = some entry)
      (positional : entry.kind ≠ .keywordArgument) : PoolNode config call entry
  | bare (arguments : Node) (found : call.child? .arguments = some arguments)
      (single : arguments.kind ≠ .argumentList) (full : config.parameterCount = 1) :
      PoolNode config call arguments

/-- The entry at a position of a record that has a key written out, with the text of the key and the
node of the value. A record is a dictionary, or a call of `dict` whose arguments are all named or
spread. -/
inductive Entry (pool : Node) (position : Nat) : String → Node → Prop
  | keyed (entry key value : Node) (dictionary : pool.kind = .dictionary)
      (place : pool.entries[position]? = some entry) (pair : entry.kind = .pair)
      (keyFound : entry.child? .key = some key) (plain : key.kind = .string)
      (valueFound : entry.child? .value = some value) : Entry pool position key.text value
  | named (function arguments entry value : Node) (name : String)
      (call : pool.kind = .call) (functionFound : pool.child? .function = some function)
      (dict : function.text = "dict") (found : pool.child? .arguments = some arguments)
      (list : arguments.kind = .argumentList)
      (fitting : ∀ e ∈ arguments.entries, e.kind = .keywordArgument ∨ e.kind = .dictionarySplat)
      (place : arguments.entries[position]? = some entry) (named : Named entry name value) :
      Entry pool position name value

def IsLiteral (n : Node) : Prop :=
  n.kind ∈ [Kind.integer, .float, .string, .true, .false, .none]

inductive Written (n : Node) : String → Prop
  | plain (literal : IsLiteral n) : Written n n.text
  | signed (operator operand : Node) (unary : n.kind = .unaryOperator)
      (operatorFound : n.child? .operator = some operator)
      (operandFound : n.child? .operand = some operand) (literal : IsLiteral operand) :
      Written n (operator.text ++ operand.text)

/-- A value is written as a number that is not at least the minimum of a setting. -/
inductive Below (key : PoolKey) (value : Node) : Prop
  | intro (text : String) (n : Number) (written : Written value text)
      (read : Number.read? (PoolRule.of key).kind (PoolCheck.plainToken text) = some n)
      (low : ¬ n.atLeast (PoolRule.of key).minimum)

/-- A tree has a shortfall: at its place there is a call whose callee is expanded to a target, the
entry stands in the record that holds the pool of the call, its key is a spelling of the setting,
and its value is below the minimum. -/
inductive In (config : RuleConfig) (root : Node) : Shortfall → Prop
  | intro (place : List Nat) (position : Nat) (key : PoolKey) (value call pool : Node)
      (name full : String) (found : root.nodeAt? place = some call) (kind : call.kind = .call)
      (expands : Imports.Expands (Imports.bindings root) (Text.squeezed (calleeText call)) full)
      (target : full ∈ config.targets)
      (holds : PoolNode config call pool) (entry : Entry pool position name value)
      (recognised : PoolKey.lookup? (PoolCheck.plainToken name) = some key)
      (below : Below key value) : In config root ⟨place, position, key, value⟩

def diagnostic (file : Path) (s : Shortfall) : Diagnostic :=
  PoolCheck.findingOf s.key (Lowering.location file s.value.span)

theorem named_iff (entry value : Node) (name : String) :
    Named entry name value ↔ entry.named? = some (name, value) := by
  constructor
  · rintro ⟨nameNode, value, kind, nameFound, valueFound⟩
    simp [Node.named?, kind, nameFound, valueFound]
  · intro named
    simp only [Node.named?] at named
    split at named
    · rename_i kind
      split at named
      · rename_i nameFound valueFound
        cases named
        exact ⟨_, _, kind, nameFound, valueFound⟩
      · cases named
    · cases named

theorem isLiteral_iff (n : Node) : IsLiteral n ↔ n.isLiteral = true := by
  simp only [IsLiteral, Node.isLiteral]
  cases n.kind <;> simp [Lowering.literalKind?]

theorem written_iff (n : Node) (text : String) : Written n text ↔ n.literalText? = some text := by
  constructor
  · rintro (literal | ⟨operator, operand, unary, operatorFound, operandFound, literal⟩)
    · simp [Node.literalText?, (isLiteral_iff n).mp literal]
    · have unfit : n.isLiteral = false := by simp [Node.isLiteral, unary, Lowering.literalKind?]
      simp [Node.literalText?, unfit, unary, operatorFound, operandFound,
        (isLiteral_iff operand).mp literal]
  · intro read
    simp only [Node.literalText?] at read
    split at read
    · rename_i literal
      cases read
      exact .plain ((isLiteral_iff n).mpr literal)
    · split at read
      · rename_i unary
        split at read
        · rename_i operator operand operatorFound operandFound
          split at read
          · rename_i literal
            cases read
            exact .signed operator operand unary operatorFound operandFound
              ((isLiteral_iff operand).mpr literal)
          · cases read
        · cases read
      · cases read

def poolNamed? (names : List String) (n : Node) : Option Node :=
  (n.named?.filter fun field => names.contains field.1).map (·.2)

def poolNode? (config : RuleConfig) (call : Node) : Option Node :=
  (call.child? .arguments).bind fun arguments =>
    if arguments.kind = .argumentList then
      match arguments.entries.findSome? (poolNamed? config.poolNames) with
      | some value => some value
      | none =>
        if (arguments.entries.length : Int) = config.parameterCount then
          (arguments.entries[config.poolIndex.toNat]?).filter (·.kind != .keywordArgument)
        else none
    else if config.parameterCount = 1 then some arguments else none

theorem poolNamed?_eq_some (names : List String) (entry value : Node) :
    poolNamed? names entry = some value ↔ ∃ name, Named entry name value ∧ name ∈ names := by
  simp only [poolNamed?, Option.map_eq_some_iff, Option.filter_eq_some_iff,
    List.contains_eq_mem, decide_eq_true_eq, Prod.exists, named_iff]
  constructor
  · rintro ⟨name, value, ⟨named, chosen⟩, rfl⟩
    exact ⟨name, named, chosen⟩
  · rintro ⟨name, named, chosen⟩
    exact ⟨name, value, ⟨named, chosen⟩, rfl⟩

private theorem poolNamed?_eq_none (names : List String) (entry : Node) :
    poolNamed? names entry = none ↔ ∀ name value, Named entry name value → name ∉ names := by
  rw [Option.eq_none_iff_forall_ne_some]
  constructor
  · intro never name value named chosen
    exact never value ((poolNamed?_eq_some names entry value).mpr ⟨name, named, chosen⟩)
  · intro unnamed value found
    obtain ⟨name, named, chosen⟩ := (poolNamed?_eq_some names entry value).mp found
    exact unnamed name value named chosen

theorem poolNode_iff (config : RuleConfig) (call pool : Node) :
    PoolNode config call pool ↔ poolNode? config call = some pool := by
  constructor
  · rintro (⟨arguments, entry, value, before, after, name, found, list, split, first, named, chosen⟩ |
      ⟨arguments, entry, found, list, unnamed, full, place, positional⟩ |
      ⟨arguments, found, single, full⟩)
    · have chosenValue := (poolNamed?_eq_some config.poolNames entry pool).mpr ⟨name, named, chosen⟩
      have skipped : before.findSome? (poolNamed? config.poolNames) = none :=
        List.findSome?_eq_none_iff.mpr fun e member =>
          (poolNamed?_eq_none config.poolNames e).mpr (first e member)
      simp [poolNode?, found, list, split, List.findSome?_append, skipped, chosenValue]
    · have skipped : arguments.entries.findSome? (poolNamed? config.poolNames) = none :=
        List.findSome?_eq_none_iff.mpr fun e member =>
          (poolNamed?_eq_none config.poolNames e).mpr (unnamed e member)
      simp [poolNode?, found, list, skipped, full, place, positional]
    · simp [poolNode?, found, single, full]
  · intro computed
    obtain ⟨arguments, found, computed⟩ := Option.bind_eq_some_iff.mp computed
    split at computed
    · rename_i list
      split at computed
      · rename_i value chosenValue
        cases computed
        obtain ⟨before, entry, after, split, chosen, skipped⟩ :=
          List.findSome?_eq_some_iff.mp chosenValue
        obtain ⟨name, named, inNames⟩ := (poolNamed?_eq_some _ _ _).mp chosen
        exact .named arguments entry pool before after name found list split
          (fun e member => (poolNamed?_eq_none _ e).mp (skipped e member)) named inNames
      · rename_i skipped
        split at computed
        · rename_i full
          obtain ⟨place, positional⟩ := Option.filter_eq_some_iff.mp computed
          refine .placed arguments pool found list (fun e member => ?_) full place (by simpa using positional)
          exact (poolNamed?_eq_none _ e).mp (List.findSome?_eq_none_iff.mp skipped e member)
        · cases computed
    · rename_i single
      split at computed
      · rename_i full
        cases computed
        exact .bare pool found single full
      · cases computed

theorem entry_iff (pool value : Node) (position : Nat) (name : String) :
    Entry pool position name value ↔
      ∃ entries read entry, pool.record? = some (entries, read) ∧ entries[position]? = some entry ∧
        read entry = some (name, value) := by
  constructor
  · rintro (⟨entry, key, value, dictionary, place, pair, keyFound, plain, valueFound⟩ |
      ⟨function, arguments, entry, value, name, call, functionFound, dict, found, list,
        fitting, place, named⟩)
    · have keyed := Node.keyed?_eq_some.mpr ⟨pair, key, keyFound, plain, rfl, valueFound⟩
      exact ⟨pool.entries, Node.keyed?, entry, by simp [Node.record?, dictionary], place, keyed⟩
    · have all : pool.dictArguments? = some arguments.entries := Node.dictArguments?_eq_some.mpr
        ⟨function, arguments, functionFound, dict, found, list, rfl, fitting⟩
      refine ⟨arguments.entries, Node.named?, entry, ?_, place, (named_iff _ _ _).mp named⟩
      simp [Node.record?, call, all]
  · rintro ⟨entries, read, entry, record, place, made⟩
    unfold Node.record? at record
    split at record
    · rename_i dictionary
      cases record
      obtain ⟨pair, key, keyFound, plain, rfl, valueFound⟩ := Node.keyed?_eq_some.mp made
      exact .keyed entry key value dictionary place pair keyFound plain valueFound
    · split at record
      · rename_i call
        obtain ⟨_, all, same⟩ := Option.map_eq_some_iff.mp record
        cases same
        obtain ⟨function, arguments, functionFound, dict, found, list, rfl, fitting⟩ :=
          Node.dictArguments?_eq_some.mp all
        exact .named function arguments entry value name call functionFound dict found list fitting
          place ((named_iff _ _ _).mpr made)
      · cases record

end Shortfall
end PoolLint
