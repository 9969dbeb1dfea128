import PoolLint.Proofs.BracedTexts
import PoolLint.Proofs.RewrappedImports
import PoolLint.Proofs.ScannedTrees

/-! Trees that differ only in line continuations have the same findings, as long as no continuation
stands where it counts: in a name that is imported, in the name of a target, among the arguments of
a call whose pool is not named, or in a pool that is written as a call of `dict`. -/
namespace PoolLint

namespace Shortfall
open Syntax

/-- No line continuation stands among the entries of a node. -/
def Uninterrupted (n : Node) : Prop := ∀ e ∈ n.entries, e.kind ≠ .lineContinuation

def HasNamedPool (config : RuleConfig) (arguments : Node) : Prop :=
  ∃ e ∈ arguments.entries, ∃ name value, Named e name value ∧ name ∈ config.poolNames

/-- A call of `dict` is spelled without a break and has no line continuation among its arguments. -/
def IntactDict (n : Node) : Prop :=
  Rewrapped (calleeText n).toList "dict".toList → Unbroken (calleeText n) ∧
    ∀ arguments, n.child? .arguments = some arguments → Uninterrupted arguments

/-- The pool of a call is found and read no matter where lines are continued. -/
structure IntactPool (config : RuleConfig) (call : Node) : Prop where
  arguments : ∀ arguments, call.child? .arguments = some arguments →
    arguments.kind = .argumentList → HasNamedPool config arguments ∨ Uninterrupted arguments
  dict : ∀ pool, PoolNode config call pool → pool.kind = .call → IntactDict pool

/-- No line continuation of a tree stands where it counts. -/
structure Intact (config : RuleConfig) (root : Node) : Prop where
  imports : ∀ b ∈ Imports.bindings root, Imports.Whole b
  callees : ∀ call ∈ root.ofKind .call, ∀ name, Rewrapped (calleeText call).toList name.toList →
    Imports.resolve (Imports.bindings root) name ∈ config.targets → Unbroken (calleeText call)
  pools : ∀ call ∈ root.ofKind .call, isTargetCall config root call → IntactPool config call

section Entries

variable {n m : Node}

/-- The entries that are no line continuations. -/
def solid (n : Node) : List Node := n.entries.filter (·.kind != .lineContinuation)

theorem solid_alike (alike : n.Alike m) : List.Forall₂ Node.Alike (solid n) (solid m) := by
  simp only [solid, Node.entries, Node.namedChildren, List.filter_filter]
  apply alike.parts.filter
  · intro text span
    rfl
  · intro a b pair
    simp only [Node.isNamed, pair.kind]

theorem entries_eq_solid (uninterrupted : Uninterrupted n) : n.entries = solid n := by
  rw [solid, List.filter_eq_self.mpr]
  intro e member
  exact bne_iff_ne.mpr (uninterrupted e member)

theorem filterMap_entries {α : Type} {f : Node → Option α}
    (skips : ∀ e : Node, e.kind = .lineContinuation → f e = none) (n : Node) :
    n.entries.filterMap f = (solid n).filterMap f := by
  rw [solid, List.filterMap_filter]
  apply List.filterMap_congr
  intro e _
  by_cases continued : e.kind = .lineContinuation
  · simp [continued, skips e continued]
  · simp [continued]

theorem findSome?_entries {α : Type} {f : Node → Option α}
    (skips : ∀ e : Node, e.kind = .lineContinuation → f e = none) (n : Node) :
    n.entries.findSome? f = (solid n).findSome? f := by
  rw [← List.head?_filterMap, ← List.head?_filterMap, filterMap_entries skips]

end Entries

section Values

variable {n m : Node}

/-- Texts that are read alike: the same one, or two with braces, which are no numbers and no names. -/
def ReadAlike (s t : String) : Prop := s = t ∨ '\x7b' ∈ s.toList ∧ '\x7b' ∈ t.toList

theorem plainToken_brace {s : String} (brace : '\x7b' ∈ s.toList) :
    '\x7b' ∈ (PoolCheck.plainToken s).toList := by
  rw [PoolCheck.plainToken, String.toList_ofList, PoolCheck.plainChars]
  have trimmed : '\x7b' ∈ Text.trim s.toList := by
    have front := Numeral.mem_dropWhile brace (show Text.isBlank '\x7b' = false by decide)
    have back := Numeral.mem_dropWhile (List.mem_reverse.mpr front)
      (show Text.isBlank '\x7b' = false by decide)
    exact List.mem_reverse.mpr back
  exact List.mem_filter.mpr ⟨trimmed, by decide⟩

theorem ReadAlike.lookup? {s t : String} (alike : ReadAlike s t) :
    PoolKey.lookup? (PoolCheck.plainToken s) = PoolKey.lookup? (PoolCheck.plainToken t) := by
  rcases alike with rfl | ⟨left, right⟩
  · rfl
  · rw [PoolKey.lookup?_braced (plainToken_brace left),
      PoolKey.lookup?_braced (plainToken_brace right)]

theorem ReadAlike.isTooLow {s t : String} (alike : ReadAlike s t) (key : PoolKey) :
    PoolCheck.isTooLow key (PoolCheck.plainToken s) =
      PoolCheck.isTooLow key (PoolCheck.plainToken t) := by
  rcases alike with rfl | ⟨left, right⟩
  · rfl
  · simp only [PoolCheck.isTooLow, Number.read?_braced _ (plainToken_brace left),
      Number.read?_braced _ (plainToken_brace right)]

theorem literal_readAlike (alike : n.Alike m) (literal : n.isLiteral = true) :
    ReadAlike n.text m.text := by
  have kinds : n.kind.isWord = true ∨ n.kind = .string := by
    revert literal
    rw [Node.isLiteral]
    cases n.kind <;> decide
  rcases kinds with word | quoted
  · exact .inl (alike.texts.word word)
  · exact alike.texts.quoted quoted

theorem isLiteral_alike (alike : n.Alike m) : n.isLiteral = m.isLiteral := by
  rw [Node.isLiteral, Node.isLiteral, alike.kind]

theorem child?_text {role : Role}
    (same : Node.textOf? role n.children = Node.textOf? role m.children) :
    n.child? role = none ∧ m.child? role = none ∨
      ∃ x y, n.child? role = some x ∧ m.child? role = some y ∧ x.text = y.text := by
  have texts : (n.child? role).map Node.text = (m.child? role).map Node.text := same
  cases left : n.child? role with
  | none =>
    rw [left, Option.map_none] at texts
    exact .inl ⟨rfl, Option.map_eq_none_iff.mp texts.symm⟩
  | some x =>
    rw [left, Option.map_some] at texts
    obtain ⟨y, right, text⟩ := Option.map_eq_some_iff.mp texts.symm
    exact .inr ⟨x, y, rfl, right, text.symm⟩

theorem ReadAlike.behind {s t : String} (alike : ReadAlike s t) (operator : String) :
    ReadAlike (operator ++ s) (operator ++ t) := by
  rcases alike with rfl | ⟨left, right⟩
  · exact .inl rfl
  · simp only [ReadAlike, String.toList_append, List.mem_append]
    exact .inr ⟨.inr left, .inr right⟩

theorem literalText?_alike (alike : n.Alike m) :
    Option.Rel ReadAlike n.literalText? m.literalText? := by
  have operands := alike.child? (show Role.operand ≠ .plain by decide)
  unfold Node.literalText?
  rw [← isLiteral_alike alike, ← alike.kind]
  split
  · rename_i literal
    exact .some (literal_readAlike alike literal)
  · split
    · rename_i unary
      rcases child?_text (alike.heads.operator unary) with
        ⟨left, right⟩ | ⟨operator, operator', left, right, same⟩
      · simp only [left, right]
        exact .none
      · rcases Node.missing_or_related operands with
          ⟨left', right'⟩ | ⟨operand, operand', left', right', pair⟩
        · simp only [left, right, left', right']
          exact .none
        · simp only [left, right, left', right', ← isLiteral_alike pair, ← same]
          split
          · rename_i literal
            exact .some ((literal_readAlike pair literal).behind operator.text)
          · exact .none
    · exact .none

structure FieldAlike (p q : String × Node) : Prop where
  name : ReadAlike p.1 q.1
  value : p.2.Alike q.2

theorem below?_alike {p q : String × Node} (alike : FieldAlike p q) :
    below? p.1 p.2 = below? q.1 q.2 := by
  have low (key : PoolKey) : (p.2.literalText?.map PoolCheck.plainToken).any (PoolCheck.isTooLow key) =
      (q.2.literalText?.map PoolCheck.plainToken).any (PoolCheck.isTooLow key) := by
    rcases Node.missing_or_related (literalText?_alike alike.value) with
      ⟨left, right⟩ | ⟨s, t, left, right, texts⟩
    · rw [left, right]
    · rw [left, right]
      exact texts.isTooLow key
  simp only [below?, alike.name.lookup?, low]

theorem named?_alike (alike : n.Alike m) :
    Option.Rel (fun p q => p.1 = q.1 ∧ p.2.Alike q.2) n.named? m.named? := by
  have values := alike.child? (show Role.value ≠ .plain by decide)
  unfold Node.named?
  rw [← alike.kind]
  split
  · rename_i named
    rcases child?_text (alike.heads.name named) with ⟨left, right⟩ | ⟨name, name', left, right, same⟩
    · simp only [left, right]
      exact .none
    · rcases Node.missing_or_related values with ⟨left', right'⟩ | ⟨v, v', left', right', pair⟩
      · simp only [left, right, left', right']
        exact .none
      · simp only [left, right, left', right']
        exact .some ⟨same, pair⟩
  · exact .none

theorem keyed?_alike (alike : n.Alike m) : Option.Rel FieldAlike n.keyed? m.keyed? := by
  have keys := alike.child? (show Role.key ≠ .plain by decide)
  have values := alike.child? (show Role.value ≠ .plain by decide)
  unfold Node.keyed?
  rw [← alike.kind]
  split
  · rcases Node.missing_or_related keys with ⟨left, right⟩ | ⟨key, key', left, right, pair⟩
    · simp only [left, right]
      exact .none
    · rcases Node.missing_or_related values with ⟨left', right'⟩ | ⟨v, v', left', right', pair'⟩
      · simp only [left, right, left', right']
        exact .none
      · simp only [left, right, left', right', ← pair.kind]
        split
        · rename_i quoted
          exact .some ⟨pair.texts.quoted quoted, pair'⟩
        · exact .none
  · exact .none

end Values

section Records

variable {n m : Node}

theorem calleeText_alike (alike : n.Alike m) :
    Rewrapped (calleeText n).toList (calleeText m).toList := by
  have functions := alike.child? (show Role.function ≠ .plain by decide)
  unfold calleeText
  rcases Node.missing_or_related functions with ⟨left, right⟩ | ⟨f, f', left, right, pair⟩
  · rw [left, right]
    exact .refl _
  · rw [left, right]
    exact pair.texts.rewrapped

theorem calleeText_eq_dict (alike : n.Alike m) (left : IntactDict n) (right : IntactDict m)
    (dict : calleeText n = "dict") : calleeText m = "dict" := by
  have texts := calleeText_alike alike
  have here := (left (by rw [dict]; exact .refl _)).1
  have there := (right (by rw [dict] at texts; exact texts.symm)).1
  rw [← texts.same here there, dict]

theorem dictArguments?_eq (n : Node) : n.dictArguments? =
    if (n.child? .function).isSome ∧ calleeText n = "dict" then
      (n.child? .arguments).bind fun arguments =>
        if arguments.kind = .argumentList ∧
          arguments.entries.all (Lowering.isNamedOrSpread ·.kind) then some arguments.entries
        else none
    else none := by
  unfold Node.dictArguments? calleeText
  cases n.child? .function with
  | none => simp
  | some function =>
    cases n.child? .arguments with
    | none => simp
    | some arguments => by_cases dict : function.text = "dict" <;> simp [dict]

theorem all_alike {p : Kind → Bool} {ns ms : List Node} (nodes : List.Forall₂ Node.Alike ns ms) :
    ns.all (p ·.kind) = ms.all (p ·.kind) := by
  induction nodes with
  | nil => rfl
  | cons pair rest ih => rw [List.all_cons, List.all_cons, ih, pair.kind]

theorem dictArguments?_alike (alike : n.Alike m) (left : IntactDict n) (right : IntactDict m) :
    Option.Rel (List.Forall₂ Node.Alike) n.dictArguments? m.dictArguments? := by
  have functions := alike.child? (show Role.function ≠ .plain by decide)
  have arguments := alike.child? (show Role.arguments ≠ .plain by decide)
  have there : (n.child? .function).isSome = (m.child? .function).isSome := by
    rcases Node.missing_or_related functions with ⟨none, none'⟩ | ⟨f, f', some_, some_', -⟩
    · rw [none, none']
    · rw [some_, some_']
      rfl
  rw [dictArguments?_eq, dictArguments?_eq, ← there]
  by_cases dict : calleeText n = "dict"
  · have dict' := calleeText_eq_dict alike left right dict
    have whole := (left (by rw [dict]; exact .refl _)).2
    have whole' := (right (by rw [dict']; exact .refl _)).2
    simp only [dict, dict', and_true]
    split
    · rcases Node.missing_or_related arguments with ⟨none, none'⟩ | ⟨a, a', found, found', pair⟩
      · rw [none, none']
        exact .none
      · have entries := solid_alike pair
        rw [← entries_eq_solid (whole a found), ← entries_eq_solid (whole' a' found')] at entries
        simp only [found, found', Option.bind_some, ← pair.kind, ← all_alike entries]
        split
        · exact .some entries
        · exact .none
    · exact .none
  · have dict' : calleeText m ≠ "dict" := fun same =>
      dict (calleeText_eq_dict alike.symm right left same)
    simp only [dict, dict', and_false, if_false]
    exact .none

theorem named?_continuation (e : Node) (continued : e.kind = .lineContinuation) :
    e.named? = none := by
  rw [Node.named?, continued]
  rfl

theorem keyed?_continuation (e : Node) (continued : e.kind = .lineContinuation) :
    e.keyed? = none := by
  rw [Node.keyed?, continued]
  rfl

theorem fields?_alike (alike : n.Alike m) (left : n.kind = .call → IntactDict n)
    (right : m.kind = .call → IntactDict m) :
    Option.Rel (List.Forall₂ FieldAlike) n.fields? m.fields? := by
  unfold Node.fields? Node.record?
  rw [← alike.kind]
  split
  · simp only [Option.map_some, filterMap_entries keyed?_continuation]
    exact .some (List.rel_filterMap (fun _ _ pair => keyed?_alike pair) (solid_alike alike))
  · split
    · rename_i call
      have arguments := dictArguments?_alike alike (left call) (right (alike.kind ▸ call))
      rcases Node.missing_or_related arguments with ⟨none, none'⟩ | ⟨as, as', found, found', pairs⟩
      · rw [none, none']
        exact .none
      · rw [found, found']
        refine .some (List.rel_filterMap (fun e e' pair => ?_) pairs)
        dsimp only
        rcases Node.missing_or_related (named?_alike pair) with
          ⟨none, none'⟩ | ⟨p, q, some_, some_', name, value⟩
        · rw [none, none']
          exact .none
        · rw [some_, some_']
          exact .some ⟨.inl name, value⟩
    · exact .none

end Records

section Calls

variable {config : RuleConfig} {n m : Node}

theorem poolNamed?_alike (alike : n.Alike m) :
    Option.Rel Node.Alike (poolNamed? config.poolNames n) (poolNamed? config.poolNames m) := by
  unfold poolNamed?
  rcases Node.missing_or_related (named?_alike alike) with
    ⟨none, none'⟩ | ⟨p, q, some_, some_', name, value⟩
  · rw [none, none']
    exact .none
  · simp only [some_, some_', Option.filter_some, ← name]
    split
    · exact .some value
    · exact .none

theorem findSome?_alike (alike : n.Alike m) :
    Option.Rel Node.Alike (n.entries.findSome? (poolNamed? config.poolNames))
      (m.entries.findSome? (poolNamed? config.poolNames)) := by
  have skips (e : Node) (continued : e.kind = .lineContinuation) :
      poolNamed? config.poolNames e = none := by
    rw [poolNamed?, named?_continuation e continued]
    rfl
  have nodes := solid_alike alike
  rw [findSome?_entries skips, findSome?_entries skips]
  generalize solid n = ns, solid m = ms at nodes
  induction nodes with
  | nil => exact .none
  | cons pair rest ih =>
    rw [List.findSome?_cons, List.findSome?_cons]
    rcases Node.missing_or_related (@poolNamed?_alike config _ _ pair) with
      ⟨none, none'⟩ | ⟨v, v', some_, some_', values⟩
    · rw [none, none']
      exact ih
    · rw [some_, some_']
      exact .some values

theorem uninterrupted_of_unnamed {arguments : Node}
    (either : HasNamedPool config arguments ∨ Uninterrupted arguments)
    (unnamed : arguments.entries.findSome? (poolNamed? config.poolNames) = none) :
    Uninterrupted arguments := by
  refine either.resolve_left ?_
  rintro ⟨e, member, name, value, named, chosen⟩
  have found := (poolNamed?_eq_some config.poolNames e value).mpr ⟨name, named, chosen⟩
  rw [List.findSome?_eq_none_iff.mp unnamed e member] at found
  cases found

theorem poolNode?_alike (alike : n.Alike m) (left : IntactPool config n)
    (right : IntactPool config m) :
    Option.Rel Node.Alike (poolNode? config n) (poolNode? config m) := by
  have arguments := alike.child? (show Role.arguments ≠ .plain by decide)
  unfold poolNode?
  rcases Node.missing_or_related arguments with ⟨none, none'⟩ | ⟨a, a', found, found', pair⟩
  · rw [none, none']
    exact .none
  · simp only [found, found', Option.bind_some, ← pair.kind]
    split
    · rename_i list
      rcases Node.missing_or_related (@findSome?_alike config _ _ pair) with
        ⟨none, none'⟩ | ⟨v, v', some_, some_', values⟩
      · have whole := uninterrupted_of_unnamed (left.arguments a found list) none
        have whole' := uninterrupted_of_unnamed
          (right.arguments a' found' (pair.kind ▸ list)) none'
        have entries := solid_alike pair
        rw [← entries_eq_solid whole, ← entries_eq_solid whole'] at entries
        simp only [none, none', ← entries.length_eq]
        split
        · rcases Node.missing_or_related (Node.getElem?_related entries config.poolIndex.toNat) with
            ⟨none, none'⟩ | ⟨e, e', place, place', pair⟩
          · rw [none, none']
            exact .none
          · simp only [place, place', Option.filter_some, ← pair.kind]
            split
            · exact .some pair
            · exact .none
        · exact .none
      · rw [some_, some_']
        exact .some values
    · split
      · exact .some pair
      · exact .none

def reportedKeys (config : RuleConfig) (call : Node) : List PoolKey :=
  (((poolNode? config call).bind Node.fields?).getD []).filterMap fun field =>
    below? field.1 field.2

theorem keys_alike {fs fs' : List (String × Node)} (fields : List.Forall₂ FieldAlike fs fs') :
    (fs.filterMap fun field => below? field.1 field.2) =
      fs'.filterMap fun field => below? field.1 field.2 := by
  induction fields with
  | nil => rfl
  | cons pair rest ih => rw [List.filterMap_cons, List.filterMap_cons, below?_alike pair, ih]

theorem reportedKeys_alike (alike : n.Alike m) (left : IntactPool config n)
    (right : IntactPool config m) : reportedKeys config n = reportedKeys config m := by
  unfold reportedKeys
  rcases Node.missing_or_related (poolNode?_alike alike left right) with
    ⟨none, none'⟩ | ⟨pool, pool', holds, holds', pair⟩
  · rw [none, none']
  · have fields := fields?_alike pair (left.dict pool ((poolNode_iff config n pool).mpr holds))
      (right.dict pool' ((poolNode_iff config m pool').mpr holds'))
    rw [holds, holds', Option.bind_some, Option.bind_some]
    rcases Node.missing_or_related fields with ⟨none, none'⟩ | ⟨fs, fs', some_, some_', alike⟩
    · rw [none, none']
    · rw [some_, some_', Option.getD_some, Option.getD_some]
      exact keys_alike alike

end Calls

theorem codes_inTree (config : RuleConfig) (file : Path) (root : Node) :
    ((inTree config root).map (diagnostic file)).map (·.code) =
      ((root.ofKind .call).filter (isTargetCall config root)).flatMap fun call =>
        (reportedKeys config call).map fun key => (PoolRule.of key).finding.code := by
  have keys (place : List Nat) (call : Node) : (ofCall config place call).map (·.key) =
      reportedKeys config call := by
    rw [map_ofCall fun key _ => key]
    simp [reportedKeys]
  simp only [inTree, Node.ofKind_eq_placed, List.map_flatMap, List.map_map, List.filter_map,
    List.filter_filter, List.flatMap_map]
  have targets (p : List Nat × Node) : (isTargetCall config root p.2 && p.2.kind == .call) =
      isTargetCall config root p.2 := by
    rw [isTargetCall, Bool.and_comm, ← Bool.and_assoc, Bool.and_self]
  simp only [Function.comp_def, targets]
  refine List.flatMap_congr fun p _ => ?_
  rw [← keys p.1, List.map_map]
  rfl

section Trees

variable {config : RuleConfig} {root root' n m : Node}

theorem isTargetCall_imp (alike : n.Alike m)
    (bindings : Imports.bindings root = Imports.bindings root')
    (left : ∀ name, Rewrapped (calleeText n).toList name.toList →
      Imports.resolve (Imports.bindings root) name ∈ config.targets → Unbroken (calleeText n))
    (right : ∀ name, Rewrapped (calleeText m).toList name.toList →
      Imports.resolve (Imports.bindings root') name ∈ config.targets → Unbroken (calleeText m))
    (target : isTargetCall config root n) : isTargetCall config root' m := by
  obtain ⟨call, resolved⟩ := (Bool.and_eq_true _ _).mp target
  have known : Imports.resolve (Imports.bindings root) (calleeText n) ∈ config.targets :=
    List.contains_iff_mem.mp resolved
  have texts := calleeText_alike alike
  have here := left _ (.refl _) known
  have there := right _ texts.symm (bindings ▸ known)
  have same := texts.same here there
  rw [isTargetCall, ← alike.kind, ← bindings, ← same]
  exact target

/-- Calls of a target are calls of a target in the other tree, and nothing else is. -/
theorem isTargetCall_alike (alike : n.Alike m)
    (bindings : Imports.bindings root = Imports.bindings root')
    (left : ∀ name, Rewrapped (calleeText n).toList name.toList →
      Imports.resolve (Imports.bindings root) name ∈ config.targets → Unbroken (calleeText n))
    (right : ∀ name, Rewrapped (calleeText m).toList name.toList →
      Imports.resolve (Imports.bindings root') name ∈ config.targets → Unbroken (calleeText m)) :
    isTargetCall config root n = isTargetCall config root' m := by
  rw [Bool.eq_iff_iff]
  constructor
  · exact isTargetCall_imp alike bindings left right
  · exact isTargetCall_imp alike.symm bindings.symm right left

theorem codes_calls {codes : PoolKey → String} {ns ms : List Node} (left : Intact config root)
    (right : Intact config root') (bindings : Imports.bindings root = Imports.bindings root')
    (calls : List.Forall₂ Node.Alike ns ms) (inside : ∀ n ∈ ns, n ∈ root.ofKind .call)
    (inside' : ∀ m ∈ ms, m ∈ root'.ofKind .call) :
    ((ns.filter (isTargetCall config root)).flatMap fun call =>
        (reportedKeys config call).map codes) =
      (ms.filter (isTargetCall config root')).flatMap fun call =>
        (reportedKeys config call).map codes := by
  induction calls with
  | nil => rfl
  | @cons n m ns ms pair rest ih =>
    have member := inside n List.mem_cons_self
    have member' := inside' m List.mem_cons_self
    have targets := isTargetCall_alike pair bindings (left.callees n member)
      (right.callees m member')
    have behind := ih (fun n rest => inside n (List.mem_cons_of_mem _ rest))
      fun m rest => inside' m (List.mem_cons_of_mem _ rest)
    rw [List.filter_cons, List.filter_cons, ← targets]
    split
    · rename_i target
      have keys := reportedKeys_alike pair (left.pools n member target)
        (right.pools m member' (targets ▸ target))
      rw [List.flatMap_cons, List.flatMap_cons, keys, behind]
    · exact behind

/-- Two trees report the same codes in the same order. -/
theorem codes_alike (file file' : Path) (alike : root.Alike root') (left : Intact config root)
    (right : Intact config root') :
    ((inTree config root).map (diagnostic file)).map (·.code) =
      ((inTree config root').map (diagnostic file')).map (·.code) := by
  have bindings := Imports.bindings_same alike left.imports right.imports
  have calls := alike.ofKind (show Kind.call ≠ .lineContinuation by decide)
  rw [codes_inTree, codes_inTree]
  exact codes_calls left right bindings calls (fun _ member => member) fun _ member => member

end Trees

end Shortfall
end PoolLint
