import PoolLint.Lowering
import PoolLint.Proofs.CheckedCalls

/-! What lowering keeps of a node: the text of a literal, the fields of a record, and where it
stands. Each is read off the tree directly here, and lowering is shown to keep exactly that. -/
namespace PoolLint.Syntax.Node
open Lowering

def isLiteral (n : Node) : Bool := (literalKind? n.kind).isSome

/-- The text of a literal, or of an operator and a literal behind it. -/
def literalText? (n : Node) : Option String :=
  if n.isLiteral then some n.text
  else if n.kind = .unaryOperator then
    match n.child? .operator, n.child? .operand with
    | some operator, some operand =>
      if operand.isLiteral then some (operator.text ++ operand.text) else none
    | _, _ => none
  else none

def named? (n : Node) : Option (String × Node) :=
  if n.kind = .keywordArgument then
    match n.child? .name, n.child? .value with
    | some name, some value => some (name.text, value)
    | _, _ => none
  else none

def keyed? (n : Node) : Option (String × Node) :=
  if n.kind = .pair then
    match n.child? .key, n.child? .value with
    | some key, some value => if key.kind = .string then some (key.text, value) else none
    | _, _ => none
  else none

/-- The arguments of a call of `dict` that are all named or spread. -/
def dictArguments? (n : Node) : Option (List Node) :=
  match n.child? .function, n.child? .arguments with
  | some function, some arguments =>
    if function.text = "dict" ∧ arguments.kind = .argumentList ∧
        arguments.entries.all (isNamedOrSpread ·.kind) then some arguments.entries
    else none
  | _, _ => none

/-- The entries of a record and how each of them is read. -/
def record? (n : Node) : Option (List Node × (Node → Option (String × Node))) :=
  if n.kind = .dictionary then some (n.entries, keyed?)
  else if n.kind = .call then n.dictArguments?.map (·, named?)
  else none

def fields? (n : Node) : Option (List (String × Node)) :=
  n.record?.map fun r => r.1.filterMap r.2

theorem keyed?_eq_some {n value : Node} {name : String} : n.keyed? = some (name, value) ↔
    n.kind = .pair ∧ ∃ key, n.child? .key = some key ∧ key.kind = .string ∧ key.text = name ∧
      n.child? .value = some value := by
  unfold keyed?
  by_cases pair : n.kind = .pair
  · cases n.child? .key with
    | none => simp [pair]
    | some key =>
      cases n.child? .value with
      | none => simp [pair]
      | some found => by_cases plain : key.kind = .string <;> simp [pair, plain]
  · simp [pair]

theorem dictArguments?_eq_some {n : Node} {entries : List Node} :
    n.dictArguments? = some entries ↔ ∃ function arguments, n.child? .function = some function ∧
      function.text = "dict" ∧ n.child? .arguments = some arguments ∧
      arguments.kind = .argumentList ∧ arguments.entries = entries ∧
      ∀ e ∈ entries, e.kind = .keywordArgument ∨ e.kind = .dictionarySplat := by
  unfold dictArguments?
  cases n.child? .function with
  | none => simp
  | some function =>
    cases n.child? .arguments with
    | none => simp
    | some arguments =>
      simp only [Option.ite_none_right_eq_some, List.all_eq_true, isNamedOrSpread,
        Bool.or_eq_true, beq_iff_eq, Option.some.injEq]
      constructor
      · rintro ⟨⟨dict, list, fitting⟩, rfl⟩
        exact ⟨function, arguments, rfl, dict, rfl, list, rfl, fitting⟩
      · rintro ⟨_, _, rfl, dict, rfl, list, rfl, fitting⟩
        exact ⟨⟨dict, list, fitting⟩, rfl⟩

end PoolLint.Syntax.Node

namespace PoolLint.Lowering
open PoolLint.Syntax PoolCheck

theorem valueIn_eq (file : Path) (role : Role) (nodes : List Node) :
    valueIn file role nodes = (nodes.find? (·.role == role)).map (exprOf file) := by
  induction nodes with
  | nil => rfl
  | cons n rest ih =>
    simp only [valueIn, List.find?_cons]
    cases n.role == role with
    | true => rfl
    | false => exact ih

theorem exprOf_literal (file : Path) (n : Node) (kind : LiteralKind)
    (literal : literalKind? n.kind = some kind) :
    exprOf file n = ⟨.literal kind n.text (location file n.span), [.enter 1]⟩ := by
  obtain ⟨_, role, text, span, children⟩ := n
  simp only [Node.kind_mk] at literal
  simp only [exprOf, literal, Node.text_mk, Node.span_mk]

theorem exprOf_ne_literal (file : Path) (n : Node) (unfit : n.isLiteral = false)
    (kind : LiteralKind) (text : String) (place : Location) :
    (exprOf file n).value ≠ .literal kind text place := by
  obtain ⟨_, role, written, span, children⟩ := n
  simp only [Node.isLiteral, Node.kind_mk, Option.isSome_eq_false_iff, Option.isNone_iff_eq_none]
    at unfit
  simp only [exprOf, unfit]
  repeat' split
  all_goals simp [other]

theorem exprOf_location (file : Path) (n : Node) :
    (exprOf file n).value.location = location file n.span := by
  obtain ⟨kind, role, text, span, children⟩ := n
  simp only [exprOf]
  repeat' split
  all_goals simp [other, Expr.location]

private theorem readableText?_unary (file : Path) (operator text : String) (operand : Node)
    (place : Location) :
    readableText? (.unary operator (exprOf file operand).value text place) =
      (if operand.isLiteral then some (operator ++ operand.text) else none).map plainToken := by
  cases literal : operand.isLiteral with
  | true =>
    obtain ⟨kind, found⟩ := Option.isSome_iff_exists.mp literal
    simp [exprOf_literal file operand kind found, readableText?]
  | false =>
    have noLiteral := exprOf_ne_literal file operand literal
    cases lowered : (exprOf file operand).value with
    | literal kind text place => exact absurd lowered (noLiteral kind text place)
    | unary => rfl
    | record => rfl
    | other => rfl

theorem readableText?_exprOf (file : Path) (n : Node) :
    readableText? (exprOf file n).value = n.literalText?.map plainToken := by
  cases literal : literalKind? n.kind with
  | some kind => simp [exprOf_literal file n kind literal, readableText?, Node.literalText?,
      Node.isLiteral, literal]
  | none =>
    have unfit : n.isLiteral = false := by simp [Node.isLiteral, literal]
    simp only [Node.literalText?, unfit, Bool.false_eq_true, if_false]
    obtain ⟨kind, role, text, span, children⟩ := n
    simp only [Node.kind_mk] at literal
    simp only [exprOf, literal, Node.kind_mk]
    by_cases unary : kind = .unaryOperator
    · subst unary
      simp only [if_true, textIn?, valueIn_eq, Node.child?, Node.children_mk]
      cases children.find? (·.role == Role.operator) with
      | none => simp [readableText?, other]
      | some operator =>
        cases children.find? (·.role == Role.operand) with
        | none => simp [readableText?, other]
        | some operand => exact readableText?_unary file operator.text text operand _
    · simp only [unary, if_false, Option.map_none]
      repeat' split
      all_goals simp_all [readableText?, other]

def settingOf? (f : Field) : Option (String × Expr) :=
  f.key.map fun key => (plainToken key, f.value)

def settingAt (file : Path) (field : String × Node) : String × Expr :=
  (plainToken field.1, (exprOf file field.2).value)

theorem settings?_record (fields : List Field) (text : String) (place : Location) :
    settings? (.record fields text place) = some (fields.filterMap settingOf?) := rfl

private theorem recordField?_setting (file : Path) (n : Node) :
    (recordField? file n).bind (settingOf? ·.value) = n.keyed?.map (settingAt file) := by
  obtain ⟨kind, role, text, span, children⟩ := n
  simp only [recordField?, Node.keyed?, Node.kind_mk]
  by_cases pair : kind = .pair
  · subst pair
    simp only [if_true, valueIn_eq, Node.child?, Node.children_mk]
    cases children.find? (·.role == Role.key) with
    | none => rfl
    | some key =>
      cases children.find? (·.role == Role.value) with
      | none => rfl
      | some value =>
        by_cases plain : key.kind = .string <;>
          simp [writtenKey?, plain, settingOf?, settingAt, Field.key, Field.value]
  · simp only [pair, if_false]
    split <;> simp_all [settingOf?, Field.key]

private theorem dictField?_setting (file : Path) (n : Node) :
    (dictField? file n).bind (settingOf? ·.value) = n.named?.map (settingAt file) := by
  obtain ⟨kind, role, text, span, children⟩ := n
  simp only [dictField?, Node.named?, Node.kind_mk]
  by_cases keyword : kind = .keywordArgument
  · subst keyword
    simp only [if_true, textIn?, valueIn_eq, Node.child?, Node.children_mk]
    cases children.find? (·.role == Role.name) with
    | none => rfl
    | some name =>
      cases children.find? (·.role == Role.value) with
      | none => rfl
      | some value => rfl
  · simp only [keyword, if_false]
    split <;> simp_all [settingOf?, Field.key]

theorem entries_eq (n : Node) : n.entries = n.children.filter fun c => !isSkipped c.kind := by
  simp only [Node.entries, Node.namedChildren, Node.isNamed, List.filter_filter]
  refine List.filter_congr fun c _ => ?_
  cases mark : c.kind == .mark <;> cases comment : c.kind == .comment <;>
    simp [bne, isSkipped, mark, comment]

private theorem recordFields_settings (file : Path) (nodes : List Node) :
    (recordFields file nodes).value.filterMap settingOf? =
      ((nodes.filter fun n => !isSkipped n.kind).filterMap Node.keyed?).map (settingAt file) := by
  induction nodes with
  | nil => rfl
  | cons n rest ih =>
    have head := recordField?_setting file n
    have whole : (recordFields file (n :: rest)).value.filterMap settingOf? =
        (n.keyed?.map (settingAt file)).toList ++
          (recordFields file rest).value.filterMap settingOf? := by
      rw [← head]
      simp only [recordFields]
      cases recordField? file n with
      | none => rfl
      | some field => cases made : settingOf? field.value <;> simp [made]
    rw [whole, ih]
    cases skipped : isSkipped n.kind with
    | true =>
      have unkeyed : n.keyed? = none := by
        simp only [isSkipped, Bool.or_eq_true, beq_iff_eq] at skipped
        rcases skipped with kind | kind <;> simp [Node.keyed?, kind]
      simp [skipped, unkeyed]
    | false => cases keyed : n.keyed? <;> simp [skipped, keyed]

private theorem dictEntries_complete (file : Path) (nodes : List Node) :
    (dictEntries file nodes).isComplete =
      (nodes.filter fun n => !isSkipped n.kind).all (isNamedOrSpread ·.kind) := by
  induction nodes with
  | nil => rfl
  | cons n rest ih =>
    simp only [dictEntries, List.filter_cons]
    cases isSkipped n.kind with
    | true => exact ih
    | false =>
      simp only [Bool.false_eq_true, if_false, Bool.not_false, if_true, List.all_cons]
      cases isNamedOrSpread n.kind with
      | false => rfl
      | true => cases dictField? file n <;> exact ih

private theorem dictEntries_settings (file : Path) (nodes : List Node)
    (complete : (dictEntries file nodes).isComplete = true) :
    (dictEntries file nodes).fields.filterMap settingOf? =
      ((nodes.filter fun n => !isSkipped n.kind).filterMap Node.named?).map (settingAt file) := by
  induction nodes with
  | nil => rfl
  | cons n rest ih =>
    have head := dictField?_setting file n
    simp only [dictEntries, List.filter_cons] at complete ⊢
    cases skipped : isSkipped n.kind with
    | true =>
      simp only [skipped, if_true] at complete
      simpa using ih complete
    | false =>
      simp only [skipped, Bool.false_eq_true, if_false, Bool.not_false, if_true,
        List.filterMap_cons] at complete ⊢
      cases fitting : isNamedOrSpread n.kind with
      | false => simp [fitting] at complete
      | true =>
        simp only [fitting, if_true] at complete ⊢
        cases made : dictField? file n with
        | none =>
          rw [made] at head complete
          have unnamed : n.named? = none := by simpa using head.symm
          simp [unnamed, ih complete]
        | some field =>
          rw [made] at head complete
          have rest := ih complete
          cases named : n.named? with
          | none =>
            have unset : settingOf? field.value = none := by simpa [named] using head
            simp [DictEntries.cons, unset, rest]
          | some pair =>
            have set : settingOf? field.value = some (settingAt file pair) := by
              simpa [named] using head
            simp [DictEntries.cons, set, rest]

theorem argumentFields?_eq (file : Path) (n : Node) :
    argumentFields? file n =
      if n.kind = .argumentList then some (dictEntries file n.children) else none := by
  obtain ⟨kind, role, text, span, children⟩ := n
  simp only [argumentFields?, Node.kind_mk, Node.children_mk]
  split <;> simp_all

theorem dictFields_eq (file : Path) (nodes : List Node) :
    dictFields file nodes = (nodes.find? (·.role == .arguments)).bind (argumentFields? file) := by
  induction nodes with
  | nil => rfl
  | cons n rest ih =>
    simp only [dictFields, List.find?_cons]
    cases n.role == .arguments with
    | true => rfl
    | false => exact ih

theorem exprOf_dictionary (file : Path) (n : Node) (dictionary : n.kind = .dictionary) :
    (exprOf file n).value =
      .record (recordFields file n.children).value n.text (location file n.span) := by
  obtain ⟨_, role, text, span, children⟩ := n
  cases dictionary
  rfl

/-- The entries of a call of `dict` with a list of arguments, as far as they are read. -/
def dictCall? (file : Path) (n : Node) : Option DictEntries :=
  match n.child? .function, n.child? .arguments with
  | some function, some arguments =>
    if function.text = "dict" ∧ arguments.kind = .argumentList then
      some (dictEntries file arguments.children)
    else none
  | _, _ => none

theorem exprOf_call (file : Path) (n : Node) (call : n.kind = .call) :
    (exprOf file n).value = match (dictCall? file n).filter (·.isComplete) with
      | some entries => .record entries.fields n.text (location file n.span)
      | none => other file .call n.text n.span := by
  obtain ⟨_, role, text, span, children⟩ := n
  cases call
  simp only [exprOf, literalKind?, dictCall?, textIn?, dictFields_eq, Node.child?,
    Node.children_mk, Node.text_mk, Node.span_mk]
  cases children.find? (·.role == Role.function) with
  | none => rfl
  | some function =>
    by_cases dict : function.text = "dict"
    · cases children.find? (·.role == Role.arguments) with
      | none => simp [dict]
      | some arguments =>
        by_cases list : arguments.kind = .argumentList
        · cases complete : (dictEntries file arguments.children).isComplete <;>
            simp [dict, list, argumentFields?_eq, complete, Option.filter]
        · simp [dict, list, argumentFields?_eq]
    · cases children.find? (·.role == Role.arguments) <;> simp [dict]

private theorem dictCall?_settings (file : Path) (n : Node) :
    ((dictCall? file n).filter (·.isComplete)).map (·.fields.filterMap settingOf?) =
      n.dictArguments?.map fun entries => (entries.filterMap Node.named?).map (settingAt file) := by
  unfold dictCall? Node.dictArguments?
  cases n.child? .function with
  | none => rfl
  | some function =>
    cases n.child? .arguments with
    | none => rfl
    | some arguments =>
      by_cases isDict : function.text = "dict" ∧ arguments.kind = .argumentList
      · have all := dictEntries_complete file arguments.children
        rw [← entries_eq] at all
        cases complete : (dictEntries file arguments.children).isComplete with
        | true =>
          rw [complete] at all
          simp [isDict, Option.filter, complete, ← all,
            dictEntries_settings file _ complete, ← entries_eq]
        | false =>
          rw [complete] at all
          simp [isDict, Option.filter, complete, ← all]
      · simp [isDict, ← and_assoc]

/-- The settings of an expression are the ones that its node writes out as a record. -/
theorem settings?_exprOf (file : Path) (n : Node) :
    settings? (exprOf file n).value = n.fields?.map (·.map (settingAt file)) := by
  unfold Node.fields? Node.record?
  by_cases dictionary : n.kind = .dictionary
  · rw [exprOf_dictionary file n dictionary, settings?_record, recordFields_settings, ← entries_eq]
    simp [dictionary]
  · by_cases call : n.kind = .call
    · have settings := dictCall?_settings file n
      rw [exprOf_call file n call]
      cases made : (dictCall? file n).filter (·.isComplete) with
      | none =>
        rw [made] at settings
        simp [call, settings?, other, Function.comp_def, ← settings]
      | some entries =>
        rw [made] at settings
        simp [call, settings?_record, Function.comp_def, ← settings]
    · have noRecord : settings? (exprOf file n).value = none := by
        obtain ⟨kind, role, text, span, children⟩ := n
        simp only [exprOf]
        repeat' split
        all_goals simp_all [settings?, other]
      simp [dictionary, call, noRecord]

theorem argumentOf_eq (file : Path) (n : Node) :
    argumentOf file n = match n.named? with
      | some (name, value) =>
        ⟨.named name (exprOf file value).value, (exprOf file value).steps⟩
      | none => ⟨.positional (exprOf file n).value, (exprOf file n).steps⟩ := by
  simp only [argumentOf, textIn?, valueIn_eq, Node.named?, Node.child?]
  by_cases keyword : n.kind = .keywordArgument
  · simp only [keyword, if_true]
    cases n.children.find? (·.role == Role.name) with
    | none => rfl
    | some name =>
      cases n.children.find? (·.role == Role.value) with
      | none => rfl
      | some value => rfl
  · simp only [keyword, if_false]
    split <;> simp_all

theorem argumentOf_value (file : Path) (n : Node) :
    (argumentOf file n).value = match n.named? with
      | some (name, value) => .named name (exprOf file value).value
      | none => .positional (exprOf file n).value := by
  rw [argumentOf_eq]
  cases n.named? <;> rfl

end PoolLint.Lowering
