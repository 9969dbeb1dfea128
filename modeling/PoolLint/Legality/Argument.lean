import PoolLint.Legality.Form

/-! Rules for the arguments of calls and the parameters of functions. -/
namespace PoolLint.Legality
open PoolLint.Syntax

/-- The place of arguments in a call: first come plain ones, then named ones, and behind a spread
record nothing but named ones and further records. -/
inductive ArgumentStage where
  | plain
  | named
  | records
  deriving DecidableEq, Repr

def isPlainArgument (n : Node) : Bool :=
  !(n.kind == .keywordArgument || n.kind == .dictionarySplat || n.kind == .listSplat)

def ArgumentStage.after? (stage : ArgumentStage) (n : Node) : Option ArgumentStage :=
  match n.kind, stage with
  | .keywordArgument, .plain => some .named
  | .keywordArgument, stage => some stage
  | .dictionarySplat, _ => some .records
  | .listSplat, .records => none
  | .listSplat, stage => some stage
  | _, .plain => some .plain
  | _, _ => none

def fromMisplaced (stage : ArgumentStage) : List Node → List Node
  | [] => []
  | n :: rest =>
    match stage.after? n with
    | some stage => fromMisplaced stage rest
    | none => n :: rest

/-- Where a misplaced plain argument is noticed. The arguments from it on are read as a list of
their own; the place is where that list ends: at the closing bracket, or behind the next misplaced
plain argument. -/
def noticedAt (children misplaced : List Node) : Option Node :=
  match fromMisplaced .plain misplaced with
  | [] => children.getLast?
  | second :: _ =>
    match children.dropWhile (·.span.start.byte ≤ second.span.start.byte) with
    | [] => children.getLast?
    | behind => (behind.find? (·.kind == .mark)).orElse fun _ => children.getLast?

def argumentOrder (lines : List (List Char)) (n : Node) : List Violation :=
  match fromMisplaced .plain (parts n) with
  | [] => []
  | first :: rest =>
    if isPlainArgument first then
      ((noticedAt n.children (first :: rest)).map fun at_ =>
        Violation.inCharacters lines at_.span).toList
    else [Violation.ofNode first]

def isArgumentLegal (n : Node) : Bool :=
  match n.kind with
  | .listSplat | .dictionarySplat => (parts n).all isExpression
  | .keywordArgument => (n.child? .value).all isExpression
  | _ => isNamedOrExpression n

/-- A comma needs something in front of it. -/
def hasLoneComma (n : Node) : Bool :=
  (parts n).isEmpty && n.children.any fun c => c.kind == .mark && c.text == ","

def argumentRules (lines : List (List Char)) (n : Node) : List Violation :=
  require (!hasLoneComma n) n ++ partNot isArgumentLegal (parts n) ++ argumentOrder lines n

/-- Named arguments that have the name of one before them. -/
def repeatedKeywords : List Node → List Node
  | [] => []
  | n :: rest =>
    let name (m : Node) : String := ((m.child? .name).map (·.text)).getD ""
    let same := rest.filter fun m => m.kind == .keywordArgument && name m == name n
    if n.kind == .keywordArgument then same ++ repeatedKeywords rest else repeatedKeywords rest

/-- The place of parameters in a list: what may still come. -/
structure ParameterStage where
  positionalOnly : Bool
  positional : Bool
  defaulted : Bool
  needsNamed : Bool
  closed : Bool
  isFirst : Bool

def ParameterStage.start : ParameterStage := ⟨true, true, false, false, false, true⟩

def parameterPattern (n : Node) : Node :=
  if n.kind == .typedParameter then
    match n.children with
    | first :: _ => first
    | [] => n
  else n

def hasDefault (n : Node) : Bool :=
  n.kind == .defaultParameter || n.kind == .typedDefaultParameter

def ParameterStage.after? (s : ParameterStage) (n : Node) : Option ParameterStage :=
  if s.closed then none
  else match (parameterPattern n).kind with
    | .positionalSeparator =>
      if s.positionalOnly && !s.isFirst && s.positional then
        some { s with positionalOnly := false }
      else none
    | .keywordSeparator =>
      if s.positional then
        some { s with positional := false, needsNamed := true, isFirst := false }
      else none
    | .listSplatPattern =>
      if s.positional then some { s with positional := false, isFirst := false } else none
    | .dictionarySplatPattern =>
      if s.needsNamed then none else some { s with closed := true, isFirst := false }
    | _ =>
      if s.positional then
        if s.defaulted && !hasDefault n then none
        else some { s with defaulted := hasDefault n, isFirst := false }
      else some { s with needsNamed := false, isFirst := false }

def areParametersOrdered (s : ParameterStage) : List Node → Bool
  | [] => !s.needsNamed
  | n :: rest =>
    match s.after? n with
    | none => false
    | some s => areParametersOrdered s rest

def isTypeLegal (n : Node) : Bool := n.kind == .type && (parts n).all isExpression

/-- Whether an annotation of a parameter is legal: that of one that takes what is left over may be
spread. -/
def isParameterTypeLegal (n : Node) : Bool :=
  (n.child? .type).all fun t =>
    isTypeLegal t ||
      (t.kind == .splatType && t.children.any (·.text == "*") &&
        (parameterPattern n).kind == .listSplatPattern)

def isParameterLegal (n : Node) : Bool :=
  let name := n.child? .name
  isParameterTypeLegal n && (n.child? .value).all isExpression &&
    !(n.kind == .tuple || n.kind == .parenthesized) &&
    name.all fun m => m.kind == .identifier

def parameterRules (n : Node) : List Violation :=
  partNot isParameterLegal (parts n) ++ require (areParametersOrdered .start (parts n)) n

end PoolLint.Legality
