import PoolLint.Legality.CasePattern
import PoolLint.Text.Blank

/-! Rules for names: which of them belong to a function, a class or the file, and which declarations
contradict each other. A tree is first read as the steps of a walk through its scopes; the walk
collects what each scope does with its names. -/
namespace PoolLint.Legality.Scope
open PoolLint.Syntax

inductive ScopeKind where
  | file
  | classBody
  | function
  | comprehension
  deriving DecidableEq, Repr

inductive Step where
  | enter (kind : ScopeKind)
  | leave
  | use (name : String)
  | bind (name : String)
  | importName (name : String)
  | importAll (at_ : Span)
  | parameter (name : String) (at_ : Span)
  | annotate (name : String) (at_ : Span)
  | globals (names : List String) (at_ : Span)
  | nonlocals (names : List String) (at_ : Span)
  | assignInPassing (name : String) (at_ : Span)
  | yield (at_ : Span)
  | target (inside : Bool)
  | iterable (inside : Bool)

/-- The kinds of parameters in the order in which their names are entered. -/
def parameterRank (starred : Bool) (n : Node) : Nat :=
  match n.kind with
  | .listSplatPattern => 2
  | .dictionarySplatPattern => 3
  | _ => if starred then 1 else 0

def patternOf (n : Node) : Node :=
  match n.kind, n.children with
  | .typedParameter, first :: _ =>
    if first.kind == .listSplatPattern || first.kind == .dictionarySplatPattern then first else n
  | _, _ => n

/-- The name of a parameter with its place: from the name to the end of its annotation. -/
def parameterStep? (n : Node) : Option Step :=
  let named := if n.kind == .identifier then some n else (patternOf n).child? .name
  named.map fun name =>
    let stop := match n.child? .type with
      | some type => type.span.stop
      | none => name.span.stop
    .parameter name.text ⟨name.span.start, stop⟩

def ofRank (rank : Nat) (starred : Bool) : List Node → List Node
  | [] => []
  | n :: rest =>
    let kind := (patternOf n).kind
    let star := kind == .listSplatPattern || kind == .keywordSeparator
    let others := ofRank rank (starred || star) rest
    if parameterRank starred (patternOf n) == rank then n :: others else others

/-- The parameters in the order in which their names are entered: those that have a position, those
that are always named, and those that take what is left over. -/
def parameterSteps (parameters : Option Node) : List Step :=
  match parameters with
  | none => []
  | some n =>
    [0, 1, 2, 3].flatMap fun rank => (ofRank rank false (parts n)).filterMap parameterStep?

def isSet (parent : Kind) (role : Role) : Bool :=
  match parent, role with
  | .assignment, .left | .augmentedAssignment, .left | .forStatement, .left
  | .forInClause, .left | .asPattern, .newName | .deleteStatement, .value => true
  | _, _ => false

/-- Whether an occurrence names something that is no variable. -/
def isLabel (parent : Kind) (role : Role) : Bool :=
  match parent, role with
  | .attribute, .name | .keywordArgument, .name | .functionDefinition, .name
  | .classDefinition, .name | .namedExpression, .name => true
  | _, _ => false

def importedName (n : Node) : String :=
  if n.kind == .aliasedImport then ((n.child? .newName).map (·.text)).getD ""
  else String.ofList (n.text.toList.takeWhile fun c =>
    !(c == '.' || Text.isBlank c || c == '\\'))

def importSteps (n : Node) : List Step :=
  ((n.childrenIn .name).map fun m => .importName (importedName m)) ++
    ((n.children.filter (·.kind == .wildcardImport)).map fun _ => .importAll n.span)

def declaredNames (n : Node) : List String :=
  (n.children.filter (·.kind == .identifier)).map (·.text)

/-- A node with the steps that it stands for, and with its parts. Labels are left out. -/
inductive Walked where
  | mk (node : Node) (steps : List Step) (parts : List Walked)

namespace Walked

def node : Walked → Node
  | .mk n _ _ => n

def steps : Walked → List Step
  | .mk _ s _ => s

def parts : Walked → List Walked
  | .mk _ _ ps => ps

end Walked

def allSteps (parts : List Walked) : List Step := parts.flatMap (·.steps)

def stepsIn (parts : List Walked) (role : Role) : List Step :=
  allSteps (parts.filter (·.node.role == role))

def stepsNotIn (parts : List Walked) (role : Role) : List Step :=
  allSteps (parts.filter (·.node.role != role))

def nameStep (n : Node) : List Step :=
  ((n.child? .name).map fun name => Step.bind name.text).toList

/-- The steps of the target of an annotated assignment. Only a bare name is annotated. -/
def annotatedSteps (left : Node) (steps : List Step) (hasValue : Bool) : List Step :=
  match left.kind with
  | .identifier => [.annotate left.text left.span]
  | .parenthesized => if hasValue then steps else []
  | _ => steps

def assignmentSteps (n : Node) (parts : List Walked) : List Step :=
  match n.child? .left, n.child? .type with
  | some left, some _ =>
    annotatedSteps left (stepsIn parts .left) (n.child? .right).isSome ++ stepsNotIn parts .left
  | _, _ => allSteps parts

def scopeSteps (kind : ScopeKind) (n : Node) (parts : List Walked) : List Step :=
  [.enter kind] ++ parameterSteps (n.child? .parameters) ++ stepsIn parts .body ++ [.leave]

/-- The loop targets of a comprehension are marked as such, and what is looped over as well. -/
def targetSteps (parts : List Walked) : List Step :=
  [.target true] ++ stepsIn parts .left ++ [.target false]

def loopSteps (parts : List Walked) : List Step :=
  targetSteps parts ++ [.iterable true] ++ stepsIn parts .right ++ [.iterable false]

/-- The clauses of a comprehension. What its first loop runs over is left out. -/
def clauseSteps (isFirst : Bool) : List Walked → List Step
  | [] => []
  | w :: rest =>
    if isFirst && w.node.kind == .forInClause then targetSteps w.parts ++ clauseSteps false rest
    else w.steps ++ clauseSteps isFirst rest

/-- A comprehension: what its first loop runs over, and in a scope of its own the clauses and the
body. -/
def comprehensionSteps (parts : List Walked) : List Step :=
  let first := parts.find? (·.node.kind == .forInClause)
  [.iterable true] ++ stepsIn ((first.map (·.parts)).getD []) .right ++
    [.iterable false, .enter .comprehension] ++
    clauseSteps true (parts.filter (·.node.role != .body)) ++ stepsIn parts .body ++ [.leave]

def caseSteps (n : Node) (parts : List Walked) : List Step :=
  ((CasePattern.boundEach? (CasePattern.patternsOf n)).getD []).flatten.map Step.bind ++
    allSteps (parts.filter fun w => w.node.kind == .ifClause || w.node.role == .body)

def stepsFrom (isSetHere : Bool) (n : Node) (parts : List Walked) : List Step :=
  match n.kind with
  | .identifier => if isSetHere then [.bind n.text] else [.use n.text]
  | .globalStatement => [.globals (declaredNames n) n.span]
  | .nonlocalStatement => [.nonlocals (declaredNames n) n.span]
  | .importStatement | .importFromStatement | .futureImportStatement => importSteps n
  | .functionDefinition => nameStep n ++ stepsNotIn parts .body ++ scopeSteps .function n parts
  | .lambda => stepsNotIn parts .body ++ scopeSteps .function n parts
  | .classDefinition => nameStep n ++ stepsNotIn parts .body ++ scopeSteps .classBody n parts
  | .defaultParameter | .typedDefaultParameter | .typedParameter => stepsNotIn parts .name
  | .listSplatPattern | .dictionarySplatPattern => []
  | .parameters => allSteps (parts.filter (·.node.kind != .identifier))
  | .listComprehension | .setComprehension | .dictionaryComprehension | .generatorExpression =>
    comprehensionSteps parts
  | .forInClause => loopSteps parts
  | .namedExpression =>
    ((n.child? .name).map fun name => Step.assignInPassing name.text name.span).toList ++
      stepsIn parts .value ++ nameStep n
  | .assignment => assignmentSteps n parts
  | .yield => allSteps parts ++ [.yield n.span]
  | .caseClause => caseSteps n parts
  | _ => allSteps parts

/-- Whether the parts of a construct are set where it is set. -/
def isGroup (k : Kind) : Bool :=
  k == .tuple || k == .list || k == .parenthesized || k == .expressionList || k == .listSplat

mutual

def walked (isSetHere : Bool) : Node → Walked
  | .mk kind role text span children =>
    let n := Node.mk kind role text span children
    let parts := walkedParts kind (isSetHere && isGroup kind) children
    .mk n (stepsFrom isSetHere n parts) parts

def walkedParts (parent : Kind) (isSetHere : Bool) : List Node → List Walked
  | [] => []
  | n :: rest =>
    if n.kind == .identifier && isLabel parent n.role then walkedParts parent isSetHere rest
    else walked (isSetHere || isSet parent n.role) n :: walkedParts parent isSetHere rest

end

def stepsOf (root : Node) : List Step := (walked false root).steps

end PoolLint.Legality.Scope
