import PoolLint.Legality.Future
import PoolLint.Legality.Phrase

/-! Rules for statements and expressions that make sense in some surroundings only: what leaves a
function or a loop, what waits, and how deeply blocks may be nested. -/
namespace PoolLint.Legality.Flow
open PoolLint.Syntax

inductive Around where
  | file
  | classBody
  | function
  | asyncFunction
  | lambda
  | comprehension
  deriving DecidableEq, Repr

/-- What a jump out of a loop meets first. -/
inductive Jump where
  | nothing
  | loop
  | group
  deriving DecidableEq, Repr

structure Surroundings where
  around : Around
  jump : Jump
  inGroup : Bool
  isAsyncGenerator : Bool
  blocks : Nat
  head : Future.Head

namespace Surroundings

def ofFile (head : Future.Head) : Surroundings := ⟨.file, .nothing, false, false, 0, head⟩

def entered (s : Surroundings) (around : Around) : Surroundings :=
  ⟨around, .nothing, false, false, 0, s.head⟩

def isInFunction (s : Surroundings) : Bool := !(s.around == .file || s.around == .classBody)

def deeper (s : Surroundings) (blocks : Nat) : Surroundings :=
  { s with blocks := s.blocks + blocks }

end Surroundings

/-- How many blocks may be nested in a function. -/
def maxBlocks : Nat := 20

mutual

/-- Whether a scope hands over values by a part of it, nested scopes left out. -/
def yields : Node → Bool
  | .mk kind _ _ _ children =>
    match kind with
    | .yield => true
    | .functionDefinition | .classDefinition | .lambda => headYields children
    | _ => anyYields children

def anyYields : List Node → Bool
  | [] => false
  | n :: rest => yields n || anyYields rest

def headYields : List Node → Bool
  | [] => false
  | n :: rest => (n.role != .body && yields n) || headYields rest

end

mutual

/-- Whether a part of a scope waits, so that the scope does too. -/
def waits : Node → Bool
  | .mk kind _ _ _ children =>
    match kind with
    | .await => true
    | .functionDefinition | .classDefinition | .lambda => headWaits children
    | .generatorExpression => firstIterableWaits children
    | .listComprehension | .setComprehension | .dictionaryComprehension =>
      innerWaits true children || firstIterableWaits children
    | .forInClause => (children.any fun c => c.text == "async") || anyWaits children
    | _ => anyWaits children

def anyWaits : List Node → Bool
  | [] => false
  | n :: rest => waits n || anyWaits rest

def headWaits : List Node → Bool
  | [] => false
  | n :: rest => (n.role != .body && waits n) || headWaits rest

/-- Whether what the first loop of a comprehension runs over waits. -/
def firstIterableWaits : List Node → Bool
  | [] => false
  | .mk kind _ _ _ children :: rest =>
    if kind == .forInClause then rightWaits children else firstIterableWaits rest

def rightWaits : List Node → Bool
  | [] => false
  | n :: rest => (n.role == .right && waits n) || rightWaits rest

def leftWaits : List Node → Bool
  | [] => false
  | n :: rest => (n.role != .right && waits n) || leftWaits rest

/-- Whether a comprehension waits in its own scope. -/
def innerWaits (isFirst : Bool) : List Node → Bool
  | [] => false
  | .mk kind role text span children :: rest =>
    if isFirst && kind == .forInClause then
      (children.any fun c => c.text == "async") || leftWaits children || innerWaits false rest
    else waits (.mk kind role text span children) || innerWaits isFirst rest

end

def isAsync (n : Node) : Bool := n.children.any fun c => c.kind == .mark && c.text == "async"

/-- Names that nothing may be bound to. -/
def isProtected (name : String) : Bool := name == "__debug__"

/-- Whether a construct binds a protected name: as a parameter, a keyword, a definition, an import,
or a target. -/
def bindsProtected (n : Node) : Bool :=
  match n.kind with
  | .functionDefinition | .classDefinition | .keywordArgument | .defaultParameter
  | .typedParameter | .typedDefaultParameter | .listSplatPattern | .dictionarySplatPattern
  | .namedExpression | .keywordPattern => (n.child? .name).any (isProtected ·.text)
  | .parameters => (parts n).any fun p => p.kind == .identifier && isProtected p.text
  | .assignment | .augmentedAssignment | .forStatement => (n.childrenIn .left).any setsProtected
  | .listComprehension | .setComprehension | .dictionaryComprehension | .generatorExpression =>
    (children n .forInClause).any fun c => (c.childrenIn .left).any setsProtected
  | .caseClause =>
    ((CasePattern.boundEach? (CasePattern.patternsOf n)).getD []).any (·.any isProtected)
  | .importStatement | .importFromStatement =>
    (n.childrenIn .name).any fun p =>
      p.kind == .dottedName && (parts p).head?.any (isProtected ·.text)
  | .deleteStatement => (n.childrenIn .value).any setsProtected
  | .asPattern => (n.childrenIn .newName).any setsProtected
  | .aliasedImport => (n.child? .newName).any (isProtected ·.text)
  | _ => false
where
  setsProtected (n : Node) : Bool :=
    (Node.walk (fun m => m.kind == .tuple || m.kind == .list || m.kind == .parenthesized ||
      m.kind == .expressionList || m.kind == .listSplat) n).any fun m =>
      match m.kind with
      | .identifier => isProtected m.text
      | .attribute => (m.child? .name).any (isProtected ·.text)
      | _ => false

def flowRules (s : Surroundings) (n : Node) : List Violation :=
  let ok (b : Bool) : List Violation := require b n
  ok (!bindsProtected n) ++
  match n.kind with
  | .returnStatement =>
    ok (s.isInFunction && !s.inGroup && !(s.isAsyncGenerator && (n.child? .value).isSome))
  | .breakStatement | .continueStatement => ok (s.jump == .loop)
  | .yield =>
    ok (s.isInFunction && !(s.around == .asyncFunction && hasMark n "from"))
  | .await => ok (s.around == .asyncFunction || s.around == .comprehension)
  | .forStatement | .withStatement => ok (!isAsync n || s.around == .asyncFunction)
  | .listComprehension | .setComprehension | .dictionaryComprehension =>
    ok (s.around == .asyncFunction || s.around == .comprehension || !innerWaits true n.children)
  | .argumentList =>
    ((repeatedKeywords (parts n)).take 1).map Violation.ofNode
  | .futureImportStatement => ok (!Future.isLate s.head n && Future.areFeaturesKnown n)
  | .tryStatement =>
    partNot (fun c => (c.child? .value).isSome) (children n .exceptClause).dropLast
  | .matchStatement =>
    CasePattern.matchRules
      ((n.childrenIn .body).flatMap fun b => children b .caseClause)
  | _ => []

def inDefinition (s : Surroundings) (n : Node) : Surroundings :=
  if isAsync n then
    { s.entered .asyncFunction with isAsyncGenerator := (n.childrenIn .body).any yields }
  else s.entered .function

def blocksOf (n : Node) : Nat :=
  match n.kind with
  | .forStatement | .whileStatement => 1
  | .withStatement =>
    match managedItems n with
    | [item] => if isManagedGroup item then (parts item).length else 1
    | items => items.length
  | .tryStatement =>
    (if (children n .exceptClause).isEmpty then 0 else 1) +
      (if (children n .finallyClause).isEmpty then 0 else 1)
  | _ => 0

def surroundingsOf (s : Surroundings) (n part : Node) : Surroundings :=
  match n.kind, part.kind, part.role with
  | .functionDefinition, _, .body => inDefinition s n
  | .classDefinition, _, .body => s.entered .classBody
  | .lambda, _, .body => s.entered .lambda
  | .forStatement, _, .body | .whileStatement, _, .body => { s.deeper 1 with jump := .loop }
  | .withStatement, _, .body => s.deeper (blocksOf n)
  | .tryStatement, .finallyClause, _ => s.deeper 1
  | .tryStatement, .exceptClause, _ =>
    let inner := s.deeper ((if (children n .finallyClause).isEmpty then 0 else 1) + 2)
    if hasMark part "*" then { inner with jump := .group, inGroup := true } else inner
  | .tryStatement, .elseClause, _ =>
    s.deeper (if (children n .finallyClause).isEmpty then 0 else 1)
  | .tryStatement, _, .body => s.deeper (blocksOf n)
  | _, _, _ => s

def nestsTooDeeply (s : Surroundings) (n : Node) : Bool :=
  match n.kind with
  | .forStatement | .whileStatement | .withStatement => maxBlocks < s.blocks + blocksOf n
  | .tryStatement =>
    maxBlocks < s.blocks + blocksOf n + (if (children n .exceptClause).isEmpty then 0 else 1)
  | _ => false

def isComprehension (k : Kind) : Bool :=
  k == .listComprehension || k == .setComprehension || k == .dictionaryComprehension ||
    k == .generatorExpression

mutual

/-- The violations of all constructs in a tree, outer ones first. -/
def faults (s : Surroundings) : Node → List Violation
  | .mk kind role text span children =>
    let n := Node.mk kind role text span children
    flowRules s n ++ require (!nestsTooDeeply s n) n ++
      (if isComprehension kind then comprehensionFaults s true children
      else partFaults s n children)

def partFaults (s : Surroundings) (whole : Node) : List Node → List Violation
  | [] => []
  | n :: rest => faults (surroundingsOf s whole n) n ++ partFaults s whole rest

/-- The violations in a comprehension. What its first loop runs over is outside its scope. -/
def comprehensionFaults (s : Surroundings) (isFirst : Bool) : List Node → List Violation
  | [] => []
  | .mk kind role text span children :: rest =>
    if isFirst && kind == .forInClause then
      loopFaults s children ++ comprehensionFaults s false rest
    else faults (s.entered .comprehension) (.mk kind role text span children) ++
      comprehensionFaults s isFirst rest

/-- The violations in the first loop of a comprehension. -/
def loopFaults (s : Surroundings) : List Node → List Violation
  | [] => []
  | n :: rest =>
    (if n.role == .right then faults s n else faults (s.entered .comprehension) n) ++
      loopFaults s rest

end

/-- The first violation of the rules for surroundings in a file. -/
def faultOf (head : Future.Head) (module : Node) : Option Violation :=
  (faults (Surroundings.ofFile head) module).head?

end PoolLint.Legality.Flow
