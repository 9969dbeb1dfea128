import PoolLint.Legality.Argument
import PoolLint.Legality.CasePattern
import PoolLint.Legality.Quoted
import PoolLint.Syntax.Grammar.Phrase

/-! Rules for what may stand where in a construct, beyond what its tree already shows. Each looks at
one construct and its parts. -/
namespace PoolLint.Legality
open PoolLint.Syntax

def reservedWords : List String :=
  ["False", "None", "True", "and", "as", "assert", "async", "await", "break", "class", "continue",
   "def", "del", "elif", "else", "except", "finally", "for", "from", "global", "if", "import", "in",
   "is", "lambda", "nonlocal", "not", "or", "pass", "raise", "return", "try", "while", "with",
   "yield"]

def children (n : Node) (kind : Kind) : List Node := n.children.filter (·.kind == kind)

def hasMark (n : Node) (text : String) : Bool :=
  n.children.any fun c => c.kind == .mark && c.text == text

def endsInComma (n : Node) : Bool :=
  n.children.getLast?.any fun c => c.kind == .mark && c.text == ","

/-- Whether a tree is a target by itself: a name, an attribute, an element, or one of them in
parentheses. -/
def isSingleTarget : Node → Bool
  | .mk kind _ _ _ children =>
    match kind with
    | .identifier | .attribute | .subscript => true
    | .parenthesized => holdsTarget children
    | _ => false
where
  holdsTarget : List Node → Bool
    | [] => true
    | .mk kind role text span children :: rest =>
      (kind == .mark || isSingleTarget (.mk kind role text span children)) && holdsTarget rest

mutual

/-- A tuple or a list can take one spread target, and parentheses alone none. -/
def spreadsAreLegal : Node → Bool
  | .mk kind _ _ _ children =>
    match kind with
    | .tuple | .list | .expressionList => oneSpread false children
    | .parenthesized => noSpread children
    | .listSplat => false
    | _ => true

def oneSpread (seen : Bool) : List Node → Bool
  | [] => true
  | .mk kind role text span children :: rest =>
    if kind == .listSplat then !seen && oneSpread true rest
    else spreadsAreLegal (.mk kind role text span children) && oneSpread seen rest

def noSpread : List Node → Bool
  | [] => true
  | n :: rest => spreadsAreLegal n && noSpread rest

end

/-- What an assignment or a loop may set. -/
def isTarget (n : Node) : Bool := Grammar.isTarget n && spreadsAreLegal n

mutual

/-- The parts of what is deleted that cannot be deleted. -/
def undeletable : Node → List Node
  | .mk kind role text span children =>
    match kind with
    | .identifier | .attribute | .subscript => []
    | .tuple | .list | .parenthesized | .expressionList => allUndeletable children
    | .mark | .comment | .lineContinuation => []
    | _ => [.mk kind role text span children]

def allUndeletable : List Node → List Node
  | [] => []
  | n :: rest => undeletable n ++ allUndeletable rest

end

/-- What a wait may be for: a value that no operator makes, raised to a power at most. -/
def isAwaitable : Node → Bool
  | .mk kind _ _ _ children =>
    match kind with
    | .unaryOperator | .await => false
    | .binaryOperator =>
      (children.any fun c => c.role == .operator && c.text == "**") && firstAwaitable children
    | _ => true
where
  firstAwaitable : List Node → Bool
    | [] => false
    | n :: _ => isAwaitable n

def areClausesLegal (n : Node) : Bool :=
  (children n .ifClause).all fun c => (parts c).all isDisjunction

def isLoopLegal (n : Node) : Bool :=
  (n.child? .left).all isTarget && (n.childrenIn .right).length == 1 &&
    (n.childrenIn .right).all isDisjunction && !endsInComma n

/-- What a plain assignment hands over: a value, or another plain assignment. -/
def isChained (n : Node) : Bool :=
  if n.kind == .assignment then (n.child? .type).isNone else isAssignable n

def isAssignmentLegal (n : Node) : Bool :=
  match n.child? .left, n.child? .type with
  | some left, none => isTarget left && (n.child? .right).all isChained
  | some left, some type =>
    isSingleTarget left && isTypeLegal type && (n.child? .right).all isAssignable
  | none, _ => false

def isAugmentedLegal (n : Node) : Bool :=
  (n.child? .left).all isSingleTarget && (n.child? .right).all isAssignable

/-- Names imported from a module have no dots, and a list of them ends in no comma unless it is in
parentheses. -/
def isImportFromLegal (n : Node) : Bool :=
  (n.childrenIn .name).all (fun m =>
    !(importedName m).toList.contains '.') && (hasMark n "(" || !endsInComma n)
where
  importedName (m : Node) : String :=
    if m.kind == .aliasedImport then ((m.child? .name).map (·.text)).getD "" else m.text

/-- An old way to print: marks and a file in front of what is printed make a list of values. -/
def isPrintLegal (n : Node) : Bool :=
  match parts n with
  | first :: rest => first.kind == .chevron && (parts first).all isOperand && rest.all isListItem
  | [] => false

def isManagedLegal (n : Node) : Bool :=
  if n.kind == .asPattern then
    (n.child? .value).all isExpression && (n.child? .newName).all isTarget
  else isExpression n

def isManagedGroup (n : Node) : Bool :=
  (n.kind == .tuple || n.kind == .parenthesized) && (parts n).any (·.kind == .asPattern)

def managedItems (n : Node) : List Node :=
  (children n .withClause).flatMap fun clause => (children clause .withItem).flatMap parts

def isWithLegal (n : Node) : Bool :=
  (children n .withClause).all (!endsInComma ·) &&
    match managedItems n with
    | [item] =>
      if isManagedGroup item then (parts item).all isManagedLegal else isManagedLegal item
    | items => items.all isManagedLegal

def isCaughtLegal (n : Node) : Bool :=
  if n.kind == .asPattern then
    (n.child? .value).all isExpression && (n.child? .newName).all (·.kind == .identifier)
  else isExpression n

def isExceptLegal (n : Node) : Bool :=
  (n.child? .value).all isCaughtLegal && (n.child? .newName).isNone &&
    (!hasMark n "*" || (n.child? .value).isSome)

/-- Clauses that catch groups do not mix with plain ones. -/
def isTryLegal (n : Node) : Bool :=
  let clauses := children n .exceptClause
  clauses.all (hasMark · "*") || clauses.all fun c => !hasMark c "*"

def areSubjectsLegal (n : Node) : Bool :=
  let subjects := n.childrenIn .condition
  subjects.all isElement && (hasMark n "," || subjects.all isNamedOrExpression)

/-- The rules for one construct. The lines of the text are needed where a place counts characters.
`inGroup` tells that the construct stands for a list of things to manage. -/
def phraseRules (lines : List (List Char)) (inGroup : Bool) (n : Node) : List Violation :=
  let ok (b : Bool) : List Violation := require b n
  match n.kind with
  | .identifier => ok (!reservedWords.contains n.text)
  | .string => ok (Quoted.isLegal n)
  | .concatenatedString => ok (Quoted.areJoinable n.children)
  | .interpolation => ok ((n.child? .value).all fun v => isAssignable v || isNamedOrExpression v)
  | .parenthesized =>
    if inGroup then [] else ok ((parts n).all fun p => formOf p == .yield || isNamedOrExpression p)
  | .tuple => if inGroup then [] else ok ((parts n).all isElement)
  | .list | .set => ok ((parts n).all isElement)
  | .dictionary =>
    ok (!hasLoneComma n && (children n .dictionarySplat).all fun s => (parts s).all isOperand)
  | .pair => ok ((n.child? .key).all isExpression && (n.child? .value).all isExpression)
  | .listComprehension | .setComprehension | .generatorExpression =>
    ok ((n.child? .body).all isNamedOrExpression && areClausesLegal n)
  | .dictionaryComprehension => ok (areClausesLegal n)
  | .forInClause => ok (isLoopLegal n)
  | .argumentList => argumentRules lines n
  | .subscript =>
    ok (((parts n).drop 1).all fun i => i.kind == .slice || isNamedOrExpression i || isSpread i)
  | .slice => ok ((parts n).all isExpression)
  | .unaryOperator => ok ((n.child? .operand).all isOperand)
  | .await => ok ((n.child? .operand).all fun o => isOperand o && isAwaitable o)
  | .binaryOperator => ok ((n.child? .right).all isOperand)
  | .comparisonOperator =>
    ok ((parts n).all isOperand && !hasMark n "<>")
  | .booleanOperator => ok ((parts n).all isDisjunction)
  | .notOperator => ok ((n.child? .operand).all isDisjunction)
  | .conditionalExpression =>
    ok ((n.child? .body).all (fun b => isDisjunction b || formOf b == .named) &&
      (n.child? .condition).all isDisjunction && (n.child? .alternative).all isExpression)
  | .lambda => ok ((n.child? .body).all isExpression)
  | .namedExpression => ok ((n.child? .value).all isExpression)
  | .yield =>
    ok ((n.child? .value).all fun v => if hasMark n "from" then isExpression v
      else isExpressionList v)
  | .parameters => parameterRules n
  | .type => ok ((parts n).all isExpression)
  | .constrainedType | .typeParameter | .execStatement | .typeAliasStatement => ok false
  | .expressionStatement =>
    ok ((parts n).all fun v => isAssignable v || formOf v == .statement)
  | .assignment => ok (isAssignmentLegal n)
  | .augmentedAssignment => ok (isAugmentedLegal n)
  | .returnStatement => ok ((n.child? .value).all isExpressionList)
  | .deleteStatement =>
    ((n.childrenIn .value).flatMap undeletable).take 1 |>.map
      (Violation.inCharacters lines ·.span)
  | .raiseStatement =>
    ok ((n.child? .value).all isExpression && (n.child? .right).all isExpression &&
      ((n.child? .right).isNone || (n.child? .value).isSome))
  | .assertStatement => ok ((parts n).length ≤ 2 && (parts n).all isExpression)
  | .importStatement => ok (!endsInComma n)
  | .importFromStatement | .futureImportStatement => ok (isImportFromLegal n)
  | .printStatement => ok (isPrintLegal n)
  | .ifStatement | .elifClause | .whileStatement =>
    ok ((n.child? .condition).all isNamedOrExpression)
  | .forStatement =>
    ok ((n.child? .left).all isTarget && (n.child? .right).all isExpressionList)
  | .withStatement => ok (isWithLegal n)
  | .tryStatement => ok (isTryLegal n)
  | .exceptClause => ok (isExceptLegal n)
  | .functionDefinition => ok ((n.child? .type).all isTypeLegal)
  | .decorator => ok ((n.child? .value).all isNamedOrExpression)
  | .matchStatement => ok (areSubjectsLegal n)
  | .caseClause =>
    CasePattern.caseRules n ++
      ok ((children n .ifClause).all fun c => (parts c).all isNamedOrExpression)
  | _ => []

def managesGroup (n : Node) : Bool :=
  n.kind == .withStatement &&
    match managedItems n with
    | [item] => isManagedGroup item
    | _ => false

mutual

/-- The violations of all constructs in a tree, outer ones first. `inGroup` is passed on to what a
statement manages. -/
def phraseFaults (lines : List (List Char)) (inGroup : Bool) : Node → List Violation
  | .mk kind role text span children =>
    let n := Node.mk kind role text span children
    let passes := managesGroup n ||
      (inGroup && (kind == .withClause || kind == .withItem))
    phraseRules lines inGroup n ++ allPhraseFaults lines passes children

def allPhraseFaults (lines : List (List Char)) (inGroup : Bool) : List Node → List Violation
  | [] => []
  | .mk kind role text span children :: rest =>
    let passes := inGroup && (kind == .withClause || kind == .withItem ||
      kind == .tuple || kind == .parenthesized)
    phraseFaults lines passes (.mk kind role text span children) ++
      allPhraseFaults lines inGroup rest

end

end PoolLint.Legality
