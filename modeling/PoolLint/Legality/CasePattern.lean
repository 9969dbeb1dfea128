import PoolLint.Legality.Form

/-! Rules for the patterns of match statements. -/
namespace PoolLint.Legality
open PoolLint.Syntax

namespace CasePattern

def isImaginary (n : Node) : Bool :=
  n.text.toList.getLast?.any fun c => c == 'j' || c == 'J'

def isNumber (n : Node) : Bool := n.kind == .integer || n.kind == .float

def isSignedNumber (n : Node) : Bool :=
  isNumber n || (n.kind == .unaryOperator && (parts n).all isNumber)

def isComplex (n : Node) : Bool :=
  n.kind == .complexPattern && (n.child? .left).all (fun l => isSignedNumber l && !isImaginary l) &&
    (n.child? .right).all isImaginary

def isPlainText (n : Node) : Bool :=
  match n.kind with
  | .string => isUnformatted n
  | .concatenatedString => (parts n).all isUnformatted
  | _ => false
where
  isUnformatted (n : Node) : Bool :=
    match n.children with
    | opening :: _ => !(opening.text.toList.any fun c => c == 'f' || c == 'F')
    | [] => true

def isLiteral (n : Node) : Bool :=
  isSignedNumber n || isComplex n || isPlainText n ||
    n.kind == .none || n.kind == .true || n.kind == .false

/-- A name with dots stands for a value. -/
def isValue (n : Node) : Bool := n.kind == .dottedName

def isWildcard (n : Node) : Bool := n.kind == .identifier && n.text == "_"

def isKey (n : Node) : Bool := isLiteral n || isValue n

def classArguments (n : Node) : List Node := (parts n).filter (·.role != .name)

/-- Plain arguments of a class pattern come first. -/
def areArgumentsOrdered (named : Bool) : List Node → Bool
  | [] => true
  | n :: rest =>
    if n.kind == .keywordPattern then areArgumentsOrdered true rest
    else !named && areArgumentsOrdered false rest

def isDistinct (names : List String) : Bool :=
  match names with
  | [] => true
  | n :: rest => !rest.contains n && isDistinct rest

def hasOneSpread (ns : List Node) : Bool :=
  (ns.filter (·.kind == .splatPattern)).length ≤ 1

def isDoubleStar (n : Node) : Bool := n.kind == .splatPattern && n.children.any (·.text == "**")

/-- A record pattern may end in one name for the rest. -/
def isRestLast : List Node → Bool
  | [] => true
  | [_] => true
  | n :: rest => !isDoubleStar n && isRestLast rest

/-- Whether a pattern in parentheses is a group and no sequence. -/
def isGroup (n : Node) : Bool :=
  n.kind == .tupleCasePattern && (parts n).length == 1 &&
    !(n.children.any fun c => c.kind == .mark && c.text == ",")

/-- The rule for a pattern by itself, without the patterns in it. -/
def isPartLegal (n : Node) : Bool :=
  match n.kind with
  | .identifier => true
  | .dottedName => true
  | .asPattern => (n.child? .newName).all (!isWildcard ·)
  | .unionPattern => (parts n).all (·.kind != .splatPattern)
  | .listCasePattern => hasOneSpread (parts n) && (parts n).all (!isDoubleStar ·)
  | .tupleCasePattern =>
    hasOneSpread (parts n) && (parts n).all (!isDoubleStar ·) &&
      (!isGroup n || (parts n).all (·.kind != .splatPattern))
  | .dictPattern =>
    (parts n).all (fun e => e.kind == .keyValuePattern || isDoubleStar e) && isRestLast (parts n) &&
      (parts n).all (fun e => !(isDoubleStar e && (parts e).any isWildcard)) &&
      ((parts n).filterMap fun e => e.child? .key).all isKey &&
      isDistinct ((parts n).filterMap fun e => (e.child? .key).map (·.text))
  | .keyValuePattern | .splatPattern | .keywordPattern => true
  | .classPattern =>
    areArgumentsOrdered false (classArguments n) &&
      (classArguments n).all (·.kind != .splatPattern) &&
      isDistinct ((classArguments n).filterMap fun a =>
        if a.kind == .keywordPattern then (a.child? .name).map (·.text) else none)
  | _ => isLiteral n

def hasStrayKeyword (n : Node) : Bool :=
  match n.kind with
  | .classPattern => false
  | _ => (parts n).any (·.kind == .keywordPattern)

mutual

/-- The names a pattern binds, in order; `none` where one is bound twice or alternatives bind
different names. -/
def bound? : Node → Option (List String)
  | .mk kind _ text _ children =>
    match kind with
    | .identifier => some (if text == "_" then [] else [text])
    | .unionPattern =>
      match boundEach? children with
      | none => none
      | some [] => some []
      | some (first :: rest) =>
        if rest.all fun names => names.all first.contains && first.all names.contains then
          some first
        else none
    | .keywordPattern | .classPattern | .keyValuePattern | .asPattern | .splatPattern
    | .listCasePattern | .tupleCasePattern | .dictPattern =>
      match boundEach? children with
      | none => none
      | some names => if isDistinct names.flatten then some names.flatten else none
    | _ => some []

/-- The names each part of a pattern binds. The names of classes and of their attributes bind
nothing. -/
def boundEach? : List Node → Option (List (List String))
  | [] => some []
  | .mk kind role text span children :: rest =>
    if kind == .mark || kind == .comment || kind == .lineContinuation || role == .name then
      boundEach? rest
    else
      match bound? (.mk kind role text span children), boundEach? rest with
      | some names, some others => some (names :: others)
      | _, _ => none

end

mutual

/-- Whether a pattern matches everything. -/
def isIrrefutable : Node → Bool
  | .mk kind _ _ _ children =>
    match kind with
    | .identifier => true
    | .asPattern => firstIrrefutable children
    | .tupleCasePattern =>
      !(children.any fun c => c.kind == .mark && c.text == ",") && onlyIrrefutable children
    | .unionPattern => anyIrrefutable children
    | _ => false

def firstIrrefutable : List Node → Bool
  | [] => false
  | n :: _ => isIrrefutable n

def onlyIrrefutable : List Node → Bool
  | [] => false
  | n :: rest => isIrrefutable n || onlyIrrefutable rest

def anyIrrefutable : List Node → Bool
  | [] => false
  | n :: rest => isIrrefutable n || anyIrrefutable rest

end

/-- Whether a pattern that matches everything stands in front of an alternative, somewhere in a
pattern. -/
def hidesAlternative (n : Node) : Bool :=
  ((Node.ofKind .unionPattern n).any fun u => ((parts u).dropLast).any isIrrefutable)

/-- The patterns of a case: all parts in front of its guard and body. -/
def patternsOf (case_ : Node) : List Node :=
  (parts case_).filter fun p => !(p.kind == .ifClause || p.role == .body)

def hasGuard (case_ : Node) : Bool := case_.children.any (·.kind == .ifClause)

/-- Whether several patterns are listed without brackets. -/
def isOpenSequence (case_ : Node) : Bool :=
  case_.children.any fun c => c.kind == .mark && c.text == ","

def isCaseLegal (case_ : Node) : Bool :=
  let patterns := patternsOf case_
  let inside := patterns.flatMap (Node.walk fun n => n.kind != .dottedName)
  (isOpenSequence case_ || patterns.all (·.kind != .splatPattern)) &&
    hasOneSpread patterns && patterns.all (!isDoubleStar ·) &&
    patterns.all (·.kind != .keywordPattern) && inside.all (!hasStrayKeyword ·) &&
    patterns.all (!hidesAlternative ·) &&
    match boundEach? patterns with
    | none => false
    | some names => isDistinct names.flatten

def closesMatch (case_ : Node) : Bool :=
  !hasGuard case_ && !isOpenSequence case_ && (patternsOf case_).all isIrrefutable

def isPatternKind (k : Kind) : Bool :=
  k == .unionPattern || k == .listCasePattern || k == .tupleCasePattern || k == .dictPattern ||
    k == .classPattern || k == .keywordPattern || k == .complexPattern

def caseRules (case_ : Node) : List Violation :=
  let subpatterns (n : Node) : List Node := n :: nested n
  require ((patternsOf case_).all fun p => (subpatterns p).all isPartLegal) case_ ++
    require (isCaseLegal case_) case_
where
  nested (n : Node) : List Node :=
    (Node.walk (fun m => !(m.kind == .unaryOperator || m.kind == .complexPattern ||
      m.kind == .string || m.kind == .concatenatedString || m.kind == .dottedName)) n).filter
      fun m => isPatternKind m.kind || m.kind == .asPattern || m.kind == .string ||
        m.kind == .concatenatedString

/-- The rules for a match statement: only its last case may match everything. -/
def matchRules (cases : List Node) : List Violation :=
  partNot (fun c => !closesMatch c) cases.dropLast

end CasePattern
end PoolLint.Legality
