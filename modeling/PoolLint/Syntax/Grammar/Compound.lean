import PoolLint.Syntax.Grammar.Expression
import PoolLint.Syntax.Grammar.Simple

/-! Statements with blocks. A block is the lines that are indented further than the line before it;
a line that is indented further still belongs to it too. -/
namespace PoolLint.Syntax.Grammar
open PoolLint.Syntax.Parser

/-- The body of a statement behind its colon. Without an indented line it is empty. -/
def suite (self : Phrase → Parser Piece) : Parser Piece := do
  let t ← next
  if t.endsLine then
    let width ← Parser.width
    if t.kind != .finish && width < t.indent then inBlock t.indent (self .lines)
    else return Piece.empty .block (← input).last.span.stop
  else return Piece.ofParts .block (← simpleLine self)

def body (self : Phrase → Parser Piece) : Parser (List Piece) := do
  let colon ← inner (mark ":")
  return [colon, (← suite self).as .body]

/-- Whether a word that goes on the statement before it starts the next line. -/
def startsClause (word : String) : Parser Bool := do
  let t ← next
  return t.endsLine && (← Parser.width) ≤ t.indent && t.isWord word

def plainClause? (self : Phrase → Parser Piece) (word : String) (kind : Kind) :
    Parser (Option Piece) := do
  if ← startsClause word then
    let w ← takeAs .mark
    return some ((Piece.build kind w (← body self)).as .alternative)
  else return none

def elseClause? (self : Phrase → Parser Piece) : Parser (Option Piece) :=
  plainClause? self "else" .elseClause

def conditional (self : Phrase → Parser Piece) (kind : Kind) : Parser (List Piece × Kind) := do
  let w ← takeAs .mark
  let condition ← inner (self (.expression true))
  return ([w, condition.as .condition] ++ (← body self), kind)

def ifStatement (self : Phrase → Parser Piece) : Parser Piece := do
  let (head, _) ← conditional self .ifStatement
  let elifs ← repeated ([] : List Piece) fun found => do
    if ← startsClause "elif" then
      let (parts, kind) ← conditional self .elifClause
      return some ((Piece.ofParts kind parts).as .alternative :: found)
    else return none
  let else_ ← elseClause? self
  return Piece.ofParts .ifStatement (head ++ elifs.reverse ++ else_.toList)

def whileStatement (self : Phrase → Parser Piece) : Parser Piece := do
  let (head, kind) ← conditional self .whileStatement
  return Piece.ofParts kind (head ++ (← elseClause? self).toList)

def forStatement (self : Phrase → Parser Piece) (async : List Piece) : Parser Piece := do
  let w ← takeAs .mark
  let left ← inner (targetList self)
  let in_ ← inner (word "in")
  let right ← inner (expressionList self)
  let body ← body self
  let else_ ← elseClause? self
  return Piece.ofParts .forStatement
    (async ++ [w, left.as .left, in_, right.as .right] ++ body ++ else_.toList)

def exceptClause (self : Phrase → Parser Piece) : Parser Piece := do
  let w ← takeAs .mark
  let star ← inner (mark? "*")
  let caught ← inner do
    if ← aheadMark ":" then return []
    let value ← self (.expression true)
    match ← mark? "," with
    | none => return [value.as .value]
    | some comma => return [value.as .value, comma, (← self (.expression true)).as .newName]
  return (Piece.ofParts .exceptClause ([w] ++ star.toList ++ caught ++ (← body self))).as
    .alternative

def tryStatement (self : Phrase → Parser Piece) : Parser Piece := do
  let w ← takeAs .mark
  let body ← body self
  let excepts ← repeated ([] : List Piece) fun found => do
    if ← startsClause "except" then return some ((← exceptClause self) :: found) else return none
  let else_ ← if excepts.isEmpty then pure none else elseClause? self
  let finally_ ← plainClause? self "finally" .finallyClause
  if excepts.isEmpty && finally_.isNone then failure
  let clauses := excepts.reverse ++ else_.toList ++ finally_.toList
  return Piece.ofParts .tryStatement ([w] ++ body ++ clauses)

def withStatement (self : Phrase → Parser Piece) (async : List Piece) : Parser Piece := do
  let w ← takeAs .mark
  let items ← inner do
    let item : Parser Piece := do
      return Piece.build .withItem ((← self (.expression true)).as .value) []
    listFrom (← item) startsItem item
  return Piece.ofParts .withStatement
    (async ++ [w, Piece.ofParts .withClause items] ++ (← body self))

def typeParameters? (self : Phrase → Parser Piece) : Parser (List Piece) := inner do
  match ← mark? "[" with
  | none => return []
  | some opening =>
    inMode .bracketed do
      let (parts, _) ← separated (typeHint self true) "]"
      return [Piece.build .typeParameter opening parts]

def functionDefinition (self : Phrase → Parser Piece) (async : List Piece) : Parser Piece := do
  let w ← takeAs .mark
  let n ← name
  let types ← typeParameters? self
  let parameters ← inner (parameters self)
  let result ← inner do
    match ← mark? "->" with
    | none => return []
    | some arrow => return [arrow, (← typeHint self false).as .type]
  let body ← body self
  return Piece.ofParts .functionDefinition
    (async ++ [w, n.as .name] ++ types ++ [parameters.as .parameters] ++ result ++ body)

def classDefinition (self : Phrase → Parser Piece) : Parser Piece := do
  let w ← takeAs .mark
  let n ← name
  let types ← typeParameters? self
  let bases ← inner do
    if ← aheadMark "(" then
      let bases ← arguments self
      if bases.kind == .argumentList then return [bases.as .arguments] else failure
    else return []
  return Piece.ofParts .classDefinition ([w, n.as .name] ++ types ++ bases ++ (← body self))

def asyncStatement? (self : Phrase → Parser Piece) (async : List Piece) (t : Token) :
    Option (Parser Piece) :=
  if t.isWord "def" then some (functionDefinition self async)
  else if t.isWord "for" then some (forStatement self async)
  else if t.isWord "with" then some (withStatement self async)
  else none

def decoratedDefinition (self : Phrase → Parser Piece) : Parser Piece := do
  let decorators ← repeated ([] : List Piece) fun found => do
    if (← next).isMark "@" then
      let at_ ← takeAs .mark
      let value ← self (.expression true)
      if (← next).endsLine then
        return some (Piece.build .decorator at_ [value.as .value] :: found)
      else failure
    else return none
  let t ← operand
  let definition ←
    if t.isWord "class" then classDefinition self
    else if t.isWord "def" then functionDefinition self []
    else if t.isWord "async" && (← second?).any (·.isWord "def") then
      let async ← takeAs .mark
      functionDefinition self [async]
    else failure
  return Piece.ofParts .decoratedDefinition (decorators.reverse ++ [definition.as .body])

/-- The head of a match statement, if the next word starts one: its subjects and a colon, with an
indented line behind them that starts with a case. -/
def matchHead : (self : Phrase → Parser Piece) → Parser (Option (List Piece)) :=
  fun self context input =>
    match head self context input with
    | some (parts, rest) => some (some parts, rest)
    | none => some (none, input)
where
  head (self : Phrase → Parser Piece) : Parser (List Piece) := do
    let w ← takeAs .mark
    let subjects ← inner do
      let first ← self (.expression true)
      listFrom (first.as .condition) startsItem ((·.as .condition) <$> self (.expression true))
    let colon ← inner (mark ":")
    let t ← next
    if t.endsLine && t.isWord "case" && (← Parser.width) < t.indent then
      return [w] ++ subjects ++ [colon]
    else failure

def caseClause (self : Phrase → Parser Piece) : Parser Piece := do
  let w ← takeAs .mark
  let patterns ← inner do
    listFrom (← self .casePattern) (fun t => !(t.isWord "if" || t.isMark ":")) (self .casePattern)
  let guard ← inner do
    match ← word? "if" with
    | none => return []
    | some if_ =>
      return [Piece.build .ifClause if_ [(← self (.expression true)).as .condition]]
  return Piece.ofParts .caseClause ([w] ++ patterns ++ guard ++ (← body self))

def matchStatement (self : Phrase → Parser Piece) (head : List Piece) : Parser Piece := do
  let width := (← next).indent
  let cases ← inBlock width do
    repeated ([] : List Piece) fun found => do
      let t ← next
      if t.kind == .finish || t.indent < width then return none
      else if t.isWord "case" then return some ((← caseClause self) :: found)
      else failure
  return Piece.ofParts .matchStatement (head ++ [(Piece.ofParts .block cases.reverse).as .body])

/-- The statements that start with the next token: one with a block, or a line of simple ones. -/
def statements (self : Phrase → Parser Piece) : Parser (List Piece) := do
  let t ← operand
  if t.isMark "@" then return [← decoratedDefinition self]
  else if t.isWord "if" then return [← ifStatement self]
  else if t.isWord "while" then return [← whileStatement self]
  else if t.isWord "try" then return [← tryStatement self]
  else if t.isWord "class" then return [← classDefinition self]
  else match asyncStatement? self [] t with
    | some statement => return [← statement]
    | none =>
      if t.isWord "async" then
        match (← second?).bind fun s => asyncStatement? self [] s with
        | some _ =>
          let async ← takeAs .mark
          match asyncStatement? self [async] (← next) with
          | some statement => return [← statement]
          | none => failure
        | none => simpleLine self
      else if t.isWord "match" then
        match ← matchHead self with
        | some head => return [← matchStatement self head]
        | none => simpleLine self
      else simpleLine self

def lines (self : Phrase → Parser Piece) : Parser Piece := do
  let width ← Parser.width
  let parts ← repeated ([] : List Piece) fun parts => do
    let t ← next
    if t.kind == .finish || t.indent < width then return none
    else return some ((← statements self).reverse ++ parts)
  return Piece.ofParts .block parts.reverse

end PoolLint.Syntax.Grammar
