import PoolLint.Syntax.Grammar.Collection
import PoolLint.Syntax.Grammar.Parameter
import PoolLint.Syntax.Grammar.Quoted

/-! Expressions, from the values that bind most strongly to the conditional expression. -/
namespace PoolLint.Syntax.Grammar
open PoolLint.Syntax.Parser

def atom (self : Phrase → Parser Piece) : Parser Piece := do
  let t ← operand
  match t.kind with
  | .word =>
    if t.text == "None" then takeAs .none
    else if t.text == "True" then takeAs .true
    else if t.text == "False" then takeAs .false
    else takeAs .identifier
  | .integer => takeAs .integer
  | .float => takeAs .float
  | .stringStart => joinedQuoted self
  | .mark =>
    if t.text == "(" then parenthesized self
    else if t.text == "[" then bracketed self
    else if t.text == "\x7b" then braced self
    else if t.text == "..." then takeAs .ellipsis
    else failure
  | _ => failure

def attributeOf (value : Piece) : Parser Piece := do
  let dot ← mark "."
  return Piece.build .attribute (value.as .value) [dot, (← name).as .name]

def subscriptItem (self : Phrase → Parser Piece) : Parser Piece := do
  let start ← if (← operand).isMark ":" then pure [] else (fun p => [p]) <$> self (.expression true)
  match ← mark? ":" with
  | none =>
    match start with
    | [p] => return p
    | _ => failure
  | some colon =>
    let stop ← bound
    match ← mark? ":" with
    | none => return Piece.ofParts .slice (start ++ [colon] ++ stop)
    | some second => return Piece.ofParts .slice (start ++ [colon] ++ stop ++ [second] ++ (← bound))
where
  bound : Parser (List Piece) := do
    if (← ahead?).any startsValue then return [← self (.expression true)] else return []

def subscriptOf (self : Phrase → Parser Piece) (value : Piece) : Parser Piece := do
  let opening ← mark "["
  inMode .bracketed do
    let (parts, _) ← separated (subscriptItem self) "]"
    if parts.length < 2 then failure
    else return Piece.build .subscript (value.as .value) (opening :: parts)

def callOf (self : Phrase → Parser Piece) (value : Piece) : Parser Piece := do
  return Piece.build .call (value.as .function) [(← arguments self).as .arguments]

def trailers (self : Phrase → Parser Piece) (calls : Bool) (value : Piece) : Parser Piece := do
  repeated value fun value => do
    match ← ahead? with
    | none => return none
    | some t =>
      if t.isMark "." then some <$> attributeOf value
      else if t.isMark "[" then some <$> subscriptOf self value
      else if calls && t.isMark "(" then some <$> callOf self value
      else return none

/-- A value with what follows it directly. A star in front takes the names and subscripts, and a
call is a call of all that. -/
def primary (self : Phrase → Parser Piece) : Parser Piece := do
  if (← operand).isMark "*" then
    let star ← takeAs .mark
    let target ← trailers self false (← atom self)
    match target.kind with
    | .identifier | .attribute | .subscript =>
      trailers self true (Piece.build .listSplat star [target])
    | _ => failure
  else trailers self true (← atom self)

/-- How strongly a binary operator binds; the power is not among them. -/
def operatorLevel? (t : Token) : Option Nat :=
  if t.kind != .mark then none
  else if t.text == "|" then some 1
  else if t.text == "^" then some 2
  else if t.text == "&" then some 3
  else if t.text == "<<" || t.text == ">>" then some 4
  else if t.text == "+" || t.text == "-" then some 5
  else if ["*", "@", "/", "%", "//"].contains t.text then some 6
  else none

def startsPrefixed : Parser Bool := do
  let t ← operand
  if t.isMark "-" || t.isMark "+" || t.isMark "~" then return true
  else if t.isWord "await" then
    match ← second? with
    | none => return false
    | some s => return startsValue s && !(s.endsLine && (← read).mode == .ends)
  else return false

def prefixed (value operator : Piece) : Piece :=
  if operator.node.text == "await" then Piece.build .await operator [value.as .operand]
  else Piece.build .unaryOperator (operator.as .operator) [value.as .operand]

/-- Operands joined by binary operators that bind at least as strongly as a level. The power binds
its left side more strongly than a sign does, and its right side less. -/
def operation (self : Phrase → Parser Piece) (level : Nat) : Parser Piece := do
  if 9 ≤ level then primary self
  else
    let operators ← repeated ([] : List Piece) fun found => do
      if ← startsPrefixed then return some ((← takeAs .mark) :: found) else return none
    let base ← primary self
    let powered ← match ← mark? "**" with
      | none => pure base
      | some stars =>
        let right ← self (.operation 8)
        pure (Piece.build .binaryOperator (base.as .left) [stars.as .operator, right.as .right])
    repeated (operators.foldl prefixed powered) fun value => do
      match (← ahead?).bind operatorLevel? with
      | none => return none
      | some l =>
        if l < level then return none
        else
          let operator ← takeAs .mark
          let right ← self (.operation (l + 1))
          return some
            (Piece.build .binaryOperator (value.as .left) [operator.as .operator, right.as .right])

/-- The operator of a comparison, if one is next. -/
def comparisonOperator? : Parser (Option (List Piece)) := do
  match ← ahead? with
  | none => return none
  | some t =>
    if t.kind == .mark && ["<", "<=", "==", "!=", ">=", ">", "<>"].contains t.text then
      return some [(← takeAs .mark).as .operator]
    else if t.isWord "in" then return some [(← takeAs .mark).as .operator]
    else if t.isWord "is" then
      let is ← takeAs .mark
      if (← operand).isWord "not" then
        return some [(Piece.build .mark is [← takeAs .mark]).as .operator]
      else return some [is.as .operator]
    else if t.isWord "not" && (← second?).any (·.isWord "in") then
      let not ← takeAs .mark
      return some [(Piece.build .mark not [← takeAs .mark]).as .operator]
    else return none

def comparison (self : Phrase → Parser Piece) : Parser Piece := do
  let first ← self (.operation 1)
  let parts ← repeated [first] fun parts => do
    match ← comparisonOperator? with
    | none => return none
    | some operator => return some ((← self (.operation 1)) :: (operator.reverse ++ parts))
  match parts.reverse with
  | [p] => return p
  | parts => return Piece.ofParts .comparisonOperator parts

def lambda (self : Phrase → Parser Piece) (isBare : Bool) : Parser Piece := do
  let word ← takeAs .mark
  let parameters ← lambdaParameters self
  let colon ← inner (mark ":")
  let body ← self (.expression isBare)
  return Piece.build .lambda word
    ((parameters.toList.map (·.as .parameters)) ++ [colon, body.as .body])

/-- A name that is given a value in passing. -/
def named (self : Phrase → Parser Piece) : Parser Piece := do
  let n ← name
  let colon ← mark ":="
  let value ← self (.expression false)
  return Piece.build .namedExpression (n.as .name) [colon, value.as .value]

def negation (self : Phrase → Parser Piece) (isBare : Bool) : Parser Piece := do
  let nots ← repeated ([] : List Piece) fun found => do
    if (← operand).isWord "not" then return some ((← takeAs .mark) :: found) else return none
  let t ← operand
  let value ←
    if t.isWord "lambda" then lambda self isBare
    else if t.kind == .word && (← second?).any (·.isMark ":=") then named self
    else comparison self
  return nots.foldl (fun v not => Piece.build .notOperator not [v.as .operand]) value

/-- Operands joined by a word, from the left. -/
def joinedBy (word : String) (item : Parser Piece) : Parser Piece := do
  let first ← item
  repeated first fun left => do
    match ← word? word with
    | none => return none
    | some operator =>
      let right ← item
      return some
        (Piece.build .booleanOperator (left.as .left) [operator.as .operator, right.as .right])

def disjunction (self : Phrase → Parser Piece) (isBare : Bool) : Parser Piece :=
  joinedBy "or" (joinedBy "and" (negation self isBare))

def expression (self : Phrase → Parser Piece) (isBare : Bool) : Parser Piece := do
  let value ← disjunction self isBare
  if !isBare then return value
  else
    let value ← match ← word? "if" with
      | none => pure value
      | some if_ =>
        let condition ← inner (self (.expression true))
        let else_ ← inner (word "else")
        let alternative ← self (.expression true)
        pure (Piece.build .conditionalExpression (value.as .body)
          [if_, condition.as .condition, else_, alternative.as .alternative])
    match ← word? "as" with
    | none => return value
    | some as_ =>
      let target ← self (.expression false)
      return Piece.build .asPattern (value.as .value) [as_, target.as .newName]

end PoolLint.Syntax.Grammar
