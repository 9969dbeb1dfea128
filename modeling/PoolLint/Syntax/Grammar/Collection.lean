import PoolLint.Syntax.Grammar.Phrase

/-! What stands in brackets: groups, tuples, lists, sets, records, comprehensions and the arguments
of calls. -/
namespace PoolLint.Syntax.Grammar
open PoolLint.Syntax.Parser

/-- Targets of a loop: no operators, since the word behind them would be read as one. -/
def targetList (self : Phrase → Parser Piece) : Parser Piece := do
  let first ← self (.operation 9)
  let parts ← listFrom first startsItem (self (.operation 9))
  let targets := match parts with
    | [p] => p
    | parts => Piece.ofParts .expressionList parts
  if isTarget targets.node then return targets else failure

def startsLoop : Parser Bool := do
  match ← ahead? with
  | none => return false
  | some t =>
    if t.isWord "for" then return true
    else if t.isWord "async" then return (← second?).any (·.isWord "for")
    else return false

def forInClause (self : Phrase → Parser Piece) : Parser Piece := do
  let async ← word? "async"
  let for_ ← word "for"
  let left ← targetList self
  let in_ ← word "in"
  let first ← self (.expression false)
  let right ← listFrom (first.as .right) startsItem
    ((·.as .right) <$> self (.expression false))
  return Piece.ofParts .forInClause
    (async.toList ++ [for_, left.as .left, in_] ++ right)

def comprehensionClauses (self : Phrase → Parser Piece) : Parser (List Piece) := do
  let first ← forInClause self
  let parts ← repeated [first] fun parts => do
    if ← startsLoop then return some ((← forInClause self) :: parts)
    match ← word? "if" with
    | none => return none
    | some if_ =>
      return some (Piece.build .ifClause if_ [(← self (.expression false)).as .condition] :: parts)
  return parts.reverse

def comprehension (self : Phrase → Parser Piece) (kind : Kind) (opening body : Piece)
    (close : String) : Parser Piece := do
  let clauses ← comprehensionClauses self
  let closing ← mark close
  return Piece.build kind opening (body.as .body :: (clauses ++ [closing]))

def collection (self : Phrase → Parser Piece) (kind single : Kind) (opening first : Piece)
    (close : String) : Parser Piece := do
  match ← mark? "," with
  | none => return Piece.build single opening [first, ← mark close]
  | some comma =>
    let (parts, _) ← separated (element self) close
    return Piece.build kind opening (first :: comma :: parts)

def parenthesized (self : Phrase → Parser Piece) : Parser Piece := do
  let opening ← takeAs .mark
  inMode .bracketed do
    match ← mark? ")" with
    | some closing => return Piece.build .tuple opening [closing]
    | none =>
      let first ← element self
      if ← startsLoop then comprehension self .generatorExpression opening first ")"
      else collection self .tuple .parenthesized opening first ")"

def bracketed (self : Phrase → Parser Piece) : Parser Piece := do
  let opening ← takeAs .mark
  inMode .bracketed do
    match ← mark? "]" with
    | some closing => return Piece.build .list opening [closing]
    | none =>
      let first ← element self
      if ← startsLoop then comprehension self .listComprehension opening first "]"
      else collection self .list .list opening first "]"

def pairFrom (self : Phrase → Parser Piece) (key : Piece) : Parser Piece := do
  let colon ← mark ":"
  let value ← self (.expression true)
  return Piece.build .pair (key.as .key) [colon, value.as .value]

def recordEntry (self : Phrase → Parser Piece) : Parser Piece := do
  if (← operand).isMark "**" then
    let stars ← takeAs .mark
    return Piece.build .dictionarySplat stars [← self (.expression true)]
  else pairFrom self (← self (.expression true))

def record (self : Phrase → Parser Piece) (opening first : Piece) : Parser Piece := do
  match ← mark? "," with
  | none => return Piece.build .dictionary opening [first, ← mark "\x7d"]
  | some comma =>
    let (parts, _) ← separated (recordEntry self) "\x7d"
    return Piece.build .dictionary opening (first :: comma :: parts)

/-- The rest of empty brackets, in which a comma may stand. -/
def nothing? (close : String) : Parser (Option (List Piece)) := do
  match ← mark? close with
  | some closing => return some [closing]
  | none =>
    match ← mark? "," with
    | some comma => return some [comma, ← mark close]
    | none => return none

/-- What stands in braces. A comma alone stands for nothing. -/
def braced (self : Phrase → Parser Piece) : Parser Piece := do
  let opening ← takeAs .mark
  inMode .bracketed do
    match ← nothing? "\x7d" with
    | some parts => return Piece.build .dictionary opening parts
    | none =>
      if (← operand).isMark "**" then record self opening (← recordEntry self)
      else
        let first ← element self
        if ← aheadMark ":" then
          let pair ← pairFrom self first
          if ← startsLoop then comprehension self .dictionaryComprehension opening pair "\x7d"
          else record self opening pair
        else if ← startsLoop then comprehension self .setComprehension opening first "\x7d"
        else collection self .set .set opening first "\x7d"

/-- Words that are values or start one, so that no argument can be named by them. -/
def valueWords : List String := ["None", "True", "False", "lambda", "not"]

def argument (self : Phrase → Parser Piece) : Parser Piece := do
  let t ← operand
  if t.isMark "*" then
    let star ← takeAs .mark
    return Piece.build .listSplat star [← self (.expression true)]
  else if t.isMark "**" then
    let stars ← takeAs .mark
    return Piece.build .dictionarySplat stars [← self (.expression true)]
  else if t.kind == .word && !valueWords.contains t.text && (← second?).any (·.isMark "=") then
    let n ← name
    let equals ← mark "="
    let value ← self (.expression true)
    return Piece.build .keywordArgument (n.as .name) [equals, value.as .value]
  else self (.expression true)

/-- The arguments of a call. A single comprehension needs no parentheses of its own; a comma alone
stands for nothing. -/
def arguments (self : Phrase → Parser Piece) : Parser Piece := do
  let opening ← mark "("
  inMode .bracketed do
    match ← nothing? ")" with
    | some parts => return Piece.build .argumentList opening parts
    | none =>
      let first ← argument self
      if ← startsLoop then
        match first.kind with
        | .listSplat | .dictionarySplat | .keywordArgument => failure
        | _ => comprehension self .generatorExpression opening first ")"
      else
        match ← mark? "," with
        | none => return Piece.build .argumentList opening [first, ← mark ")"]
        | some comma =>
          let (parts, _) ← separated (argument self) ")"
          return Piece.build .argumentList opening (first :: comma :: parts)

end PoolLint.Syntax.Grammar
