import PoolLint.Syntax.Grammar.Quoted

/-! What the cases of a match statement compare with. -/
namespace PoolLint.Syntax.Grammar
open PoolLint.Syntax.Parser

def dottedName : Parser Piece := do
  let first ← name
  let parts ← repeated [first] fun parts => do
    match ← mark? "." with
    | none => return none
    | some dot => return some ((← name) :: dot :: parts)
  match parts.reverse with
  | [p] => return p
  | parts => return Piece.ofParts .dottedName parts

/-- A number, which may be negative and may have an imaginary part. -/
def numberPattern : Parser Piece := do
  let sign ← mark? "-"
  let real ← number
  let value := match sign with
    | none => real
    | some sign => Piece.build .unaryOperator (sign.as .operator) [real.as .operand]
  match ← ahead? with
  | none => return value
  | some t =>
    if t.isMark "+" || t.isMark "-" then
      let operator ← takeAs .mark
      return Piece.build .complexPattern (value.as .left)
        [operator.as .operator, (← number).as .right]
    else return value
where
  number : Parser Piece := do
    let t ← operand
    match t.kind with
    | .integer | .float => takeAs t.nodeKind
    | _ => failure

def keyValuePattern (self : Phrase → Parser Piece) (single : Parser Piece) : Parser Piece := do
  if (← operand).isMark "**" then
    let stars ← takeAs .mark
    return Piece.build .splatPattern stars [← name]
  else
    let key ← single
    let colon ← mark ":"
    let value ← self .casePattern
    return Piece.build .keyValuePattern (key.as .key) [colon, value.as .value]

def namedPattern (self : Phrase → Parser Piece) : Parser Piece := do
  let t ← operand
  if t.text == "None" then takeAs .none
  else if t.text == "True" then takeAs .true
  else if t.text == "False" then takeAs .false
  else
    let n ← dottedName
    match ← mark? "(" with
    | none => return n
    | some opening =>
      inMode .bracketed do
        let (parts, _) ← separated (self .casePattern) ")"
        return Piece.build .classPattern (n.as .name) (opening :: parts)

def singlePattern (self : Phrase → Parser Piece) : Nat → Parser Piece
  | 0 => failure
  | fuel + 1 => do
    let t ← operand
    if t.isMark "*" || t.isMark "**" then
      let star ← takeAs .mark
      return Piece.build .splatPattern star [← name]
    else if t.isMark "[" || t.isMark "(" then
      let opening ← takeAs .mark
      let close := if t.isMark "[" then "]" else ")"
      inMode .bracketed do
        let (parts, _) ← separated (self .casePattern) close
        return Piece.build (if t.isMark "[" then .listCasePattern else .tupleCasePattern)
          opening parts
    else if t.isMark "\x7b" then
      let opening ← takeAs .mark
      inMode .bracketed do
        let (parts, _) ← separated (keyValuePattern self (singlePattern self fuel)) "\x7d"
        return Piece.build .dictPattern opening parts
    else match t.kind with
      | .stringStart => joinedQuoted self
      | .word => namedPattern self
      | _ => numberPattern

def unionPattern (self : Phrase → Parser Piece) : Parser Piece := do
  let bound := (← read).bound
  let first ← singlePattern self bound
  let parts ← repeated [first] fun parts => do
    match ← mark? "|" with
    | none => return none
    | some bar => return some ((← singlePattern self bound) :: bar :: parts)
  match parts.reverse with
  | [p] => return p
  | parts => return Piece.ofParts .unionPattern parts

def casePattern (self : Phrase → Parser Piece) : Parser Piece := do
  let t ← operand
  if t.kind == .word && (← second?).any (·.isMark "=") then
    let n ← name
    let equals ← mark "="
    return Piece.build .keywordPattern (n.as .name) [equals, (← unionPattern self).as .value]
  else
    let value ← unionPattern self
    match ← word? "as" with
    | none => return value
    | some as_ => return Piece.build .asPattern (value.as .value) [as_, (← name).as .newName]

end PoolLint.Syntax.Grammar
