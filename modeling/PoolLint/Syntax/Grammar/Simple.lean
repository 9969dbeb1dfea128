import PoolLint.Syntax.Grammar.CasePattern

/-! Statements of one line. -/
namespace PoolLint.Syntax.Grammar
open PoolLint.Syntax.Parser

def isOver : Parser Bool := do
  return (← ahead?).all fun t => t.isMark ";" || t.kind == .finish

/-- What is assigned: an expression list, and a further assignment if one follows. -/
def assignedValue (self : Phrase → Parser Piece) : Parser Piece := do
  if (← operand).isWord "yield" then yieldPhrase self else self .assigned

def augmentedMarks : List String :=
  ["+=", "-=", "*=", "/=", "//=", "%=", "@=", "&=", "|=", "^=", ">>=", "<<=", "**="]

/-- An expression list, or an assignment to one. -/
def assigned (self : Phrase → Parser Piece) : Parser Piece := do
  let left ← expressionList self
  match ← ahead? with
  | none => return left
  | some t =>
    if t.isMark "=" then
      if !isTarget left.node then failure
      let equals ← takeAs .mark
      let right ← assignedValue self
      return Piece.build .assignment (left.as .left) [equals, right.as .right]
    else if t.isMark ":" then
      if !isTarget left.node then failure
      let colon ← takeAs .mark
      let type ← typeHint self true
      match ← mark? "=" with
      | none => return Piece.build .assignment (left.as .left) [colon, type.as .type]
      | some equals =>
        let right ← assignedValue self
        return Piece.build .assignment (left.as .left)
          [colon, type.as .type, equals, right.as .right]
    else if t.kind == .mark && augmentedMarks.contains t.text then
      if !isTarget left.node then failure
      let operator ← takeAs .mark
      let right ← assignedValue self
      return Piece.build .augmentedAssignment (left.as .left)
        [operator.as .operator, right.as .right]
    else return left

def expressionStatement (self : Phrase → Parser Piece) : Parser Piece := do
  let value ← if (← operand).isWord "yield" then yieldPhrase self else self .assigned
  return Piece.build .expressionStatement value []

def wordWithValue (self : Phrase → Parser Piece) (kind : Kind) : Parser Piece := do
  let w ← takeAs .mark
  if ← isOver then return Piece.build kind w []
  else return Piece.build kind w [(← expressionList self).as .value]

def deleteStatement (self : Phrase → Parser Piece) : Parser Piece := do
  let w ← takeAs .mark
  return Piece.build .deleteStatement w [(← expressionList self).as .value]

def raiseStatement (self : Phrase → Parser Piece) : Parser Piece := do
  let w ← takeAs .mark
  let value ← if (← ahead?).any startsItem then (fun p => [p.as .value]) <$> expressionList self
    else pure []
  let cause ← match ← word? "from" with
    | none => pure []
    | some from_ => pure [from_, (← self (.expression true)).as .right]
  return Piece.build .raiseStatement w (value ++ cause)

def wordWithNames (kind : Kind) : Parser Piece := do
  let w ← takeAs .mark
  let first ← name
  let parts ← repeated [first] fun parts => do
    match ← mark? "," with
    | none => return none
    | some comma => return some ((← name) :: comma :: parts)
  return Piece.build kind w parts.reverse

def assertStatement (self : Phrase → Parser Piece) : Parser Piece := do
  let w ← takeAs .mark
  let first ← self (.expression true)
  let parts ← repeated [first] fun parts => do
    match ← mark? "," with
    | none => return none
    | some comma => return some ((← self (.expression true)) :: comma :: parts)
  return Piece.build .assertStatement w parts.reverse

def moduleName : Parser Piece := do
  let n ← dottedName
  return if n.node.kind == .dottedName then n else Piece.build .dottedName n []

/-- A name that is imported, under another name if one is given. -/
def importItem : Parser Piece := do
  let n ← moduleName
  match ← word? "as" with
  | none => return n.as .name
  | some as_ =>
    return (Piece.build .aliasedImport (n.as .name) [as_, (← name).as .newName]).as .name

def importList : Parser (List Piece) := do
  listFrom (← importItem) (fun t => t.kind == .word) importItem

def importStatement : Parser Piece := do
  let w ← takeAs .mark
  return Piece.build .importStatement w (← importList)

/-- The module that names are imported from: dots for the packages around, and a name. -/
def importSource : Parser Piece := do
  let dots ← repeated ([] : List Piece) fun dots => do
    let t ← operand
    if t.isMark "." || t.isMark "..." then return some ((← takeAs .mark) :: dots) else return none
  if dots.isEmpty then moduleName
  else if (← operand).isWord "import" then return Piece.ofParts .relativeImport dots.reverse
  else return Piece.ofParts .relativeImport (dots.reverse ++ [← moduleName])

def importFromStatement : Parser Piece := do
  let w ← takeAs .mark
  let source ← inner importSource
  let import_ ← inner (word "import")
  let kind :=
    if source.node.text == "__future__" then Kind.futureImportStatement else .importFromStatement
  let head := [source.as .moduleName, import_]
  let t ← operand
  if t.isMark "*" then
    return Piece.build kind w (head ++ [Piece.build .wildcardImport (← takeAs .mark) []])
  else if t.isMark "(" then
    let opening ← takeAs .mark
    inMode .bracketed do
      let items ← importList
      return Piece.build kind w (head ++ [opening] ++ items ++ [← mark ")"])
  else return Piece.build kind w (head ++ (← importList))

/-- Whether the word behind the next one would be read as an operator between values. -/
def isJoining (t : Token) : Bool := t.kind == .word && joiningWords.contains t.text

/-- Whether the next word is a command: a value follows it that does not go on an expression. -/
def startsCommand : Parser Bool := do
  match (← input).tokens with
  | _ :: t :: rest =>
    if t.endsLine then return false
    else if isJoining t then return false
    else if t.isWord "not" then return !(rest.head?.any (·.isWord "in"))
    else if t.kind == .mark then return t.isMark "\x7b" || t.isMark "~"
    else return startsValue t
  | _ => return false

def printStatement (self : Phrase → Parser Piece) : Parser Piece := do
  let w ← takeAs .mark
  let first ← match ← mark? ">>" with
    | none => self (.expression true)
    | some marks => pure (Piece.build .chevron marks [← self (.expression true)])
  let parts ← listFrom first startsItem (self (.expression true))
  return Piece.build .printStatement w parts

def execStatement (self : Phrase → Parser Piece) : Parser Piece := do
  let w ← takeAs .mark
  let code ← joinedOrName
  match ← word? "in" with
  | none => return Piece.build .execStatement w [code]
  | some in_ =>
    let first ← self (.expression true)
    let parts ← listFrom first startsItem (self (.expression true))
    return Piece.build .execStatement w (code :: in_ :: parts)
where
  joinedOrName : Parser Piece := do
    if (← operand).kind == .stringStart then quoted self else name

def typeAliasStatement (self : Phrase → Parser Piece) : Parser Piece := do
  let w ← takeAs .mark
  let left ← typeHint self false
  let equals ← mark "="
  let right ← typeHint self false
  return Piece.build .typeAliasStatement w [left.as .left, equals, right.as .right]

/-- Whether a word behind the next one stands on the same line and joins nothing. -/
def startsDeclaration : Parser Bool := do
  return (← second?).any fun t => t.kind == .word && !t.endsLine && !isJoining t

/-- One statement that needs no block. -/
def simpleStatement (self : Phrase → Parser Piece) : Parser Piece := do
  let t ← operand
  if t.kind != .word then expressionStatement self
  else if t.text == "return" then wordWithValue self .returnStatement
  else if t.text == "del" then deleteStatement self
  else if t.text == "raise" then raiseStatement self
  else if t.text == "pass" then return Piece.build .passStatement (← takeAs .mark) []
  else if t.text == "break" then return Piece.build .breakStatement (← takeAs .mark) []
  else if t.text == "continue" then return Piece.build .continueStatement (← takeAs .mark) []
  else if t.text == "global" then wordWithNames .globalStatement
  else if t.text == "nonlocal" then wordWithNames .nonlocalStatement
  else if t.text == "assert" then assertStatement self
  else if t.text == "import" then importStatement
  else if t.text == "from" then importFromStatement
  else if t.text == "print" then
    if (← second?).any fun s => s.isMark ">>" && !s.endsLine then printStatement self
    else if ← startsCommand then printStatement self
    else expressionStatement self
  else if t.text == "exec" then
    if ← startsCommand then execStatement self else expressionStatement self
  else if t.text == "type" then
    if ← startsDeclaration then typeAliasStatement self else expressionStatement self
  else expressionStatement self

/-- The statements of a line. The line has to end behind them. -/
def simpleLine (self : Phrase → Parser Piece) : Parser (List Piece) := do
  let first ← simpleStatement self
  let (parts, _) ← repeated ([first], false) fun (parts, closed) => do
    if closed then return none
    match ← mark? ";" with
    | none => return none
    | some semicolon =>
      if (← next).endsLine then return some (semicolon :: parts, true)
      else return some ((← simpleStatement self) :: semicolon :: parts, false)
  if (← next).endsLine then return parts.reverse else failure

end PoolLint.Syntax.Grammar
