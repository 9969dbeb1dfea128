import PoolLint.Syntax.Piece

/-! Readers of token lists that fail where the tokens do not fit. A reader knows how lines matter
where it stands: whether a line end closes the construct it reads, and how far the block around it
is indented. It also knows a bound on the tokens there are, and so on the rounds of its loops. -/
namespace PoolLint.Syntax

/-- What a line end means behind a complete expression. -/
inductive LineMode where
  | ends
  | goesOn
  | bracketed
  deriving DecidableEq, Repr

structure Parser.Context where
  mode : LineMode
  width : Nat
  bound : Nat

structure Parser.Input where
  tokens : List Token
  last : Token

/-- Reads some tokens and answers a value, or fails. -/
abbrev Parser (α : Type) := ReaderT Parser.Context (StateT Parser.Input Option) α

namespace Parser

def inMode {α : Type} (mode : LineMode) (p : Parser α) : Parser α :=
  fun context => p { context with mode := mode }

def inBlock {α : Type} (width : Nat) (p : Parser α) : Parser α :=
  fun context => p { context with mode := .ends, width := width }

/-- Inside the brackets of a field no indent counts. -/
def inField {α : Type} (p : Parser α) : Parser α := 
  fun context => p { context with mode := .bracketed, width := 0 }

def width : Parser Nat := fun context input => some (context.width, input)

def input : Parser Input := fun _ input => some (input, input)

/-- The next token, wherever it stands. The last token of a text is never taken. -/
def next : Parser Token := do
  let i ← input
  match i.tokens with
  | [] => failure
  | t :: _ => return t

def second? : Parser (Option Token) := do
  return (← input).tokens[1]?

def take : Parser Token := do
  let i ← input
  match i.tokens with
  | [] => failure
  | t :: rest =>
    if t.kind == .finish then failure
    else
      set (⟨rest, t⟩ : Input)
      return t

/-- The next token as one that goes on the construct that is read, if there is any. -/
def ahead? : Parser (Option Token) := do
  let t ← next
  let context ← read
  if t.endsLine then
    match context.mode with
    | .ends => return none
    | .goesOn => if t.indent < context.width then failure else return some t
    | .bracketed => return some t
  else return some t

/-- Whether the closing bracket could follow the token that was read last. -/
def mayClose (t : Token) : Bool :=
  t.isMark "(" || t.isMark "[" || t.isMark "\x7b" || t.isMark ","

/-- The next token as the start of a value. A value may start on a new line, but not further left
than its block. -/
def operand : Parser Token := do
  let t ← next
  let i ← input
  let context ← read
  if t.endsLine && t.indent < context.width && t.kind != .stringStart &&
      !(context.mode == .bracketed && mayClose i.last) then failure
  else return t

/-- Takes the next token as a node of a kind. -/
def takeAs (kind : Kind) : Parser Piece := do
  return Piece.ofToken (← take) kind

def aheadMark (s : String) : Parser Bool := do
  return (← ahead?).any (·.isMark s)

def aheadWord (s : String) : Parser Bool := do
  return (← ahead?).any (·.isWord s)

/-- Takes a mark if it goes on the construct. -/
def mark? (s : String) : Parser (Option Piece) := do
  if ← aheadMark s then return some (← takeAs .mark) else return none

def word? (s : String) : Parser (Option Piece) := do
  if ← aheadWord s then return some (← takeAs .mark) else return none

def mark (s : String) : Parser Piece := do
  match ← mark? s with
  | some p => return p
  | none => failure

def word (s : String) : Parser Piece := do
  match ← word? s with
  | some p => return p
  | none => failure

def name : Parser Piece := do
  let t ← operand
  if t.kind == .word then takeAs .identifier else failure

def loop {α : Type} (step : α → Parser (Option α)) : Nat → α → Parser α
  | 0, _ => failure
  | fuel + 1, a => do
    match ← step a with
    | none => return a
    | some b => loop step fuel b

/-- Repeats a step that takes tokens. -/
def repeated {α : Type} (start : α) (step : α → Parser (Option α)) : Parser α := do
  loop step ((← read).bound + 1) start

/-- Pieces separated by commas up to a closing mark, which is taken too. The answer has the pieces
with the commas and the closing mark, and tells whether a comma stands last. -/
def separated (item : Parser Piece) (close : String) : Parser (List Piece × Bool) := do
  let (parts, closed, comma) ← repeated (([] : List Piece), false, false)
    fun (parts, closed, comma) => do
      if closed then return none
      match ← mark? close with
      | some c => return some (c :: parts, true, comma)
      | none =>
        if !parts.isEmpty && !comma then failure
        let p ← item
        match ← mark? "," with
        | some c => return some (c :: p :: parts, false, true)
        | none => return some (p :: parts, false, false)
  if closed then return (parts.reverse, comma) else failure

/-- A first piece and further ones behind commas, with the commas. A last comma may stand in front
of what cannot start an item. -/
def listFrom (first : Piece) (starts : Token → Bool) (item : Parser Piece) :
    Parser (List Piece) := do
  let (parts, _) ← repeated ([first], false) fun (parts, closed) => do
    if closed then return none
    match ← mark? "," with
    | none => return none
    | some c =>
      if (← ahead?).any starts then return some ((← item) :: c :: parts, false)
      else return some (c :: parts, true)
  return parts.reverse

end Parser
end PoolLint.Syntax
