import PoolLint.Syntax.Parser

/-! The phrases that contain each other, and what every grammar module needs: which tokens start a
value, and which trees can be assigned to. -/
namespace PoolLint.Syntax

inductive Phrase where
  /-- An expression. A bare one may be conditional. -/
  | expression (isBare : Bool)
  /-- Operands with the binary operators that bind at least as strongly as a level. -/
  | operation (level : Nat)
  /-- An expression list and the assignments behind it. -/
  | assigned
  /-- The lines of a block. -/
  | lines
  | casePattern
  deriving Repr

namespace Grammar
open PoolLint.Syntax.Parser

/-- Words that join values and so start none. -/
def joiningWords : List String :=
  ["and", "or", "in", "is", "if", "else", "for", "as", "from", "import"]

def startsValue (t : Token) : Bool :=
  match t.kind with
  | .word => !joiningWords.contains t.text
  | .integer | .float | .stringStart => true
  | .mark => ["(", "[", "\x7b", "-", "+", "~", "..."].contains t.text
  | _ => false

/-- Whether a token starts an item of a list, which may be spread. -/
def startsItem (t : Token) : Bool := startsValue t || t.isMark "*"

/-- Reads what cannot stand last: a line end does not close it. -/
def inner {α : Type} (p : Parser α) : Parser α := do
  if (← read).mode == .ends then inMode .goesOn p else p

mutual

def isTarget : Node → Bool
  | .mk kind _ _ _ children =>
    match kind with
    | .identifier | .attribute | .subscript => true
    | .listSplat => splatsTarget children
    | .tuple | .list | .parenthesized | .expressionList => areTargets children
    | _ => false

def areTargets : List Node → Bool
  | [] => true
  | .mk kind role text span children :: rest =>
    (match kind with
      | .mark | .comment | .lineContinuation => true
      | _ => isTarget (.mk kind role text span children)) && areTargets rest

/-- Only a plain target can be spread into. -/
def splatsTarget : List Node → Bool
  | [] => true
  | n :: rest =>
    (match n.kind with
      | .mark | .comment | .lineContinuation => true
      | .identifier | .attribute | .subscript => true
      | _ => false) && splatsTarget rest

end

/-- A list of expressions; one without a comma stands for itself. -/
def expressionList (self : Phrase → Parser Piece) : Parser Piece := do
  let first ← self (.expression true)
  match ← listFrom first startsItem (self (.expression true)) with
  | [p] => return p
  | parts => return Piece.ofParts .expressionList parts

/-- The word that asks for or hands over a value, with the value. -/
def yieldPhrase (self : Phrase → Parser Piece) : Parser Piece := do
  let w ← takeAs .mark
  match ← word? "from" with
  | some from_ => return Piece.build .yield w [from_, (← self (.expression true)).as .value]
  | none =>
    if (← ahead?).any startsItem then
      return Piece.build .yield w [(← expressionList self).as .value]
    else return Piece.build .yield w []

def element (self : Phrase → Parser Piece) : Parser Piece := do
  let t ← operand
  if t.isWord "yield" then yieldPhrase self
  else if t.isMark "*" then
    let star ← takeAs .mark
    return Piece.build .listSplat star [← self (.expression true)]
  else self (.expression true)

/-- An annotation. A chain of them is joined by colons. -/
def typeHint (self : Phrase → Parser Piece) (isChain : Bool) : Parser Piece := do
  let first ← one
  if isChain then
    repeated first fun p => do
      match ← mark? ":" with
      | none => return none
      | some colon => return some (Piece.build .constrainedType p [colon, ← one])
  else return first
where
  one : Parser Piece := do
    let t ← operand
    if t.isMark "*" || t.isMark "**" then
      let star ← takeAs .mark
      return Piece.build .splatType star [← name]
    else return Piece.build .type (← self (.expression true)) []

end Grammar
end PoolLint.Syntax
