import PoolLint.Syntax.Grammar.Phrase

/-! Texts in quotes with the expressions in their fields. Neighbouring ones are joined. -/
namespace PoolLint.Syntax.Grammar
open PoolLint.Syntax.Parser

/-- Pieces up to a token, which is left. -/
def piecesUntil (ends : Token → Bool) (item : Token → Parser Piece) : Parser (List Piece) := do
  let parts ← repeated ([] : List Piece) fun parts => do
    let t ← next
    if ends t then return none
    return some ((← item t) :: parts)
  return parts.reverse

/-- A field of a text: an expression, an equals sign that shows it, a conversion, and a format,
which may have fields of its own. -/
def field (self : Phrase → Parser Piece) : Nat → Parser Piece
  | 0 => failure
  | fuel + 1 => do
    let opening ← takeAs .mark
    inField do
      let value ← if (← operand).isWord "yield" then yieldPhrase self else expressionList self
      let shown ← mark? "="
      let conversion ←
        if (← next).kind == .conversion then some <$> takeAs .typeConversion else pure none
      let format ← match ← mark? ":" with
        | none => pure none
        | some colon =>
          let parts ← piecesUntil (·.isMark "\x7d") fun t => do
            if t.kind == .specText then takeAs .stringContent
            else if t.isMark "\x7b" then field self fuel
            else failure
          pure (some (Piece.build .formatSpecifier colon parts))
      let closing ← mark "\x7d"
      return Piece.build .interpolation opening
        (value.as .value :: (shown.toList ++ conversion.toList ++ format.toList ++ [closing]))

def quoted (self : Phrase → Parser Piece) : Parser Piece := do
  let opening ← takeAs .mark
  let bound := (← read).bound
  let parts ← piecesUntil (·.kind == .stringEnd) fun t => do
    if t.kind == .stringContent then takeAs .stringContent
    else if t.isMark "\x7b" then field self bound
    else failure
  let closing ← takeAs .mark
  return Piece.build .string opening (parts ++ [closing])

def joinedQuoted (self : Phrase → Parser Piece) : Parser Piece := do
  let first ← quoted self
  let parts ← repeated [first] fun parts => do
    if (← ahead?).any (·.kind == .stringStart) then return some ((← quoted self) :: parts)
    else return none
  match parts.reverse with
  | [p] => return p
  | parts => return Piece.ofParts .concatenatedString parts

end PoolLint.Syntax.Grammar
