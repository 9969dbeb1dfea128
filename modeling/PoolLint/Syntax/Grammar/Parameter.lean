import PoolLint.Syntax.Grammar.Phrase

/-! Parameters of functions. Those of a lambda have no annotations. -/
namespace PoolLint.Syntax.Grammar
open PoolLint.Syntax.Parser

/-- A parameter that takes what is left over, with its annotation. -/
def spreadParameter (self : Phrase → Parser Piece) (kind : Kind) (isAnnotated : Bool) :
    Parser Piece := do
  let star ← takeAs .mark
  let spread := Piece.build kind star [(← name).as .name]
  if isAnnotated then
    match ← mark? ":" with
    | some colon =>
      return Piece.build .typedParameter spread [colon, (← typeHint self true).as .type]
    | none => return spread
  else return spread

def withDefault (self : Phrase → Parser Piece) (plain defaulted : Kind) (p : Piece)
    (parts : List Piece) : Parser Piece := do
  match ← mark? "=" with
  | some equals =>
    let value ← self (.expression true)
    return Piece.build defaulted p (parts ++ [equals, value.as .value])
  | none => if parts.isEmpty then return p else return Piece.build plain p parts

def parameter (self : Phrase → Parser Piece) (isAnnotated : Bool) : Parser Piece := do
  let t ← operand
  if t.isMark "*" then
    match ← second? with
    | some n =>
      if n.kind == .word then spreadParameter self .listSplatPattern isAnnotated
      else return Piece.build .keywordSeparator (← takeAs .mark) []
    | none => failure
  else if t.isMark "**" then spreadParameter self .dictionarySplatPattern isAnnotated
  else if t.isMark "/" then return Piece.build .positionalSeparator (← takeAs .mark) []
  else if t.isMark "(" then
    let p ← self (.operation 9)
    if isTarget p.node then
      withDefault self .typedParameter .defaultParameter (p.as .name) []
    else failure
  else
    let n := (← name).as .name
    let colon ← if isAnnotated then mark? ":" else pure none
    match colon with
    | some colon =>
      withDefault self .typedParameter .typedDefaultParameter n
        [colon, (← typeHint self true).as .type]
    | none => withDefault self .typedParameter .defaultParameter n []

def parameters (self : Phrase → Parser Piece) : Parser Piece := do
  let opening ← mark "("
  inMode .bracketed do
    let (parts, _) ← separated (parameter self true) ")"
    return Piece.build .parameters opening parts

def lambdaParameters (self : Phrase → Parser Piece) : Parser (Option Piece) := inner do
  if ← aheadMark ":" then return none
  let first ← parameter self false
  let parts ← listFrom first (!·.isMark ":") (parameter self false)
  return some (Piece.ofParts .parameters parts)

end PoolLint.Syntax.Grammar
