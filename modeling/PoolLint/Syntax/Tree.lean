import PoolLint.Syntax.Grammar.Compound
import PoolLint.Syntax.Token.Reader

/-! The tree of a source text. -/
namespace PoolLint.Syntax

/-- One level of the grammar over the phrases inside it. -/
def Grammar.phrase (self : Phrase → Parser Piece) : Phrase → Parser Piece
  | .expression isBare => expression self isBare
  | .operation level => operation self level
  | .assigned => assigned self
  | .lines => lines self
  | .casePattern => casePattern self

def Grammar.reader : Nat → Phrase → Parser Piece
  | 0, _ => failure
  | depth + 1, phrase => Grammar.phrase (Grammar.reader depth) phrase

/-- The tree of a list of tokens, which has to be used up. Every phrase inside another one is
reached by at most five steps from token to token, so the depth of the grammar is no limit. -/
def Node.ofTokens? (tokens : List Token) : Option Node :=
  match tokens with
  | [] => none
  | first :: _ =>
    let bound := tokens.length
    match Grammar.reader (6 * bound + 6) .lines ⟨.ends, 0, bound⟩ ⟨tokens, first⟩ with
    | none => none
    | some (p, rest) =>
      if rest.tokens.length ≤ 1 then some (p.withKind .module).node else none

/-- The tree of a source text, if the grammar has one for it. -/
def Node.ofText? (cs : List Char) : Option Node := (Token.read? cs).bind Node.ofTokens?

end PoolLint.Syntax
