import PoolLint.Text.Ranges
import PoolLint.Text.IdentifierRanges

/-! The characters of identifiers. -/
namespace PoolLint.Text

def isIdentifierStart (c : Char) : Bool :=
  let n := c.toNat
  if n < 128 then c.isAlpha || c == '_' else inRanges identifierStartRanges n

def isIdentifierContinue (c : Char) : Bool :=
  let n := c.toNat
  if n < 128 then c.isAlphanum || c == '_' else inRanges identifierContinueRanges n

def isIdentifier (s : String) : Bool :=
  match s.toList with
  | [] => false
  | c :: cs => isIdentifierStart c && cs.all isIdentifierContinue

end PoolLint.Text
