import PoolLint.Syntax.Token

/-! How texts in quotes begin, go on and end. -/
namespace PoolLint.Syntax.Token

/-- The letters in front of a quote and the quote itself. -/
structure Quote where
  mark : Char
  isTriple : Bool
  isRaw : Bool
  isBytes : Bool
  hasFields : Bool
  deriving DecidableEq, Repr, Inhabited

namespace Quote

def none : Quote := ⟨'"', false, false, false, false⟩

/-- What a letter in front of a quote says about it. -/
def withLetter? (q : Quote) (c : Char) : Option Quote :=
  if c == 'f' || c == 'F' || c == 't' || c == 'T' then some { q with hasFields := true }
  else if c == 'r' || c == 'R' then some { q with isRaw := true }
  else if c == 'b' || c == 'B' then some { q with isBytes := true }
  else if c == 'u' || c == 'U' then some q
  else Option.none

/-- The quote a text starts with and how many characters it takes. -/
def startFrom (q : Quote) (taken : Nat) : List Char → Option (Quote × Nat)
  | [] => Option.none
  | c :: cs =>
    if c == '\x60' then some ({ q with mark := c }, taken + 1)
    else if c == '"' || c == '\'' then
      if cs.take 2 == [c, c] then some ({ q with mark := c, isTriple := true }, taken + 3)
      else some ({ q with mark := c }, taken + 1)
    else match q.withLetter? c with
      | some q => startFrom q (taken + 1) cs
      | Option.none => Option.none

def start? (cs : List Char) : Option (Quote × Nat) := startFrom Quote.none 0 cs

def closingLength (q : Quote) : Nat := if q.isTriple then 3 else 1

def isClosedAt (q : Quote) (cs : List Char) : Bool :=
  cs.take q.closingLength == List.replicate q.closingLength q.mark

def isNamed : List Char → Bool
  | 'N' :: '\x7b' :: c :: cs => c != '\x7d' && cs.contains '\x7d'
  | _ => false

/-- How a stretch of plain content ends. -/
inductive Ending where
  | quote
  | field
  deriving DecidableEq, Repr

/-- Adds to `taken` how many characters of content follow, up to the closing quote or to a field.
`inName` tells that the characters belong to the name of a character, and `filled` that the line
holds content behind the last escape: a line end may not follow then, unless the quote is a triple
one. -/
def content (q : Quote) (inName filled : Bool) (taken : Nat) : List Char → Option (Nat × Ending)
  | [] => Option.none
  | c :: cs =>
    if inName then content q (c != '\x7d') (c != '\x7d') (taken + 1) cs
    else if c == q.mark && q.isClosedAt (c :: cs) then some (taken, .quote)
    else if q.hasFields && (c == '\x7b' || c == '\x7d') then
      match cs with
      | d :: ds =>
        if d == c then content q false false (taken + 2) ds
        else if c == '\x7b' then some (taken, .field)
        else Option.none
      | [] => Option.none
    else if c == '\\' then
      match cs with
      | '\r' :: '\n' :: ds => content q false (q.isRaw && filled) (taken + 3) ds
      | d :: ds =>
        if q.isRaw then
          if d == q.mark || d == '\\' || d == '\n' || d == '\r' then
            content q false filled (taken + 2) ds
          else content q false filled (taken + 1) (d :: ds)
        else if d == 'N' || d == 'u' || d == 'U' then
          if q.isBytes then
            match ds with
            | _ :: es => content q false true (taken + 3) es
            | [] => Option.none
          else content q (isNamed (d :: ds)) false (taken + 1) (d :: ds)
        else if d == '\x7b' || d == '\x7d' then content q false false (taken + 1) (d :: ds)
        else content q false false (taken + 2) ds
      | [] => Option.none
    else if c == '\n' && filled && !q.isTriple then Option.none
    else content q false true (taken + 1) cs

end Quote
end PoolLint.Syntax.Token
