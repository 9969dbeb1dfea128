import PoolLint.Text.Blank
import PoolLint.Numeral.Binary64

/-! Reading a text as a decimal number in floating point notation. -/
namespace PoolLint.Numeral
open PoolLint.Text

/-- A text in which digits of all scripts and blanks of all kinds beyond ASCII have become ASCII
ones. From the first other character beyond ASCII on nothing can be read, so it becomes a mark
that no number has and the rest is dropped. -/
def toAscii : List Char → List Char
  | [] => []
  | c :: cs =>
    if c.toNat < 127 then c :: toAscii cs
    else if isBlank c then ' ' :: toAscii cs
    else match decimalValue? c with
      | some d => digitChar d :: toAscii cs
      | none => ['?']

def allAscii (cs : List Char) : Bool := cs.all (·.toNat < 128)

def readable (s : String) : List Char :=
  let cs := s.toList
  if allAscii cs then cs else toAscii cs

/-- Digits with single underscores between them lose the underscores; an underscore anywhere else
makes the text unreadable. -/
def joinGroups? : Char → List Char → Option (List Char)
  | previous, [] => if previous == '_' then none else some []
  | previous, c :: cs =>
    if c == '_' then
      if previous.isDigit then joinGroups? c cs else none
    else if previous == '_' && !c.isDigit then none
    else (joinGroups? c cs).map (c :: ·)

def splitSign : List Char → Bool × List Char
  | '-' :: cs => (true, cs)
  | '+' :: cs => (false, cs)
  | cs => (false, cs)

/-- The words for the values that have no digits. -/
def specialValue? (negative : Bool) (cs : List Char) : Option Binary64 :=
  let word := String.ofList (cs.map Char.toLower)
  if word == "inf" || word == "infinity" then some (.infinite negative)
  else if word == "nan" then some .notANumber
  else none

/-- What follows the digits: nothing, or `e` and a signed digit sequence. -/
def exponentPart? : List Char → Option Int
  | [] => some 0
  | e :: cs =>
    if e == 'e' || e == 'E' then
      let (negative, digits) := splitSign cs
      if digits.isEmpty || !digits.all Char.isDigit then none
      else
        let n : Int := digitsValue 10 digits
        some (if negative then -n else n)
    else none

/-- An unsigned number: digits with at most one point among them, and an exponent. -/
def unsignedDecimal? (negative : Bool) (cs : List Char) : Option Binary64 :=
  let whole := cs.takeWhile Char.isDigit
  let afterWhole := cs.dropWhile Char.isDigit
  let (fraction, tail) := match afterWhole with
    | '.' :: rest => (rest.takeWhile Char.isDigit, rest.dropWhile Char.isDigit)
    | rest => ([], rest)
  if whole.isEmpty && fraction.isEmpty then none
  else (exponentPart? tail).map fun e =>
    Binary64.ofDecimal negative (digitsValue 10 (whole ++ fraction)) (e - fraction.length)

/-- The double that a text denotes: a decimal number, a word for infinity, or the word for no
number, with blanks around it. -/
def readDecimal? (s : String) : Option Binary64 := do
  let cs ← joinGroups? ' ' (trimWhere isAsciiBlank (readable s))
  let (negative, magnitude) := splitSign cs
  match specialValue? negative magnitude with
  | some x => some x
  | none => unsignedDecimal? negative magnitude

end PoolLint.Numeral
