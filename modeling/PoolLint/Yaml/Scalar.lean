import PoolLint.Yaml.Implicit

/-! The style in which a text is written as a block value: plain where nothing in it could be taken
for markup or for a value of another type, in single quotes where all its characters can stand for
themselves, in double quotes with escapes otherwise. -/
namespace PoolLint.Yaml
open PoolLint.Text

inductive Style where
  | plain
  | single
  | double
  deriving DecidableEq, Repr

def isBreak (c : Char) : Bool :=
  c == '\n' || c.toNat == 0x85 || c.toNat == 0x2028 || c.toNat == 0x2029

/-- Characters after which an indicator counts as standing alone. -/
def isGap (c : Char) : Bool :=
  isBreak c || c == ' ' || c == '\t' || c == '\r' || c.toNat == 0

/-- Characters that may stand for themselves: line feed, visible ASCII, and nearly everything from
the no-break space on. -/
def isPlainChar (c : Char) : Bool :=
  let n := c.toNat
  n == 10 || (0x20 ≤ n && n ≤ 0x7E) || n == 0x85 || (0xA0 ≤ n && n ≤ 0xD7FF) ||
    (0xE000 ≤ n && n ≤ 0xFFFD && n != 0xFEFF) || (0x10000 ≤ n && n < 0x10FFFF)

def isGapOrEnd : List Char → Bool
  | [] => true
  | c :: _ => isGap c

/-- Whether the first character of a text, with what follows it, is markup. -/
def startsMarkup : List Char → Bool
  | [] => false
  | c :: cs =>
    "#,[]\x7b\x7d&*!|>'\"%@\x60".toList.contains c ||
      ((c == '?' || c == ':' || c == '-') && isGapOrEnd cs)

/-- Whether markup stands behind the character `previous`. -/
def containsMarkup : Char → List Char → Bool
  | _, [] => false
  | previous, c :: cs =>
    (c == ':' && isGapOrEnd cs) || (c == '#' && isGap previous) || containsMarkup c cs

def isMarkup (cs : List Char) : Bool :=
  "---".toList.isPrefixOf cs || "...".toList.isPrefixOf cs || startsMarkup cs ||
    match cs with
    | [] => false
    | c :: rest => containsMarkup c rest

/-- Whether a character of the first class is followed at once by one of the second. -/
def hasPair (p q : Char → Bool) : List Char → Bool
  | a :: b :: cs => (p a && q b) || hasPair p q (b :: cs)
  | _ => false

def isSpaceOrBreak (c : Char) : Bool := c == ' ' || isBreak c

def endsWith (p : Char → Bool) (cs : List Char) : Bool :=
  match cs.getLast? with
  | some c => p c
  | none => false

def startsWith (p : Char → Bool) (cs : List Char) : Bool :=
  match cs.head? with
  | some c => p c
  | none => false

/-- Single quotes keep neither odd characters nor spaces beside line breaks. -/
def allowsSingle (cs : List Char) : Bool :=
  cs.all isPlainChar && !hasPair isBreak (· == ' ') cs && !hasPair (· == ' ') isBreak cs

def allowsPlain (cs : List Char) : Bool :=
  allowsSingle cs && !cs.any isBreak && !startsWith isSpaceOrBreak cs &&
    !endsWith isSpaceOrBreak cs && !isMarkup cs

def style (cs : List Char) : Style :=
  if readsAsText cs && allowsPlain cs then .plain
  else if allowsSingle cs then .single
  else .double

def escapeLetter? (c : Char) : Option Char :=
  ([(0x00, '0'), (0x07, 'a'), (0x08, 'b'), (0x09, 't'), (0x0A, 'n'), (0x0B, 'v'), (0x0C, 'f'),
    (0x0D, 'r'), (0x1B, 'e'), (0x22, '"'), (0x5C, '\\'), (0x85, 'N'), (0xA0, '_'),
    (0x2028, 'L'), (0x2029, 'P')].find? fun p => p.1 == c.toNat).map (·.2)

def isEscaped (c : Char) : Bool :=
  let n := c.toNat
  c == '"' || c == '\\' || n == 0x2028 || n == 0x2029 || n == 0xFEFF ||
    !((0x20 ≤ n && n ≤ 0x7E) || (0xA0 ≤ n && n ≤ 0xD7FF) || (0xE000 ≤ n && n ≤ 0xFFFD))

def upperHex (width n : Nat) : List Char := (hexPadded width n).toList.map Char.toUpper

def escape (c : Char) : List Char :=
  match escapeLetter? c with
  | some d => ['\\', d]
  | none =>
    if c.toNat ≤ 0xFF then '\\' :: 'x' :: upperHex 2 c.toNat
    else if c.toNat ≤ 0xFFFF then '\\' :: 'u' :: upperHex 4 c.toNat
    else '\\' :: 'U' :: upperHex 8 c.toNat

end PoolLint.Yaml
