import PoolLint.Legality.Violation
import PoolLint.Syntax.Token.Number

/-! Rules for single words and marks: how numbers are written, which blanks may part words, and how
deeply brackets may be nested. -/
namespace PoolLint.Legality
open PoolLint.Syntax

def underscoresPart (isDigit : Char → Bool) : List Char → Bool
  | [] => true
  | '_' :: cs => cs.head?.any isDigit && underscoresPart isDigit cs
  | _ :: cs => underscoresPart isDigit cs

def maxDecimalDigits : Nat := 4300

/-- Whether a decimal whole number is well written: a leading zero is for zero alone, unless the
number is imaginary. -/
def isDecimalLegal (cs : List Char) : Bool :=
  if cs.getLast?.any (fun c => c == 'l' || c == 'L') then false
  else if cs.getLast?.any (fun c => c == 'j' || c == 'J') then true
  else (cs.all (fun c => c == '0' || c == '_') || cs.head? != some '0') &&
    (cs.filter (· != '_')).length ≤ maxDecimalDigits

def isNumberLegal (kind : Token.Kind) (cs : List Char) : Bool :=
  match cs with
  | '0' :: b :: rest =>
    if kind == .integer && b.isAlpha && !(b == 'j' || b == 'J' || b == 'l' || b == 'L') then
      underscoresPart (Text.isDigitOf 16) rest && !(rest.getLast?.any fun c => c == 'l' || c == 'L')
    else isPlainLegal
  | _ => isPlainLegal
where
  isPlainLegal : Bool :=
    underscoresPart Token.Number.isDecimal cs && (kind != .integer || isDecimalLegal cs)

/-- The words that may follow a number without a blank. -/
def wordsBehindNumbers : List String := ["and", "else", "for", "if", "in", "is", "not", "or"]

def isNeighbourLegal (t next : Token) : Bool :=
  match t.kind with
  | .integer | .float =>
    isNumberLegal t.kind t.text.toList &&
      !(next.kind == .word && next.layout.isEmpty && !wordsBehindNumbers.contains next.text)
  | _ => true

def blanksAreLegal (inComment : Bool) : List Char → Bool
  | [] => true
  | c :: cs =>
    if c == '\n' then blanksAreLegal false cs
    else if inComment then blanksAreLegal true cs
    else if c == '#' then blanksAreLegal true cs
    else (c == ' ' || c == '\t' || c == '\x0c' || c == '\\') && blanksAreLegal false cs

/-- How deeply brackets may be nested, counted anew inside every text with fields. -/
def maxBrackets : Nat := 200

/-- The numbers of open brackets, of the innermost text with fields first. -/
def bracketLevels (t : Token) (levels : List Nat) : List Nat :=
  match t.kind, levels with
  | .stringStart, _ => 0 :: levels
  | .stringEnd, _ :: rest => rest
  | .mark, level :: rest =>
    if t.text == "(" || t.text == "[" || t.text == "\x7b" then (level + 1) :: rest
    else if t.text == ")" || t.text == "]" || t.text == "\x7d" then (level - 1) :: rest
    else levels
  | _, _ => levels

/-- A line continuation may not end the text. -/
def isEndLegal (t : Token) : Bool :=
  t.kind != .finish || !(t.extras.getLast?.any fun e =>
    e.kind == .lineContinuation && e.span.stop.byte == t.span.start.byte)

def wordFault? (levels : List Nat) : List Token → Option Token
  | [] => none
  | t :: rest =>
    let levels := bracketLevels t levels
    let legal := blanksAreLegal false t.layout.toList && isEndLegal t &&
      levels.all (· ≤ maxBrackets) &&
      (match rest with
        | next :: _ => isNeighbourLegal t next
        | [] => true)
    if legal then wordFault? levels rest else some t

end PoolLint.Legality
