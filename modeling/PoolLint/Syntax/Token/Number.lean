import PoolLint.Syntax.Token
import PoolLint.Text.Digit

/-! How far a number reaches at the start of a text. A decimal run may hold single underscores
behind digits, the last digit included; in the other bases an underscore stands before a digit. -/
namespace PoolLint.Syntax.Token.Number
open PoolLint.Text

def isDecimal (c : Char) : Bool := '0' ≤ c && c ≤ '9'

/-- The length of a decimal run; `behindDigit` tells whether a digit stands before it. -/
def decimalRun : Bool → List Char → Nat
  | _, [] => 0
  | behindDigit, c :: cs =>
    if isDecimal c then decimalRun true cs + 1
    else if c == '_' && behindDigit then decimalRun false cs + 1
    else 0

def baseRun (base : Nat) : List Char → Nat
  | [] => 0
  | c :: cs =>
    if isDigitOf base c then baseRun base cs + 1
    else if c == '_' && (cs.head?.any (isDigitOf base)) then baseRun base cs + 1
    else 0

/-- The length of an exponent, zero when there is none. -/
def exponentRun : List Char → Nat
  | e :: s :: cs =>
    if e == 'e' || e == 'E' then
      if s == '+' || s == '-' then
        match decimalRun false cs with
        | 0 => 0
        | n => n + 2
      else match decimalRun false (s :: cs) with
        | 0 => 0
        | n => n + 1
    else 0
  | _ => 0

/-- Whether a text goes on with one of some characters: the length to take, one or zero. -/
def optional (allowed : List Char) (cs : List Char) : Nat :=
  match cs with
  | c :: _ => if allowed.contains c then 1 else 0
  | [] => 0

/-- The length of a whole number that starts with zero and a letter for its base. -/
def based? (cs : List Char) : Option Nat :=
  match cs with
  | '0' :: b :: rest =>
    let base := if b == 'x' || b == 'X' then 16 else if b == 'o' || b == 'O' then 8
      else if b == 'b' || b == 'B' then 2 else 0
    match baseRun base rest with
    | 0 => none
    | n => some (2 + n + optional ['l', 'L'] (rest.drop n))
  | _ => none

/-- Behind the digits before the point: the length of what makes the number a fraction. -/
def fractionRun (cs : List Char) : Nat :=
  match cs with
  | '.' :: rest =>
    let digits := decimalRun false rest
    1 + digits + exponentRun (rest.drop digits)
  | _ => exponentRun cs

def read? (cs : List Char) : Option (Token.Kind × Nat) :=
  match based? cs with
  | some n => some (.integer, n)
  | none =>
    let whole := decimalRun false cs
    if whole == 0 then
      match cs with
      | '.' :: c :: _ =>
        if isDecimal c then
          let n := fractionRun cs
          some (.float, n + optional ['j', 'J'] (cs.drop n))
        else none
      | _ => none
    else
      let fraction := fractionRun (cs.drop whole)
      let n := whole + fraction
      if fraction == 0 then
        some (.integer, n + optional ['l', 'L', 'j', 'J'] (cs.drop n))
      else some (.float, n + optional ['j', 'J'] (cs.drop n))

end PoolLint.Syntax.Token.Number
