import PoolLint.Numeral.Decimal
import PoolLint.Text.Quoted

/-! Reading a text as an integer, in base ten or with the base shown by its first characters. -/
namespace PoolLint.Numeral
open PoolLint.Text

/-- Why a text is no integer. A decimal text may have too many digits to be converted at all. -/
inductive IntegerFault where
  | malformed
  | tooManyDigits (count : Nat)
  deriving DecidableEq, Repr

/-- Digits below `base` with single underscores between them, and what follows. `none` when there
is no digit first, or an underscore is doubled or last. -/
def digitRun? (base : Nat) : Char → List Char → Option (List Char × List Char)
  | previous, [] => if previous == '_' then none else some ([], [])
  | previous, c :: cs =>
    if c == '_' then
      if previous == '_' then none else digitRun? base c cs
    else if isDigitOf base c then
      (digitRun? base c cs).map fun (ds, rest) => (c :: ds, rest)
    else if previous == '_' then none
    else some ([], c :: cs)

/-- The greatest number of digits a decimal text may have. -/
def digitLimit : Nat := 4300

/-- The base that a text shows, and the text behind the sign of the base. An underscore may follow
that sign. A text that only starts with a zero is decimal and has to be zero. -/
def shownBase : List Char → Nat × Bool × List Char
  | '0' :: c :: cs =>
    let behind := match cs with
      | '_' :: rest => rest
      | _ => cs
    if c == 'x' || c == 'X' then (16, false, behind)
    else if c == 'o' || c == 'O' then (8, false, behind)
    else if c == 'b' || c == 'B' then (2, false, behind)
    else (10, true, '0' :: c :: cs)
  | '0' :: cs => (10, true, '0' :: cs)
  | cs => (10, false, cs)

/-- Reads digits in a base up to the end of the text or blanks before it. -/
def magnitude (base : Nat) (onlyZero : Bool) (cs : List Char) : Except IntegerFault Nat :=
  match cs with
  | '_' :: _ => .error .malformed
  | _ =>
    match digitRun? base ' ' cs with
    | none => .error .malformed
    | some (digits, rest) =>
      if base == 10 && digitLimit < digits.length then .error (.tooManyDigits digits.length)
      else if digits.isEmpty || !rest.all isAsciiBlank then .error .malformed
      else
        let n := digitsValue base digits
        if onlyZero && n != 0 then .error .malformed else .ok n

def readInteger (s : String) : Except IntegerFault Int := do
  let (negative, digits) := splitSign ((readable s).dropWhile isAsciiBlank)
  let n ← magnitude 10 false digits
  return if negative then -n else n

/-- The integer that a literal denotes: the base is taken from `0x`, `0o` or `0b`, and without one
of them a literal that starts with a zero has to be zero. -/
def readIntegerLiteral (s : String) : Except IntegerFault Int := do
  let (negative, rest) := splitSign ((readable s).dropWhile isAsciiBlank)
  let (base, onlyZero, digits) := shownBase rest
  let n ← magnitude base onlyZero digits
  return if negative then -n else n

def IntegerFault.message (s : String) : IntegerFault → String
  | .malformed =>
    "invalid literal for int() with base 10: " ++ String.ofList ((quoted s).toList.take 200)
  | .tooManyDigits count =>
    s!"Exceeds the limit ({digitLimit} digits) for integer string conversion: value has " ++
      s!"{count} digits; use sys.set_int_max_str_digits() to increase the limit"

end PoolLint.Numeral
