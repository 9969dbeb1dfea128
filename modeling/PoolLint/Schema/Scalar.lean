import PoolLint.Json.Basic
import PoolLint.Numeral.Decimal
import PoolLint.Schema.Problem

/-! Scalars in documents. An integer may also be given as a truth value, as a number without a
fractional part, or as text. -/
namespace PoolLint.Schema
open PoolLint.Text

def isTrimmed (c : Char) : Bool := isBlank c && !(28 ≤ c.toNat && c.toNat ≤ 31)

/-- An integer text without the zeros in front of its first other digit; `previous` is the character
before the one that is looked at. -/
def dropZeros? (previous : Char) : List Char → Option (List Char)
  | [] => some [previous]
  | c :: cs =>
    if c == '0' || c == '_' then dropZeros? c cs
    else if c.isDigit then some (c :: cs)
    else if c == '.' then some (previous :: c :: cs)
    else none

def dropLeadingZeros? : List Char → Option (List Char)
  | '0' :: cs => dropZeros? '0' cs
  | c :: cs => if c.isDigit || c == '-' then some (c :: cs) else none
  | [] => none

/-- Drops a point that only zeros follow. -/
def dropZeroFraction (cs : List Char) : List Char :=
  let fraction := (cs.dropWhile (· != '.')).drop 1
  if cs.contains '.' && fraction.all (· == '0') then cs.takeWhile (· != '.') else cs

/-- Drops underscores that stand alone between other characters. -/
def dropBars (cs : List Char) : List Char :=
  let doubled := (cs.zip (cs.drop 1)).any fun p => p.1 == '_' && p.2 == '_'
  if doubled || cs.head? == some '_' || cs.getLast? == some '_' then cs
  else cs.filter (· != '_')

/-- Digits without a zero in front, possibly signed. -/
def strictInteger? (cs : List Char) : Option Int :=
  let (negative, digits) : Bool × List Char := match cs with
    | '-' :: rest => (true, rest)
    | _ => (false, cs)
  if digits.isEmpty || !digits.all Char.isDigit || (digits.head? == some '0' && 1 < digits.length)
  then none
  else
    let n : Int := digitsValue 10 digits
    some (if negative then -n else n)

/-- The most characters an integer text may have. -/
def textLimit : Nat := 4300

def integerOfText (s : String) : Check Int :=
  let trimmed := trimWhere isTrimmed s.toList
  let unsigned := match trimmed with
    | '+' :: '-' :: _ => []
    | '+' :: rest => rest
    | cs => cs
  let cleaned := (dropLeadingZeros? unsigned).map fun cs => dropBars (dropZeroFraction cs)
  match cleaned.bind strictInteger? with
  | some n =>
    if textLimit < (cleaned.getD []).length then .fail .oversizedInteger else .ok n
  | none => .fail .unreadableInteger

/-- The bound from which a number in floating point notation is no longer taken as an integer. -/
def integralLimit : Int := Nat.pow 2 63

def integerOfDouble (x : Binary64) : Check Int :=
  match x.toInt? with
  | some n => if -integralLimit < n && n < integralLimit then .ok n else .fail .oversizedInteger
  | none => .fail .fractionalInteger

def integer : Json → Check Int
  | .boolean b => .ok (if b then 1 else 0)
  | .integer n => .ok n
  | .decimal negative digits scale => integerOfDouble (.ofDecimal negative digits scale)
  | .string s => integerOfText s
  | _ => .fail .notInteger

def natural (minimum : Nat) (j : Json) : Check Nat :=
  match integer j with
  | .ok n => if (minimum : Int) ≤ n then .ok n.toNat else .fail .belowMinimum
  | .error problems => .error problems

def integerFrom (minimum : Int) (j : Json) : Check Int :=
  match integer j with
  | .ok n => if minimum ≤ n then .ok n else .fail .belowMinimum
  | .error problems => .error problems

def text : Json → Check String
  | .string s => .ok s
  | _ => .fail .notText

def optionalText : Json → Check (Option String)
  | .null => .ok none
  | j => (text j).map some

def double : Json → Check Binary64
  | .boolean b => .ok (.ofNat (if b then 1 else 0))
  | .integer n => .ok (.ofDecimal (n < 0) n.natAbs 0)
  | .decimal negative digits scale => .ok (.ofDecimal negative digits scale)
  | .string s =>
    match Numeral.readDecimal? (String.ofList (trimWhere isTrimmed s.toList)) with
    | some x => .ok x
    | none => .fail .unreadableNumber
  | _ => .fail .notNumber

def word {α : Type} (ofName? : String → Option α) : Json → Check α
  | .string s =>
    match ofName? s with
    | some a => .ok a
    | none => .fail .notMember
  | _ => .fail .notMember

def texts : Json → Check (List String)
  | .array xs => go 0 xs
  | _ => .fail .notSequence
where
  go (position : Nat) : List Json → Check (List String)
    | [] => .ok []
    | x :: xs =>
      (Check.both ((text x).under (.position position)) (go (position + 1) xs)).map fun p =>
        p.1 :: p.2

def required {α : Type} (name : String) (check : Json → Check α) (members : List (String × Json)) :
    Check α :=
  match Json.member? name members with
  | some j => (check j).under (.name name)
  | none => Check.under (.name name) (.fail .missing)

/-- A member that may be left out. -/
def optional {α : Type} (name : String) (default : α) (check : Json → Check α)
    (members : List (String × Json)) : Check α :=
  match Json.member? name members with
  | some j => (check j).under (.name name)
  | none => .ok default

end PoolLint.Schema
