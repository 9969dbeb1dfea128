import PoolLint.Text.Digit
import PoolLint.Text.Pieces

/-! The plain scalars that are read as something other than text: truth values, numbers, dates, the
null word, and the marks for merging, defaults and node properties. A text with one of these forms
has to be quoted. -/
namespace PoolLint.Yaml
open PoolLint.Text

def dropSign : List Char → List Char
  | '-' :: cs => cs
  | '+' :: cs => cs
  | cs => cs

def isDigitOrBar (c : Char) : Bool := c.isDigit || c == '_'

def truthWords : List String :=
  ["yes", "Yes", "YES", "no", "No", "NO", "true", "True", "TRUE", "false", "False", "FALSE",
   "on", "On", "ON", "off", "Off", "OFF"]

def nullWords : List String := ["~", "null", "Null", "NULL", ""]

def markWords : List String := ["<<", "=", "!", "&", "*"]

def infinityWords : List String := [".inf", ".Inf", ".INF"]

def notANumberWords : List String := [".nan", ".NaN", ".NAN"]

def isSixtieth : List Char → Bool
  | [a] => a.isDigit
  | [a, b] => '0' ≤ a && a ≤ '5' && b.isDigit
  | _ => false

/-- Digits, and after at least one colon sixtieths. -/
def isSexagesimal (first : Char → Bool) (cs : List Char) : Bool :=
  match pieces ':' cs with
  | (c :: whole) :: part :: parts =>
    first c && whole.all isDigitOrBar && (part :: parts).all isSixtieth
  | _ => false

def isNonzeroDigit (c : Char) : Bool := '1' ≤ c && c ≤ '9'

def isIntegerForm (cs : List Char) : Bool :=
  let magnitude := dropSign cs
  (match magnitude with
    | '0' :: 'b' :: c :: rest => (c :: rest).all fun d => d == '0' || d == '1' || d == '_'
    | '0' :: 'x' :: c :: rest => (c :: rest).all fun d => isDigitOf 16 d || d == '_'
    | '0' :: rest => rest.all fun d => isDigitOf 8 d || d == '_'
    | c :: rest => isNonzeroDigit c && rest.all isDigitOrBar
    | [] => false) || isSexagesimal isNonzeroDigit magnitude

/-- Nothing, or an exponent with a sign. -/
def isSignedExponent : List Char → Bool
  | [] => true
  | e :: sign :: d :: rest =>
    (e == 'e' || e == 'E') && (sign == '-' || sign == '+') && (d :: rest).all Char.isDigit
  | _ => false

def isFloatForm (cs : List Char) : Bool :=
  let magnitude := dropSign cs
  let whole := magnitude.takeWhile isDigitOrBar
  let pointed := match magnitude.dropWhile isDigitOrBar with
    | '.' :: rest => isSignedExponent (rest.dropWhile isDigitOrBar)
    | _ => false
  let wholeForm := match whole with
    | c :: _ => c.isDigit && pointed
    | [] => false
  let fractionForm := match cs with
    | '.' :: d :: rest => d.isDigit && isSignedExponent (rest.dropWhile isDigitOrBar)
    | _ => false
  let sexagesimal := match magnitude.span (· != '.') with
    | (front, '.' :: rest) => isSexagesimal Char.isDigit front && rest.all isDigitOrBar
    | _ => false
  wholeForm || fractionForm || sexagesimal ||
    infinityWords.contains (String.ofList magnitude) ||
    notANumberWords.contains (String.ofList cs)

def dropDigits? : Nat → List Char → Option (List Char)
  | 0, cs => some cs
  | n + 1, c :: cs => if c.isDigit then dropDigits? n cs else none
  | _ + 1, [] => none

def dropShort? (cs : List Char) : Option (List Char) :=
  match cs with
  | a :: b :: rest =>
    if a.isDigit then some (if b.isDigit then rest else b :: rest) else none
  | [a] => if a.isDigit then some [] else none
  | [] => none

def dropChar? (c : Char) : List Char → Option (List Char)
  | d :: rest => if c == d then some rest else none
  | [] => none

def isTabOrSpace (c : Char) : Bool := c == ' ' || c == '\t'

/-- What may follow the seconds: a time zone, with blanks before it. -/
def isZone (cs : List Char) : Bool :=
  match cs.dropWhile isTabOrSpace with
  | [] => cs.isEmpty
  | ['Z'] => true
  | sign :: rest =>
    (sign == '-' || sign == '+') &&
      match dropShort? rest with
      | some [] => true
      | some (':' :: more) => dropDigits? 2 more == some []
      | _ => false

/-- A day, or a day and a time. -/
def isTimestampForm (cs : List Char) : Bool :=
  let day := do
    let cs ← dropDigits? 4 cs
    let cs ← dropChar? '-' cs
    let cs ← dropDigits? 2 cs
    let cs ← dropChar? '-' cs
    dropDigits? 2 cs
  let time := do
    let cs ← dropDigits? 4 cs
    let cs ← dropChar? '-' cs
    let cs ← dropShort? cs
    let cs ← dropChar? '-' cs
    let cs ← dropShort? cs
    let cs ← match cs with
      | c :: rest =>
        if c == 'T' || c == 't' then some rest
        else if isTabOrSpace c then some (rest.dropWhile isTabOrSpace)
        else none
      | [] => none
    let cs ← dropShort? cs
    let cs ← dropChar? ':' cs
    let cs ← dropDigits? 2 cs
    let cs ← dropChar? ':' cs
    let cs ← dropDigits? 2 cs
    return match cs with
      | '.' :: rest => isZone (rest.dropWhile Char.isDigit)
      | _ => isZone cs
  day == some [] || time == some true

def readsAsText (cs : List Char) : Bool :=
  let s := String.ofList cs
  !(truthWords.contains s || nullWords.contains s || markWords.contains s || isIntegerForm cs ||
    isFloatForm cs || isTimestampForm cs)

end PoolLint.Yaml
