import PoolLint.Json.Basic
import PoolLint.Text.Digit

/-! Reading JSON text. Every reader takes the characters that remain and gives back what it has not
used. The depth of a document is bounded by its length, and that bound is what the readers count
down. -/
namespace PoolLint.Json
open PoolLint.Text

def isSpace (c : Char) : Bool := c == ' ' || c == '\n' || c == '\r' || c == '\t'

def skipSpaces (cs : List Char) : List Char := cs.dropWhile isSpace

def fourDigits? : List Char → Option (Nat × List Char)
  | a :: b :: c :: d :: rest =>
    if [a, b, c, d].all (isDigitOf 16) then some (digitsValue 16 [a, b, c, d], rest) else none
  | _ => none

/-- A code unit escape, with the second half of a pair where the first one asks for it. -/
def codeUnits? (cs : List Char) : Option (Char × List Char) := do
  let (high, rest) ← fourDigits? cs
  if high < 0xD800 || 0xE000 ≤ high then some (Char.ofNat high, rest)
  else if 0xDC00 ≤ high then none
  else match rest with
    | '\\' :: 'u' :: rest =>
      let (low, rest) ← fourDigits? rest
      if 0xDC00 ≤ low && low < 0xE000 then
        some (Char.ofNat (0x10000 + (high - 0xD800) * 0x400 + (low - 0xDC00)), rest)
      else none
    | _ => none

def escapeLetter? (c : Char) : Option Char :=
  if c == '"' || c == '\\' || c == '/' then some c
  else if c == 'b' then some (Char.ofNat 8)
  else if c == 'f' then some (Char.ofNat 12)
  else if c == 'n' then some '\n'
  else if c == 'r' then some '\r'
  else if c == 't' then some '\t'
  else none

def parseString : Nat → List Char → List Char → Option (String × List Char)
  | 0, _, _ => none
  | _ + 1, _, [] => none
  | fuel + 1, acc, c :: cs =>
    if c == '"' then some (String.ofList acc.reverse, cs)
    else if c == '\\' then
      match cs with
      | [] => none
      | 'u' :: rest =>
        match codeUnits? rest with
        | some (d, rest) => parseString fuel (d :: acc) rest
        | none => none
      | d :: rest =>
        match escapeLetter? d with
        | some e => parseString fuel (e :: acc) rest
        | none => none
    else if c.toNat < 32 then none
    else parseString fuel (c :: acc) cs

def takeDigits (cs : List Char) : List Char × List Char :=
  (cs.takeWhile Char.isDigit, cs.dropWhile Char.isDigit)

def parseExponent? : List Char → Option (Option Int × List Char)
  | c :: cs =>
    if c == 'e' || c == 'E' then
      let (negative, cs) : Bool × List Char := match cs with
        | '-' :: rest => (true, rest)
        | '+' :: rest => (false, rest)
        | _ => (false, cs)
      match takeDigits cs with
      | ([], _) => none
      | (digits, rest) =>
        let n : Int := digitsValue 10 digits
        some (some (if negative then -n else n), rest)
    else some (none, c :: cs)
  | [] => some (none, [])

def parseNumber? (negative : Bool) (cs : List Char) : Option (Json × List Char) := do
  let (whole, rest) := takeDigits cs
  if whole.isEmpty || (whole.head? == some '0' && 1 < whole.length) then none
  else
    let (fraction, rest) ← match rest with
      | '.' :: more =>
        match takeDigits more with
        | ([], _) => none
        | (digits, rest) => some (some digits, rest)
      | _ => some ((none : Option (List Char)), rest)
    let (exponent, rest) ← parseExponent? rest
    match fraction, exponent with
    | none, none =>
      let n : Int := digitsValue 10 whole
      some (.integer (if negative then -n else n), rest)
    | _, _ =>
      let digits := fraction.getD []
      some (.decimal negative (digitsValue 10 (whole ++ digits))
        (exponent.getD 0 - digits.length), rest)

def parseWord? (word : List Char) (j : Json) (cs : List Char) : Option (Json × List Char) :=
  if word.isPrefixOf cs then some (j, cs.drop word.length) else none

mutual

def parseValue : Nat → List Char → Option (Json × List Char)
  | 0, _ => none
  | fuel + 1, cs =>
    match skipSpaces cs with
    | [] => none
    | '"' :: rest => (parseString (rest.length + 1) [] rest).map fun (s, rest) => (.string s, rest)
    | '[' :: rest =>
      match skipSpaces rest with
      | ']' :: rest => some (.array [], rest)
      | rest => (parseElements fuel rest).map fun (xs, rest) => (.array xs, rest)
    | '\x7b' :: rest =>
      match skipSpaces rest with
      | '\x7d' :: rest => some (.object [], rest)
      | rest => (parseMembers fuel rest).map fun (ms, rest) => (.object ms, rest)
    | '-' :: rest => parseNumber? true rest
    | c :: rest =>
      if c.isDigit then parseNumber? false (c :: rest)
      else if c == 't' then parseWord? "true".toList (.boolean true) (c :: rest)
      else if c == 'f' then parseWord? "false".toList (.boolean false) (c :: rest)
      else parseWord? "null".toList .null (c :: rest)

def parseElements : Nat → List Char → Option (List Json × List Char)
  | 0, _ => none
  | fuel + 1, cs =>
    match parseValue fuel cs with
    | none => none
    | some (x, rest) =>
      match skipSpaces rest with
      | ']' :: rest => some ([x], rest)
      | ',' :: rest => (parseElements fuel rest).map fun (xs, rest) => (x :: xs, rest)
      | _ => none

def parseMembers : Nat → List Char → Option (List (String × Json) × List Char)
  | 0, _ => none
  | fuel + 1, cs =>
    match skipSpaces cs with
    | '"' :: rest =>
      match parseString (rest.length + 1) [] rest with
      | none => none
      | some (name, rest) =>
        match skipSpaces rest with
        | ':' :: rest =>
          match parseValue fuel rest with
          | none => none
          | some (x, rest) =>
            match skipSpaces rest with
            | '\x7d' :: rest => some ([(name, x)], rest)
            | ',' :: rest =>
              (parseMembers fuel rest).map fun (ms, rest) => ((name, x) :: ms, rest)
            | _ => none
        | _ => none
    | _ => none

end

/-- The document that a text holds, with nothing but spaces around it. -/
def parse? (s : String) : Option Json :=
  let cs := s.toList
  match parseValue (cs.length + 1) cs with
  | some (j, rest) => if (skipSpaces rest).isEmpty then some j else none
  | none => none

end PoolLint.Json
