import PoolLint.Json.Basic
import PoolLint.Text.Digit

/-! JSON documents as text. Only quotes, backslashes and control characters are escaped. With an
indentation every element stands on a line of its own; without one all stand on one line. -/
namespace PoolLint.Json
open PoolLint.Text

def escapedChar (c : Char) : List Char :=
  if c == '"' then ['\\', '"']
  else if c == '\\' then ['\\', '\\']
  else if c == '\n' then ['\\', 'n']
  else if c == '\r' then ['\\', 'r']
  else if c == '\t' then ['\\', 't']
  else if c.toNat == 8 then ['\\', 'b']
  else if c.toNat == 12 then ['\\', 'f']
  else if c.toNat < 32 then '\\' :: 'u' :: (hexPadded 4 c.toNat).toList
  else [c]

def printString (s : String) : List Char :=
  '"' :: s.toList.flatMap escapedChar ++ ['"']

structure Layout where
  indent : Option Int

namespace Layout

/-- The start of a line at a depth, or nothing when there are no lines. -/
def newline (l : Layout) (depth : Nat) : List Char :=
  match l.indent with
  | none => []
  | some n => '\n' :: List.replicate (n.toNat * depth) ' '

def separator (l : Layout) (depth : Nat) : List Char :=
  match l.indent with
  | none => [',', ' ']
  | some _ => ',' :: l.newline depth

end Layout

def printInteger (n : Int) : List Char := (toString n).toList

def printDecimal (negative : Bool) (digits : Nat) (scale : Int) : List Char :=
  (if negative then ['-'] else []) ++ (toString digits).toList ++ 'e' :: printInteger scale

mutual

def print (l : Layout) (depth : Nat) : Json → List Char
  | .null => "null".toList
  | .boolean true => "true".toList
  | .boolean false => "false".toList
  | .integer n => printInteger n
  | .decimal negative digits scale => printDecimal negative digits scale
  | .string s => printString s
  | .array [] => ['[', ']']
  | .array (x :: xs) =>
    '[' :: l.newline (depth + 1) ++ print l (depth + 1) x ++ printRest l (depth + 1) xs ++
      l.newline depth ++ [']']
  | .object [] => ['\x7b', '\x7d']
  | .object (m :: ms) =>
    '\x7b' :: l.newline (depth + 1) ++ printMember l (depth + 1) m ++
      printMembers l (depth + 1) ms ++ l.newline depth ++ ['\x7d']

def printRest (l : Layout) (depth : Nat) : List Json → List Char
  | [] => []
  | x :: xs => l.separator depth ++ print l depth x ++ printRest l depth xs

def printMember (l : Layout) (depth : Nat) : String × Json → List Char
  | (name, x) => printString name ++ ':' :: ' ' :: print l depth x

def printMembers (l : Layout) (depth : Nat) : List (String × Json) → List Char
  | [] => []
  | m :: ms => l.separator depth ++ printMember l depth m ++ printMembers l depth ms

end

def render (indent : Option Int) (j : Json) : String := String.ofList (print ⟨indent⟩ 0 j)

end PoolLint.Json
