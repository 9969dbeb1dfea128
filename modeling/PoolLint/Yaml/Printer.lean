import PoolLint.Yaml.Scalar

/-! Writing scalars. A line may be broken where it has grown past the width: at a single space of a
plain or single quoted scalar, and anywhere in a double quoted one, where a backslash ends the
line. -/
namespace PoolLint.Yaml

/-- The column past which lines are broken. -/
def width : Nat := 4096

/-- What has been written, last character first, and the column reached. -/
structure Pen where
  written : List Char
  column : Nat

namespace Pen

def put (p : Pen) (cs : List Char) : Pen := ⟨cs.reverse ++ p.written, p.column + cs.length⟩

def breakWith (p : Pen) (c : Char) : Pen := ⟨c :: p.written, 0⟩

def indentTo (p : Pen) (indent : Nat) : Pen := p.put (List.replicate (indent - p.column) ' ')

def newLine (p : Pen) (indent : Nat) : Pen := (p.breakWith '\n').indentTo indent

end Pen

/-- The runs of a text: words, runs of spaces, and runs of line breaks. -/
inductive Run where
  | word (cs : List Char)
  | spaces (count : Nat)
  | breaks (cs : List Char)

def Run.cons (c : Char) : List Run → List Run
  | .word cs :: rest =>
    if c == ' ' then .spaces 1 :: .word cs :: rest
    else if isBreak c then .breaks [c] :: .word cs :: rest
    else .word (c :: cs) :: rest
  | .spaces n :: rest =>
    if c == ' ' then .spaces (n + 1) :: rest
    else if isBreak c then .breaks [c] :: .spaces n :: rest
    else .word [c] :: .spaces n :: rest
  | .breaks cs :: rest =>
    if c == ' ' then .spaces 1 :: .breaks cs :: rest
    else if isBreak c then .breaks (c :: cs) :: rest
    else .word [c] :: .breaks cs :: rest
  | [] =>
    if c == ' ' then [.spaces 1] else if isBreak c then [.breaks [c]] else [.word [c]]

def runs (cs : List Char) : List Run := cs.foldr Run.cons []

/-- Line breaks inside a quoted scalar: a line feed in front is doubled, then the line is indented
again. -/
def putBreaks (indent : Nat) (p : Pen) (cs : List Char) : Pen :=
  let p := if cs.head? == some '\n' then p.breakWith '\n' else p
  (cs.foldl Pen.breakWith p).indentTo indent

/-- Writes the runs of a plain or single quoted scalar; `isFirst` says that none came before. -/
def putRuns (indent : Nat) (quoteWord : List Char → List Char) : Bool → Pen → List Run → Pen
  | _, p, [] => p
  | _, p, .word cs :: rest => putRuns indent quoteWord false (p.put (quoteWord cs)) rest
  | isFirst, p, .spaces n :: rest =>
    if n == 1 && width < p.column && !isFirst && !rest.isEmpty then
      putRuns indent quoteWord false (p.newLine indent) rest
    else putRuns indent quoteWord false (p.put (List.replicate n ' ')) rest
  | _, p, .breaks cs :: rest => putRuns indent quoteWord false (putBreaks indent p cs) rest

def doubleQuotes (cs : List Char) : List Char :=
  cs.flatMap fun c => if c == '\'' then ['\'', '\''] else [c]

/-- Writes the body of a double quoted scalar. `pending` holds the characters since the last escape,
last one first; `index` counts the characters before the text that remains and `last` is the index
of the last character. -/
def putDouble (indent last : Nat) : Nat → List Char → Pen → List Char → Pen
  | _, pending, p, [] => p.put pending.reverse
  | index, pending, p, c :: cs =>
    let escaped := isEscaped c
    let p := if escaped then (p.put pending.reverse).put (escape c) else p
    let held := if escaped then [] else pending
    let isFull := if escaped then width + 1 < p.column else width < p.column + pending.length
    if 0 < index && index < last && (c == ' ' || escaped || pending.isEmpty) && isFull then
      let p := (p.put (held.reverse ++ ['\\'])).newLine indent
      let next := if escaped then cs.head? else some c
      let p := if next == some ' ' then p.put ['\\'] else p
      putDouble indent last (index + 1) (if escaped then [] else [c]) p cs
    else putDouble indent last (index + 1) (if escaped then [] else c :: held) p cs

/-- Writes a scalar as a value whose further lines are indented as given. -/
def putScalar (indent : Nat) (p : Pen) (cs : List Char) : Pen :=
  match style cs with
  | .plain => putRuns indent id true p (runs cs)
  | .single => (putRuns indent doubleQuotes true (p.put ['\'']) (runs cs)).put ['\'']
  | .double => (putDouble indent (cs.length - 1) 0 [] (p.put ['"']) cs).put ['"']

def scalar (column indent : Nat) (s : String) : List Char :=
  (putScalar indent ⟨[], column⟩ s.toList).written.reverse

end PoolLint.Yaml
