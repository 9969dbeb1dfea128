import PoolLint.Legality.Violation
import PoolLint.Syntax.Token

/-! Rules for the margins of lines. A line is indented further exactly if the line before it ends in
a colon; a line that is indented less goes back to the margin of a line before it. Two ways to count
tabs have to agree on all this. -/
namespace PoolLint.Legality
open PoolLint.Syntax

/-- The width of a margin with tabs to multiples of eight, and with tabs as wide as a blank. -/
structure Margin where
  wide : Nat
  narrow : Nat
  deriving DecidableEq, Repr, Inhabited

namespace Margin

def zero : Margin := ⟨0, 0⟩

/-- What is known of the margin of a line while its blanks are read: the margin so far, and the one
in front of the first line continuation. -/
structure Count where
  margin : Margin
  held : Nat
  continued : Bool
  inComment : Bool

def Count.add (count : Count) (c : Char) : Count :=
  let m := count.margin
  if c == '\n' then
    if count.continued then { count with continued := false } else ⟨zero, 0, false, false⟩
  else if count.inComment then count
  else if c == '#' then { count with inComment := true }
  else if c == '\\' then
    { count with held := if count.held == 0 then m.wide else count.held, continued := true }
  else if c == '\t' then { count with margin := ⟨(m.wide / 8 + 1) * 8, m.narrow + 1⟩ }
  else if c == '\x0c' then { count with margin := zero }
  else { count with margin := ⟨m.wide + 1, m.narrow + 1⟩ }

def ofLayout (cs : List Char) : Margin :=
  let count := cs.foldl Count.add ⟨zero, 0, false, false⟩
  if count.held == 0 then count.margin else ⟨count.held, count.held⟩

/-- How many margins inside each other a text may have. -/
def maxDepth : Nat := 100

/-- The margins around a line, given those around the line before it, innermost first. `opens` tells
that the line before it ends in a colon. -/
def next? (opens : Bool) (m : Margin) : List Margin → Option (List Margin)
  | [] => none
  | top :: rest =>
    if opens then
      if top.wide < m.wide && top.narrow < m.narrow && rest.length + 1 < maxDepth then
        some (m :: top :: rest)
      else none
    else if top.wide < m.wide then none
    else back (top :: rest)
where
  back : List Margin → Option (List Margin)
    | [] => none
    | top :: rest =>
      if m.wide < top.wide then back rest
      else if m == top then some (top :: rest)
      else none

/-- What is known at a token: the margins around it, how many brackets are open, and whether the
token before it is a colon. -/
structure State where
  margins : List Margin
  depth : Nat
  opens : Bool
  isFirst : Bool

def State.start : State := ⟨[zero], 0, false, true⟩

def depthAfter (t : Token) (depth : Nat) : Nat :=
  match t.kind with
  | .stringStart => depth + 1
  | .stringEnd => depth - 1
  | .mark =>
    if t.text == "(" || t.text == "[" || t.text == "\x7b" then depth + 1
    else if t.text == ")" || t.text == "]" || t.text == "\x7d" then depth - 1
    else depth
  | _ => depth

def startsLine (s : State) (t : Token) : Bool := s.depth == 0 && (t.endsLine || s.isFirst)

/-- The state behind a token, if its line has a proper margin. -/
def State.after? (s : State) (t : Token) : Option State :=
  let margins? :=
    if startsLine s t then
      if t.kind == .finish then (if s.opens then none else some s.margins)
      else next? s.opens (ofLayout t.layout.toList) s.margins
    else some s.margins
  margins?.map fun margins =>
    ⟨margins, depthAfter t s.depth, s.depth == 0 && t.isMark ":", false⟩

/-- The first token of a line with a wrong margin. -/
def fault? (s : State) : List Token → Option Token
  | [] => none
  | t :: rest =>
    match s.after? t with
    | none => some t
    | some s => fault? s rest

def startsLineOfCode : Kind → Bool
  | .expressionStatement | .returnStatement | .deleteStatement | .raiseStatement
  | .passStatement | .breakStatement | .continueStatement | .globalStatement
  | .nonlocalStatement | .importStatement | .importFromStatement | .futureImportStatement
  | .assertStatement | .printStatement | .execStatement | .typeAliasStatement
  | .decoratedDefinition | .decorator | .functionDefinition | .classDefinition | .ifStatement
  | .elifClause | .elseClause | .forStatement | .whileStatement | .tryStatement | .exceptClause
  | .finallyClause | .withStatement | .matchStatement | .caseClause => true
  | _ => false

/-- Where the lines of code of a tree start, in bytes. -/
def lineStarts (root : Node) : List Nat :=
  ((Node.walk (fun _ => true) root).filter (startsLineOfCode ·.kind)).map (·.span.start.byte)

/-- The first token behind a line end that is neither in brackets nor the start of a statement. -/
def breakFault? (depth : Nat) : List Nat → List Token → Option Token
  | _, [] => none
  | starts, t :: rest =>
    let starts := starts.dropWhile (· < t.span.start.byte)
    if depth == 0 && t.endsLine && t.kind != .finish &&
        starts.head? != some t.span.start.byte then some t
    else breakFault? (depthAfter t depth) starts rest

end Margin
end PoolLint.Legality
