import PoolLint.Legality.Depth
import PoolLint.Legality.Encoding
import PoolLint.Legality.Flow
import PoolLint.Legality.Margin
import PoolLint.Legality.Names
import PoolLint.Legality.Words
import PoolLint.Syntax.Tree
import PoolLint.Text.Pieces

/-! Whether a source that has a tree also keeps the other rules of the language. The rules are
checked in groups, and the first violation of the first group that has one is told: words and
margins, phrases, the head of the file, names, and surroundings. -/
namespace PoolLint.Legality
open PoolLint.Syntax

inductive Verdict where
  | legal
  | illegal (fault : Violation)
  | tooDeep
  deriving DecidableEq, Repr

/-- The text with every line end written in one way, behind what was read of it, last first. -/
def unifyFrom (done : List Char) : List Char → List Char
  | [] => done.reverse
  | '\r' :: '\n' :: cs => unifyFrom ('\n' :: done) cs
  | '\r' :: cs => unifyFrom ('\n' :: done) cs
  | c :: cs => unifyFrom (c :: done) cs

def unifyLineEnds (cs : List Char) : List Char := unifyFrom [] cs

def startsMarked : List Char → Bool
  | c :: _ => c == '\ufeff'
  | [] => false

def placeOf (t : Token) : Violation := Violation.ofSpan t.span

def layoutFault? (tokens : List Token) (root : Node) : Option Violation :=
  (wordFault? [0] tokens).map placeOf
    |>.orElse fun _ => (Margin.fault? .start tokens).map placeOf
    |>.orElse fun _ => (Margin.breakFault? 0 (Margin.lineStarts root) tokens).map placeOf

/-- The verdict on a text in its final form. -/
def judge (isMarked : Bool) (cs : List Char) (tokens : List Token) (root : Node) : Verdict :=
  let lines := Text.pieces '\n' cs
  if !Encoding.areLinesLegal isMarked lines tokens then .illegal .untold
  else match layoutFault? tokens root with
    | some fault => .illegal fault
    | none =>
      match (phraseFaults lines false root).head? with
      | some fault => .illegal fault
      | none =>
        let head := Future.headOf root
        match head.fault with
        | some fault => .illegal fault
        | none =>
          if isTooDeep root then .tooDeep
          else match (Names.faultOf root).orElse fun _ => Flow.faultOf head root with
            | some fault => .illegal fault
            | none => .legal

/-- The verdict on a source. A byte order mark is taken off, and every line end counts, before the
rules are applied. -/
def check (cs : List Char) : Verdict :=
  let isMarked := startsMarked cs
  let text := unifyLineEnds (if isMarked then cs.tail else cs)
  match Token.read? text with
  | none => .illegal .untold
  | some tokens =>
    match Node.ofTokens? tokens with
    | none => .illegal .untold
    | some root => judge isMarked text tokens root

end PoolLint.Legality
