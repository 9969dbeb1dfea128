import PoolLint.Syntax.Token

/-! What stands between two words: blanks, line ends, comments and line continuations. The indent of
a line counts its spaces, and eight for each tab; a comment or an empty line has none. -/
namespace PoolLint.Syntax

/-- What remains of a text, and where it starts. -/
structure Cursor where
  position : Position
  rest : List Char
  deriving Repr

namespace Cursor

def ofText (cs : List Char) : Cursor := ⟨Position.start, cs⟩

def skip (c : Cursor) (n : Nat) : Cursor :=
  ⟨c.position.afterAll (c.rest.take n), c.rest.drop n⟩

end Cursor

namespace Token

/-- What has been read of a layout. `chars` is the text of it and `extras` holds the comments and
line continuations, both with the last first. -/
structure Layout where
  chars : List Char
  extras : List Node
  endsLine : Bool
  indent : Nat
  closed : Bool

namespace Layout

def empty : Layout := ⟨[], [], false, 0, false⟩

/-- Blanks that part words but take no part in the shape of lines. Behind one of them, line ends and
indents no longer count until the next word. -/
def isPlainBlank (c : Char) : Bool :=
  let n := c.toNat
  n == 0x0B || n == 0x85 || n == 0xA0 || n == 0x1680 || (0x2000 ≤ n && n ≤ 0x200B) ||
    n == 0x2028 || n == 0x2029 || n == 0x202F || n == 0x205F || n == 0x2060 || n == 0x3000 ||
    n == 0xFEFF

def add (l : Layout) (c : Char) : Layout :=
  let l := { l with chars := c :: l.chars }
  if l.closed then l
  else if c == '\n' then { l with endsLine := true, indent := 0 }
  else if c == ' ' then { l with indent := l.indent + 1 }
  else if c == '\t' then { l with indent := l.indent + 8 }
  else if c == '\r' || c == '\x0c' then { l with indent := 0 }
  else { l with closed := true }

def isBlank (c : Char) : Bool :=
  c == '\n' || c == ' ' || c == '\t' || c == '\r' || c == '\x0c' || isPlainBlank c

def addExtra (l : Layout) (kind : Syntax.Kind) (cursor : Cursor) (length : Nat) : Layout :=
  let cs := cursor.rest.take length
  let span := ⟨cursor.position, (cursor.skip length).position⟩
  { l with chars := cs.reverse ++ l.chars,
           extras := .mk kind .plain (String.ofList cs) span [] :: l.extras }

/-- The length of the line continuation a text starts with. The last line may end in one. -/
def continuation? : List Char → Option Nat
  | ['\\'] => some 1
  | '\\' :: '\n' :: _ => some 2
  | ['\\', '\r'] => some 2
  | '\\' :: '\r' :: '\n' :: _ => some 3
  | _ => none

/-- Reads a layout; each round takes at least one character. -/
def readFrom : Nat → Layout → Cursor → Option (Layout × Cursor)
  | 0, l, cursor => some (l, cursor)
  | fuel + 1, l, cursor =>
    match cursor.rest with
    | [] => some (l, cursor)
    | c :: cs =>
      if isBlank c then readFrom fuel (l.add c) ⟨cursor.position.after c, cs⟩
      else if c == '#' then
        let length := (cursor.rest.takeWhile (· != '\n')).length
        readFrom fuel (l.addExtra .comment cursor length) (cursor.skip length)
      else if c == '\\' then
        match continuation? cursor.rest with
        | none => none
        | some length =>
          readFrom fuel (l.addExtra .lineContinuation cursor length) (cursor.skip length)
      else some (l, cursor)

/-- The layout a text starts with; the bound is no less than the number of its characters. -/
def read (bound : Nat) (cursor : Cursor) : Option (Layout × Cursor) :=
  readFrom (bound + 1) empty cursor

def token (l : Layout) (kind : Token.Kind) (cursor : Cursor) (length : Nat) : Token where
  kind := kind
  text := String.ofList (cursor.rest.take length)
  layout := String.ofList l.chars.reverse
  extras := l.extras.reverse
  endsLine := l.endsLine
  indent := l.indent
  span := ⟨cursor.position, (cursor.skip length).position⟩

end Layout
end Token
end PoolLint.Syntax
