import PoolLint.Syntax.Token.Layout
import PoolLint.Syntax.Token.Number
import PoolLint.Syntax.Token.Quote
import PoolLint.Text.Identifier

/-! A text as a list of tokens. Brackets have to match. A quoted text with fields turns into its
content, and for each field a pair of braces around the tokens of the field. -/
namespace PoolLint.Syntax.Token

/-- What the reader has seen of the expression of a field: nothing that counts, a name that could
be assigned to, or more. -/
inductive FieldPlace where
  | start
  | name
  | inside
  deriving DecidableEq, Repr

/-- What is open around the place of the reader. -/
inductive Frame where
  | bracket (close : Char)
  | quote (q : Quote)
  | field (lambdas : Nat) (place : FieldPlace)
  | spec
  deriving Repr

/-- The state of the reader: its place, what is open there, the tokens behind it with the last one
first, and a bound on the characters in front of it. -/
structure Reader where
  cursor : Cursor
  frames : List Frame
  done : List Token
  bound : Nat

namespace Reader

def marks : List (List Char) :=
  ["**=", "//=", ">>=", "<<=", "...", "**", "//", ">>", "<<", "==", "!=", "<=", ">=", "<>", "->",
   ":=", "+=", "-=", "*=", "/=", "%=", "@=", "&=", "|=", "^=", "+", "-", "*", "/", "%", "@", "&",
   "|", "^", "~", "<", ">", "=", ".", ",", ":", ";", "(", ")", "[", "]", "\x7b", "\x7d"].map
    String.toList

def markLength? (cs : List Char) : Option Nat :=
  (marks.find? fun m => m.isPrefixOf cs).map List.length

def closing? : Char → Option Char
  | '(' => some ')'
  | '[' => some ']'
  | '\x7b' => some '\x7d'
  | _ => none

def isClosing (c : Char) : Bool := c == ')' || c == ']' || c == '\x7d'

/-- The frames behind a mark; a closing bracket has to close the innermost frame. -/
def framesAfter? (mark : List Char) (frames : List Frame) : Option (List Frame) :=
  match mark with
  | [c] =>
    match closing? c with
    | some close => some (.bracket close :: frames)
    | none =>
      if isClosing c then
        match frames with
        | .bracket close :: rest => if c == close then some rest else none
        | .field _ _ :: rest => if c == '\x7d' then some rest else none
        | _ => none
      else match frames with
        | .field lambdas _ :: rest =>
          if c == ':' then
            if lambdas == 0 then some (.spec :: frames)
            else some (.field (lambdas - 1) .inside :: rest)
          else some (.field lambdas (if c == ',' then .start else .inside) :: rest)
        | _ => some frames
  | _ =>
    match frames with
    | .field lambdas _ :: rest => some (.field lambdas .inside :: rest)
    | _ => some frames

def framesAfterWord (word : List Char) (frames : List Frame) : List Frame :=
  match frames with
  | .field lambdas place :: rest =>
    .field (if word == "lambda".toList then lambdas + 1 else lambdas)
      (if place == .start then .name else .inside) :: rest
  | _ => frames

def framesAfterValue (frames : List Frame) : List Frame :=
  match frames with
  | .field lambdas _ :: rest => .field lambdas .inside :: rest
  | _ => frames

/-- In a field a colon in front of an equals sign starts a format, unless a name stands before. -/
def markLengthIn? (frames : List Frame) (cs : List Char) : Option Nat :=
  match frames with
  | .field _ place :: _ =>
    if place != .name && cs.take 2 == [':', '='] then some 1 else markLength? cs
  | _ => markLength? cs

/-- The length of a conversion, which only a field can hold. -/
def conversionLength? (frames : List Frame) (cs : List Char) : Option Nat :=
  match frames, cs with
  | .field _ _ :: _, '!' :: c :: _ => if 'a' ≤ c && c ≤ 'z' then some 2 else none
  | _, _ => none

def withoutContinuations (extras : List Node) : List Node :=
  (extras.reverse.dropWhile (·.kind == .lineContinuation)).reverse

/-- The token behind a layout, and the frames behind it. A line continuation right before a quote
leaves no trace. -/
def tokenAfter? (l : Layout) (cursor : Cursor) (frames : List Frame) :
    Option (Token × List Frame) :=
  match cursor.rest with
  | [] => none
  | c :: _ =>
    match Quote.start? cursor.rest with
    | some (q, length) =>
      let token := l.token .stringStart cursor length
      some ({ token with extras := withoutContinuations token.extras },
        .quote q :: framesAfterValue frames)
    | none =>
      match Number.read? cursor.rest with
      | some (kind, length) => some (l.token kind cursor length, framesAfterValue frames)
      | none =>
        if Text.isIdentifierStart c then
          let word := cursor.rest.takeWhile Text.isIdentifierContinue
          some (l.token .word cursor word.length, framesAfterWord word frames)
        else match conversionLength? frames cursor.rest with
          | some length => some (l.token .conversion cursor length, frames)
          | none =>
            match markLengthIn? frames cursor.rest with
            | none => none
            | some length =>
              match framesAfter? (cursor.rest.take length) frames with
              | none => none
              | some frames => some (l.token .mark cursor length, frames)

def bareToken (kind : Token.Kind) (cursor : Cursor) (length : Nat) : Token :=
  Layout.empty.token kind cursor length

/-- The tokens of a stretch of content, and what follows: a field or the closing quote. -/
def quoteTokens (q : Quote) (cursor : Cursor) (length : Nat) (ending : Quote.Ending) :
    List Token × Cursor :=
  let behind := cursor.skip length
  let content := if length == 0 then [] else [bareToken .stringContent cursor length]
  match ending with
  | .field => (content ++ [bareToken .mark behind 1], behind.skip 1)
  | .quote =>
    (content ++ [bareToken .stringEnd behind q.closingLength], behind.skip q.closingLength)

def step? (r : Reader) : Option (List Token × Reader) :=
  match r.frames with
  | .quote q :: outer =>
    match q.content false false 0 r.cursor.rest with
    | none => none
    | some (length, ending) =>
      let (tokens, cursor) := quoteTokens q r.cursor length ending
      some (tokens, { r with
        cursor := cursor,
        frames := if ending == .field then .field 0 .start :: r.frames else outer })
  | .spec :: outer =>
    match r.cursor.rest with
    | [] => none
    | c :: _ =>
      if c == '\x7b' then
        some ([bareToken .mark r.cursor 1],
          { r with cursor := r.cursor.skip 1, frames := .field 0 .start :: r.frames })
      else if c == '\x7d' then
        some ([bareToken .mark r.cursor 1],
          { r with cursor := r.cursor.skip 1, frames := outer.tail })
      else
        let length := (r.cursor.rest.takeWhile fun c => !(c == '\x7b' || c == '\x7d')).length
        some ([bareToken .specText r.cursor length], { r with cursor := r.cursor.skip length })
  | frames =>
    match Layout.read r.bound r.cursor with
    | none => none
    | some (l, cursor) =>
      match cursor.rest with
      | [] =>
        if frames.isEmpty then
          let finish := { l.token .finish cursor 0 with endsLine := true, indent := 0 }
          some ([finish], { r with cursor := cursor })
        else none
      | _ =>
        match tokenAfter? l cursor frames with
        | none => none
        | some (token, frames) =>
          some ([token], { r with
            cursor := cursor.skip token.text.length, frames := frames })

/-- Reads on until the end of the text; each round takes a character. -/
def run : Nat → Reader → Option (List Token)
  | 0, _ => none
  | fuel + 1, r =>
    match step? r with
    | none => none
    | some (tokens, next) =>
      let done := tokens.reverse ++ r.done
      if tokens.any (·.kind == .finish) then some done.reverse
      else run fuel { next with done := done }

end Reader

/-- The tokens of a text, the last of them the end of it. -/
def read? (cs : List Char) : Option (List Token) :=
  if cs.contains '\x00' then none
  else Reader.run (cs.length + 2) ⟨Cursor.ofText cs, [], [], cs.length⟩

end PoolLint.Syntax.Token
