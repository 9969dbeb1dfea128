import PoolLint.Syntax.Node
import PoolLint.Text.CharacterName
import PoolLint.Text.Digit

/-! Rules for texts in quotes: the letters in front of them, the escapes in them, and what may stand
in their fields. -/
namespace PoolLint.Legality.Quoted
open PoolLint.Syntax

/-- The letters that may stand in front of a quote, in any case; each row in any order. -/
def legalLetters : List String := ["", "r", "u", "b", "f", "br", "rb", "fr", "rf"]

structure Style where
  letters : List Char
  mark : Char
  isTriple : Bool

namespace Style

def ofOpening (opening : List Char) : Style :=
  let letters := (opening.takeWhile Char.isAlpha).map Char.toLower
  let marks := opening.dropWhile Char.isAlpha
  ⟨letters, marks.headD '"', marks.length == 3⟩

def isRaw (s : Style) : Bool := s.letters.contains 'r'

def isBytes (s : Style) : Bool := s.letters.contains 'b'

def closing (s : Style) : List Char := List.replicate (if s.isTriple then 3 else 1) s.mark

end Style

def styleOf (n : Node) : Style :=
  match n.children with
  | opening :: _ => Style.ofOpening opening.text.toList
  | [] => Style.ofOpening []

/-- Whether the closing quote stands at the end alone, and lines end only where they may: the fields
of a text count as part of it. -/
def closesAtEnd (s : Style) : List Char → Bool
  | [] => false
  | '\\' :: _ :: cs => closesAtEnd s cs
  | c :: cs =>
    if s.closing.isPrefixOf (c :: cs) then cs.length + 1 == s.closing.length
    else if c == '\n' && !s.isTriple then false
    else closesAtEnd s cs

def hasHex (count : Nat) (cs : List Char) : Bool :=
  (cs.take count).length == count && (cs.take count).all (Text.isDigitOf 16)

def isEscapeLegal (isBytes : Bool) (c : Char) (cs : List Char) : Bool :=
  if c == 'x' then hasHex 2 cs
  else if isBytes then true
  else if c == 'u' then hasHex 4 cs
  else if c == 'U' then hasHex 8 cs && Text.digitsValue 16 (cs.take 8) ≤ 0x10FFFF
  else if c == 'N' then
    match cs with
    | '\x7b' :: name =>
      name.contains '\x7d' && Text.isCharacterName (name.takeWhile (· != '\x7d'))
    | _ => false
  else true

def escapesAreLegal (isBytes : Bool) : List Char → Bool
  | [] => true
  | '\\' :: c :: cs => isEscapeLegal isBytes c cs && escapesAreLegal isBytes cs
  | _ :: cs => escapesAreLegal isBytes cs

def conversions : List String := ["!s", "!r", "!a"]

def fieldHead (field : Node) : List Char :=
  match field.children.find? (·.kind == .formatSpecifier) with
  | some format => field.text.toList.take (field.text.length - format.text.length - 1)
  | none => field.text.toList.take (field.text.length - 1)

def isConversionLegal (field : Node) : Bool :=
  match field.children.find? (·.kind == .typeConversion) with
  | none => true
  | some conversion =>
    conversions.contains conversion.text &&
      conversion.text.toList.isSuffixOf (fieldHead field)

mutual

/-- Whether a function without a name stands outside brackets, where its colon would end the
expression of a field. -/
def hasOpenLambda : Node → Bool
  | .mk kind _ _ _ children =>
    match kind with
    | .lambda => true
    | .unaryOperator | .binaryOperator | .booleanOperator | .notOperator | .comparisonOperator
    | .conditionalExpression | .namedExpression | .await | .yield | .expressionList | .listSplat =>
      haveOpenLambda children
    | _ => false

def haveOpenLambda : List Node → Bool
  | [] => false
  | n :: rest => hasOpenLambda n || haveOpenLambda rest

end

def formatFields (field : Node) : List Node :=
  match field.children.find? (·.kind == .formatSpecifier) with
  | some format => format.children.filter (·.kind == .interpolation)
  | none => []

/-- Whether a field holds no comment, backslash, bare function or unknown conversion. -/
def isFieldPlain (field : Node) : Bool :=
  !(fieldHead field).contains '\\' && isConversionLegal field &&
    (field.child? .value).all (!hasOpenLambda ·) &&
    (Node.ofKind .comment field).isEmpty

/-- A field may have fields in its format, and those may have none. -/
def isFieldLegal (field : Node) : Bool :=
  isFieldPlain field &&
    (formatFields field).all fun inner => isFieldPlain inner && (formatFields inner).isEmpty

def isLegal (n : Node) : Bool :=
  let s := styleOf n
  let cs := n.text.toList
  legalLetters.contains (String.ofList s.letters) && s.mark != '\x60' &&
    closesAtEnd s (cs.drop (s.letters.length + s.closing.length)) &&
    (!s.isBytes || cs.all (·.toNat < 128)) &&
    (s.isRaw || (n.children.filter (·.kind == .stringContent)).all fun content =>
      escapesAreLegal s.isBytes content.text.toList) &&
    (n.children.filter (·.kind == .interpolation)).all isFieldLegal

/-- Texts that are joined are of one sort. -/
def areJoinable (parts : List Node) : Bool :=
  let strings := parts.filter (·.kind == .string)
  strings.all (fun n => (styleOf n).isBytes) || strings.all fun n => !(styleOf n).isBytes

end PoolLint.Legality.Quoted
