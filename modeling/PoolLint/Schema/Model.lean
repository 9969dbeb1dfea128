import PoolLint.CallSite
import PoolLint.Diagnostic
import PoolLint.Schema.Scalar

/-! Documents that describe locations, expressions, calls and diagnostics. Members that a value does
not have are passed over. Expressions and the locations in them are described by reference, and too
many references in each other are refused without a look at what they lead to. -/
namespace PoolLint.Schema
open Check

def path : Json → Check Path
  | .string s => .ok (Path.parse s)
  | _ => .fail .notPath

/-- A location whose fields have been read one by one. -/
def ordered (l : Location) : Check Location :=
  if l.lineEnd < l.lineStart then
    .fail (.rejected "line_end must be greater than or equal to line_start")
  else .ok l

def locationFields (members : List (String × Json)) : Check Location :=
  (both (required "file_path" path members) <|
    both (required "line_start" (natural 1) members) <|
    both (required "column_start" (natural 1) members) <|
    both (required "line_end" (natural 1) members) <|
    both (required "column_end" (natural 1) members) <|
    both (optional "start_byte" 0 (natural 0) members)
      (optional "end_byte" 0 (natural 0) members)).map
    fun (file, lineStart, columnStart, lineEnd, columnEnd, startByte, endByte) =>
      ⟨file, lineStart, columnStart, lineEnd, columnEnd, startByte, endByte⟩

def location : Json → Check Location
  | .object members => locationFields members >>= ordered
  | _ => .fail .notObject

/-- A location that is described by reference. -/
def locationAt (opened : Nat) (j : Json) : Check Location :=
  if opened < maxOpen then location j else .fail .tooDeep

inductive Tag where
  | literal
  | unary
  | record
  | other
  deriving DecidableEq, Repr

def Tag.name : Tag → String
  | .literal => "literal"
  | .unary => "unary"
  | .record => "record"
  | .other => "other"

def Tag.ofName? (s : String) : Option Tag :=
  [Tag.literal, .unary, .record, .other].find? (·.name == s)

def tag {α : Type} (ofName? : String → Option α) (members : List (String × Json)) : Check α :=
  match Json.member? "kind" members with
  | none => .fail .missingTag
  | some (.string s) =>
    match ofName? s with
    | some t => .ok t
    | none => .fail .unknownTag
  | some _ => .fail .unknownTag

def literalFields (opened : Nat) (members : List (String × Json)) : Check Expr :=
  (both (required "text" text members) <|
    both (required "location" (locationAt opened) members)
      (required "literal_kind" (word LiteralKind.ofName?) members)).map
    fun (text, location, kind) => .literal kind text location

def otherFields (opened : Nat) (members : List (String × Json)) : Check Expr :=
  (both (required "text" text members) <|
    both (required "location" (locationAt opened) members) (optional "node_type" "" text members)).map
    fun (text, location, kind) => .other kind text location

/-- A signed expression, given what was found for its operand. -/
def unaryFields (opened : Nat) (members : List (String × Json)) (operand : Option (Check Expr)) :
    Check Expr :=
  (both (required "text" text members) <|
    both (required "location" (locationAt opened) members) <|
    both (required "operator" text members)
      (under (.name "operand") (operand.getD (.fail .missing)))).map
    fun (text, location, operator, operand) => .unary operator operand text location

/-- A record, given what was found for its fields. -/
def recordFields (opened : Nat) (members : List (String × Json))
    (fields : Option (Check (List Field))) : Check Expr :=
  (both (required "text" text members) <|
    both (required "location" (locationAt opened) members)
      (under (.name "fields") (fields.getD (.ok [])))).map
    fun (text, location, fields) => .record fields text location

/-- An entry of a record, given what was found for its value. -/
def entryFields (opened : Nat) (members : List (String × Json)) (value : Option (Check Expr)) :
    Check Field :=
  (both (required "key" optionalText members) <|
    both (under (.name "value") (value.getD (.fail .missing)))
      (required "location" (locationAt opened) members)).map
    fun (key, value, location) => .mk key value location

mutual

/-- An expression, with as many references open as there are around it. -/
def exprAt (opened : Nat) : Json → Check Expr
  | .object members =>
    match tag Tag.ofName? members with
    | .error problems => .error problems
    | .ok t =>
      under (.name t.name) <|
        if opened < maxOpen then
          let inside := opened + 1
          match t with
          | .literal => literalFields inside members
          | .other => otherFields inside members
          | .unary => unaryFields inside members (exprMember inside "operand" members)
          | .record => recordFields inside members (fieldsMember inside "fields" members)
        else .fail .tooDeep
  | _ => .fail .notVariant

def exprMember (opened : Nat) (name : String) : List (String × Json) → Option (Check Expr)
  | [] => none
  | m :: ms =>
    match exprMember opened name ms with
    | some found => some found
    | none => exprPair opened name m

def exprPair (opened : Nat) (name : String) : String × Json → Option (Check Expr)
  | (n, j) => if n == name then some (exprAt opened j) else none

def fieldsMember (opened : Nat) (name : String) :
    List (String × Json) → Option (Check (List Field))
  | [] => none
  | m :: ms =>
    match fieldsMember opened name ms with
    | some found => some found
    | none => fieldsPair opened name m

def fieldsPair (opened : Nat) (name : String) : String × Json → Option (Check (List Field))
  | (n, j) => if n == name then some (fieldSequence opened j) else none

def fieldSequence (opened : Nat) : Json → Check (List Field)
  | .array xs => fieldElements opened 0 xs
  | _ => .fail .notSequence

def fieldElements (opened : Nat) (position : Nat) : List Json → Check (List Field)
  | [] => .ok []
  | x :: xs =>
    (both ((fieldAt opened x).under (.position position))
      (fieldElements opened (position + 1) xs)).map fun p => p.1 :: p.2

def fieldAt (opened : Nat) : Json → Check Field
  | .object members => entryFields opened members (exprMember opened "value" members)
  | _ => .fail .notObject

end

def expr (j : Json) : Check Expr := exprAt 0 j

/-- The kinds of argument by name; the flag says whether the argument is named. -/
def argumentTag? (s : String) : Option Bool :=
  if s == "positional" then some false else if s == "named" then some true else none

def argument : Json → Check Argument
  | .object members =>
    match tag argumentTag? members with
    | .error problems => .error problems
    | .ok false =>
      under (.name "positional") ((required "value" expr members).map .positional)
    | .ok true =>
      under (.name "named")
        ((both (required "name" text members) (required "value" expr members)).map
          fun (name, value) => .named name value)
  | _ => .fail .notVariant

def argumentElements (position : Nat) : List Json → Check (List Argument)
  | [] => .ok []
  | x :: xs =>
    (both ((argument x).under (.position position))
      (argumentElements (position + 1) xs)).map fun p => p.1 :: p.2

def arguments : Json → Check (List Argument)
  | .array xs => argumentElements 0 xs
  | _ => .fail .notSequence

def callSite : Json → Check CallSite
  | .object members =>
    (both (required "callee" text members) <|
      both (optional "arguments" [] arguments members)
        (required "location" location members)).map
      fun (callee, arguments, location) => ⟨callee, arguments, location⟩
  | _ => .fail .notObject

def diagnostic : Json → Check Diagnostic
  | .object members =>
    (both (required "code" text members) <|
      both (required "message" text members) <|
      both (required "severity" (word Severity.ofName?) members)
        (required "location" location members)).map
      fun (code, message, severity, location) => ⟨code, message, severity, location⟩
  | _ => .fail .notObject

end PoolLint.Schema
