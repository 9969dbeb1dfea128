import PoolLint.CallSite
import PoolLint.Noted
import PoolLint.Syntax.Node
import PoolLint.Text.Blank

/-! Call sites as they are read off a syntax tree. A record is written in braces or as a call of
`dict` with nothing but named and spread arguments. The reader of values goes one level deeper for an
operand and two for what is in a record. -/
namespace PoolLint
open PoolLint.Syntax

namespace Lowering

/-- The level that the reader of values cannot go beyond, for want of stack. An estimate: of the
thousand calls that may stand on each other, about twenty are those around the first reader and those
that the last one makes. -/
def maxLevel : Nat := 980

def literalKind? : Kind → Option LiteralKind
  | .integer => some .integer
  | .float => some .float
  | .string => some .string
  | .true | .false => some .boolean
  | .none => some .none
  | _ => none

def location (file : Path) (s : Span) : Location where
  file := file
  lineStart := s.start.row + 1
  columnStart := s.start.column + 1
  lineEnd := s.stop.row + 1
  columnEnd := s.stop.column + 1
  startByte := s.start.byte
  endByte := s.stop.byte

def textIn? (role : Role) (nodes : List Node) : Option String :=
  (nodes.find? (·.role == role)).map Node.text

/-- The key that a node writes out: only a single quoted text is one. -/
def writtenKey? (n : Node) : Option String := if n.kind == .string then some n.text else none

def isSkipped (kind : Kind) : Bool := kind == .mark || kind == .comment

/-- Whether an argument can be an entry of a record that is written as a call. -/
def isNamedOrSpread (kind : Kind) : Bool := kind == .keywordArgument || kind == .dictionarySplat

def other (file : Path) (kind : Kind) (text : String) (span : Span) : Expr :=
  .other kind.name text (location file span)

/-- Fields as far as they were read, and whether all entries were named or spread. -/
structure DictEntries where
  fields : List Field
  steps : List ReadStep
  isComplete : Bool

def DictEntries.cons (f : Noted Field) (rest : DictEntries) : DictEntries :=
  ⟨f.value :: rest.fields, f.steps ++ rest.steps, rest.isComplete⟩

mutual

def exprOf (file : Path) : Node → Noted Expr
  | .mk kind _ text span children =>
    match literalKind? kind with
    | some literal => ⟨.literal literal text (location file span), [.enter 1]⟩
    | none =>
      match kind with
      | .unaryOperator =>
        match textIn? .operator children, valueIn file .operand children with
        | some operator, some operand =>
          ⟨.unary operator operand.value text (location file span), ReadStep.around 1 operand.steps⟩
        | _, _ => ⟨other file kind text span, [.enter 1]⟩
      | .dictionary =>
        let fields := recordFields file children
        ⟨.record fields.value text (location file span), ReadStep.around 2 fields.steps⟩
      | .call =>
        if textIn? .function children == some "dict" then
          match dictFields file children with
          | none => ⟨other file kind text span, [.enter 1]⟩
          | some entries =>
            if entries.isComplete then
              ⟨.record entries.fields text (location file span), ReadStep.around 2 entries.steps⟩
            else
              let note := .note (.dictWithPositional file (span.start.row + 1))
              ⟨other file kind text span, ReadStep.around 2 entries.steps ++ [note]⟩
        else ⟨other file kind text span, [.enter 1]⟩
      | _ => ⟨other file kind text span, [.enter 1]⟩

def valueIn (file : Path) (role : Role) : List Node → Option (Noted Expr)
  | [] => none
  | n :: rest => if n.role == role then some (exprOf file n) else valueIn file role rest

def recordField? (file : Path) : Node → Option (Noted Field)
  | .mk kind _ text span children =>
    match kind with
    | .pair =>
      match children.find? (·.role == .key), valueIn file .value children with
      | some key, some value =>
        some ⟨.mk (writtenKey? key) value.value (location file span), value.steps⟩
      | _, _ => none
    | .dictionarySplat =>
      some ⟨.mk none (other file kind text span) (location file span), [.enter 1]⟩
    | _ => none

def recordFields (file : Path) : List Node → Noted (List Field)
  | [] => ⟨[], []⟩
  | n :: rest =>
    match recordField? file n with
    | none => recordFields file rest
    | some field =>
      let fields := recordFields file rest
      ⟨field.value :: fields.value, field.steps ++ fields.steps⟩

def dictField? (file : Path) : Node → Option (Noted Field)
  | .mk kind _ text span children =>
    match kind with
    | .keywordArgument =>
      match textIn? .name children, valueIn file .value children with
      | some name, some value =>
        some ⟨.mk (some name) value.value (location file span), value.steps⟩
      | _, _ => none
    | .dictionarySplat =>
      some ⟨.mk none (other file kind text span) (location file span), [.enter 1]⟩
    | _ => none

/-- The fields of a list of arguments, up to one that is neither named nor spread. -/
def dictEntries (file : Path) : List Node → DictEntries
  | [] => ⟨[], [], true⟩
  | n :: rest =>
    if isSkipped n.kind then dictEntries file rest
    else if isNamedOrSpread n.kind then
      match dictField? file n with
      | none => dictEntries file rest
      | some field => (dictEntries file rest).cons field
    else ⟨[], [], false⟩

def argumentFields? (file : Path) : Node → Option DictEntries
  | .mk kind _ _ _ entries =>
    match kind with
    | .argumentList => some (dictEntries file entries)
    | _ => none

def dictFields (file : Path) : List Node → Option DictEntries
  | [] => none
  | n :: rest => if n.role == .arguments then argumentFields? file n else dictFields file rest

end

/-- The argument of an entry. Spread arguments and line continuations take a place like any other
positional one. -/
def argumentOf (file : Path) (n : Node) : Noted Argument :=
  match n.kind, textIn? .name n.children, valueIn file .value n.children with
  | .keywordArgument, some name, some value => ⟨.named name value.value, value.steps⟩
  | _, _, _ =>
    let value := exprOf file n
    ⟨.positional value.value, value.steps⟩

/-- The arguments of a call. A comprehension without parentheses of its own is the only one. -/
def argumentsOf (file : Path) (call : Node) : List (Noted Argument) :=
  match call.child? .arguments with
  | none => []
  | some arguments =>
    if arguments.kind == .argumentList then arguments.entries.map (argumentOf file)
    else
      let value := exprOf file arguments
      [⟨.positional value.value, value.steps⟩]

def callSiteOf (file : Path) (call : Node) : Noted CallSite :=
  let arguments := argumentsOf file call
  ⟨⟨Text.squeezed ((textIn? .function call.children).getD ""), arguments.map (·.value),
      location file call.span⟩,
    arguments.flatMap (·.steps)⟩

/-- All call sites of a tree, outer ones before the ones in them. -/
def callSites (file : Path) (root : Node) : Noted (List CallSite) :=
  let sites := (Node.ofKind .call root).map (callSiteOf file)
  ⟨sites.map (·.value), sites.flatMap (·.steps)⟩

end Lowering
end PoolLint
