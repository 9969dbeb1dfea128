import PoolLint.Legality.Form

/-! Rules for the imports that turn on features of later versions. They stand at the head of a file,
behind nothing but texts and each other. -/
namespace PoolLint.Legality.Future
open PoolLint.Syntax

def features : List String :=
  ["nested_scopes", "generators", "division", "absolute_import", "with_statement",
   "print_function", "unicode_literals", "barry_as_FLUFL", "generator_stop", "annotations"]

def statements (n : Node) : List Node := parts n

def importedNames (n : Node) : List String :=
  (n.childrenIn .name).map fun m =>
    if m.kind == .aliasedImport then ((m.child? .name).map (·.text)).getD "" else m.text

def areFeaturesKnown (n : Node) : Bool :=
  (children n .wildcardImport).isEmpty && (importedNames n).all features.contains
where
  children (n : Node) (kind : Kind) : List Node := n.children.filter (·.kind == kind)

def isText (n : Node) : Bool :=
  n.kind == .expressionStatement && (parts n).all fun v =>
    match v.kind with
    | .string => isPlain v
    | .concatenatedString => (parts v).all isPlain
    | _ => false
where
  isPlain (n : Node) : Bool :=
    match n.children with
    | opening :: _ =>
      !(opening.text.toList.any fun c => c == 'f' || c == 'F' || c == 'b' || c == 'B')
    | [] => false

/-- What the head of a file shows: the line of its last import of a feature, if it has one, and the
first violation in it. -/
structure Head where
  line : Option Nat
  fault : Option Violation

/-- The place of a late import on the line of another statement. Its column is told as it is counted
from zero, and where it ends on the line is not told. -/
def placeOf (n : Node) : Violation :=
  let line := n.span.start.row + 1
  ⟨some line, some n.span.start.column, some line, none⟩

/-- Reads statements until no import of a feature may follow. Behind another statement this is
found out only on its line. -/
def readHead (done : Bool) (lastRow : Nat) (line : Option Nat) : List Node → Head
  | [] => ⟨line, none⟩
  | n :: rest =>
    let row := n.span.start.row
    if done && lastRow < row then ⟨line, none⟩
    else if n.kind == .futureImportStatement then
      if done then ⟨line, some (placeOf n)⟩
      else if areFeaturesKnown n then readHead false row (some row) rest
      else ⟨line, some (placeOf n)⟩
    else readHead (done || !isText n) row line rest

def headOf (module : Node) : Head := readHead false 0 none (statements module)

/-- Whether an import of features stands behind the head of its file. -/
def isLate (head : Head) (n : Node) : Bool :=
  n.kind == .futureImportStatement && head.line.all (· < n.span.start.row)

end PoolLint.Legality.Future
