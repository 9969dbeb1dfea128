import PoolLint.CallSite
import PoolLint.Diagnostic
import PoolLint.Imports
import PoolLint.Legality.Basic

/-! What is known of a file as a whole: whether it has syntax errors, and what its names mean. -/
namespace PoolLint
open PoolLint.Syntax

structure FileFacts where
  diagnostics : List Diagnostic
  bindings : List Binding

namespace FileFacts

/-- A number that is told, or another one: zero counts as not told. -/
def toldOr (other : Int) (told : Option Int) : Int := (told.filter (· != 0)).getD other

section Place
variable (v : Violation)

def lineOf : Int := toldOr 1 (v.line.map Int.ofNat)

def columnOf : Int := max (toldOr 1 v.column) 1

def lineEndOf : Int := max (toldOr (lineOf v) v.lineEnd) (lineOf v)

def columnEndOf : Int := max (toldOr (columnOf v) v.columnEnd) 1

end Place

/-- The location of a violation in a file. What is not told of the end is taken from the start. -/
def locationOf (file : Path) (v : Violation) : Location where
  file := file
  lineStart := (lineOf v).toNat
  columnStart := (columnOf v).toNat
  lineEnd := (lineEndOf v).toNat
  columnEnd := (columnEndOf v).toNat

/-- The facts of a file whose tree is free of errors; a violation makes a syntax error of it. -/
def of (file : Path) (fault : Option Violation) (root : Node) : FileFacts :=
  ⟨(fault.map fun v => Diagnostic.of .invalidSyntax (locationOf file v)).toList,
    Imports.bindings root⟩

def isTarget (facts : FileFacts) (targets : List String) (site : CallSite) : Bool :=
  targets.contains (Imports.resolve facts.bindings site.callee)

end FileFacts
end PoolLint
