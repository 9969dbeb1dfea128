import PoolLint.Diagnostic
import PoolLint.Json.Basic

/-! A diagnostic as a flat row, the common content of all reports. -/
namespace PoolLint

structure Report.Row where
  code : String
  message : String
  severity : String
  file : String
  line : Nat
  column : Nat
  endLine : Nat
  endColumn : Nat
  deriving DecidableEq, Repr

namespace Report.Row

def ofDiagnostic (d : Diagnostic) : Row :=
  ⟨d.code, d.message, d.severity.name, d.location.file.text, d.location.lineStart,
    d.location.columnStart, d.location.lineEnd, d.location.columnEnd⟩

def texts (r : Row) : List (String × String) :=
  [("code", r.code), ("message", r.message), ("severity", r.severity), ("file", r.file)]

def numbers (r : Row) : List (String × Nat) :=
  [("line", r.line), ("column", r.column), ("end_line", r.endLine), ("end_column", r.endColumn)]

/-- The fields of a row in the order in which reports show them. -/
def fields (r : Row) : List (String × Json) :=
  r.texts.map (fun p => (p.1, .string p.2)) ++ r.numbers.map (fun p => (p.1, .integer p.2))

end Report.Row

def Report.rows (ds : List Diagnostic) : List Report.Row := ds.map Report.Row.ofDiagnostic

end PoolLint
