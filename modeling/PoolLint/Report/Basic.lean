import PoolLint.Event
import PoolLint.Json.Printer
import PoolLint.Report.Row
import PoolLint.Yaml.Printer

/-! Reports: the same rows as lines of text, as a JSON document, or as a YAML document. -/
namespace PoolLint.Report

def line (d : Diagnostic) : String := s!"{d.location.text}: {d.code} {d.message}"

def text (ds : List Diagnostic) : String := String.join (ds.map fun d => line d ++ "\n")

def document (ds : List Diagnostic) : Json :=
  .object [("count", .integer ds.length),
    ("diagnostics", .array ((rows ds).map fun r => .object r.fields))]

def json (indent : Option Int) (ds : List Diagnostic) : String :=
  Json.render indent (document ds)

/-- The indentation of a YAML report: two, unless another one of a single digit is asked for. -/
def yamlIndent : Option Int → Nat
  | some n => if 1 < n && n < 10 then n.toNat else 2
  | none => 2

/-- A row as an element of a list; the lines behind the first are indented as far as the first
name. -/
def yamlRow (indent : Nat) (r : Row) : List Char :=
  let margin := List.replicate indent ' '
  let dash := '-' :: List.replicate (indent - 1) ' '
  let texts := r.texts.map fun p =>
    p.1.toList ++ ':' :: ' ' :: Yaml.scalar (indent + p.1.length + 2) (2 * indent) p.2 ++ ['\n']
  let numbers := r.numbers.map fun p => p.1.toList ++ ':' :: ' ' :: (toString p.2).toList ++ ['\n']
  match texts ++ numbers with
  | [] => []
  | first :: rest => dash ++ first ++ rest.flatMap (margin ++ ·)

def yaml (indent : Option Int) (ds : List Diagnostic) : String :=
  let head := s!"count: {ds.length}\n"
  if ds.isEmpty then head ++ "diagnostics: []\n"
  else head ++ "diagnostics:\n" ++
    String.ofList ((rows ds).flatMap (yamlRow (yamlIndent indent)))

/-- A report in a format. Only the structured ones have an indentation. -/
def render (format : ReportFormat) (indent : Option Int) (ds : List Diagnostic) : String :=
  match format with
  | .text => text ds
  | .json => json indent ds
  | .yaml => yaml indent ds

/-- The indentation of structured reports unless told otherwise. -/
def standardIndent : Option Int := some 2

end PoolLint.Report
