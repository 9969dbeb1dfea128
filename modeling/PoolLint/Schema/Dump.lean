import PoolLint.CallSite
import PoolLint.Diagnostic
import PoolLint.Json.Basic
import PoolLint.RuleConfig
import PoolLint.Schema.Problem

/-! Values as the documents that describe them. Values that are nested too deeply are not written
out. -/
namespace PoolLint

inductive DumpFault where
  | tooDeep
  deriving DecidableEq, Repr

def DumpFault.message : DumpFault → String
  | .tooDeep => "Circular reference detected (depth exceeded)"

/-- Every expression around a location opens a reference, and so do the location and its path. -/
def dumped (depth : Nat) (document : Json) : Except DumpFault Json :=
  if depth + 2 ≤ Schema.maxOpen then .ok document else .error .tooDeep

def Location.toJson (l : Location) : Json :=
  .object [("file_path", .string l.file.text), ("line_start", .integer l.lineStart),
    ("column_start", .integer l.columnStart), ("line_end", .integer l.lineEnd),
    ("column_end", .integer l.columnEnd), ("start_byte", .integer l.startByte),
    ("end_byte", .integer l.endByte)]

mutual

def Expr.toJson : Expr → Json
  | .literal kind text location =>
    .object [("text", .string text), ("location", location.toJson), ("kind", .string "literal"),
      ("literal_kind", .string kind.name)]
  | .unary operator operand text location =>
    .object [("text", .string text), ("location", location.toJson), ("kind", .string "unary"),
      ("operator", .string operator), ("operand", operand.toJson)]
  | .record fields text location =>
    .object [("text", .string text), ("location", location.toJson), ("kind", .string "record"),
      ("fields", .array (Field.toJsonList fields))]
  | .other syntaxKind text location =>
    .object [("text", .string text), ("location", location.toJson), ("kind", .string "other"),
      ("node_type", .string syntaxKind)]

def Field.toJson : Field → Json
  | .mk key value location =>
    .object [("key", match key with
        | some k => .string k
        | none => .null),
      ("value", value.toJson), ("location", location.toJson)]

def Field.toJsonList : List Field → List Json
  | [] => []
  | f :: fs => f.toJson :: Field.toJsonList fs

end

def Argument.toJson : Argument → Json
  | .positional value => .object [("kind", .string "positional"), ("value", value.toJson)]
  | .named name value =>
    .object [("kind", .string "named"), ("name", .string name), ("value", value.toJson)]

def CallSite.toJson (c : CallSite) : Json :=
  .object [("callee", .string c.callee), ("arguments", .array (c.arguments.map Argument.toJson)),
    ("location", c.location.toJson)]

def Diagnostic.toJson (d : Diagnostic) : Json :=
  .object [("code", .string d.code), ("message", .string d.message),
    ("severity", .string d.severity.name), ("location", d.location.toJson)]

def Location.dump (l : Location) : Except DumpFault Json := dumped 0 l.toJson

def Expr.dump (e : Expr) : Except DumpFault Json := dumped e.depth e.toJson

def Argument.dump (a : Argument) : Except DumpFault Json := dumped a.depth a.toJson

def CallSite.dump (c : CallSite) : Except DumpFault Json := dumped c.depth c.toJson

def Diagnostic.dump (d : Diagnostic) : Except DumpFault Json := dumped 0 d.toJson

def RuleConfig.toJson (c : RuleConfig) : Json :=
  .object [("target_constructors", .array (c.targets.map .string)),
    ("pool_param_names", .array (c.poolNames.map .string)),
    ("total_param_count", .integer c.parameterCount),
    ("config_param_index", .integer c.poolIndex)]

end PoolLint
