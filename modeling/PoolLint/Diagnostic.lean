import PoolLint.Location

/-! Findings and how severe they are. -/
namespace PoolLint

inductive Severity where
  | error
  | warning
  | hint
  deriving DecidableEq, Repr

def Severity.name : Severity → String
  | .error => "error"
  | .warning => "warning"
  | .hint => "hint"

def Severity.all : List Severity := [.error, .warning, .hint]

def Severity.ofName? (s : String) : Option Severity := Severity.all.find? (·.name == s)

/-- The kinds of finding this program makes on its own. -/
inductive Finding where
  | tooFewOpenConnections
  | tooFewIdleConnections
  | tooShortLifeTime
  | invalidSyntax
  deriving DecidableEq, Repr

namespace Finding

def all : List Finding :=
  [.tooFewOpenConnections, .tooFewIdleConnections, .tooShortLifeTime, .invalidSyntax]

def code : Finding → String
  | .tooFewOpenConnections => "SQL_101"
  | .tooFewIdleConnections => "SQL_102"
  | .tooShortLifeTime => "SQL_103"
  | .invalidSyntax => "SYNTAX_ERROR"

def message : Finding → String
  | .tooFewOpenConnections => "invalid value: expected value is greater than one"
  | .tooFewIdleConnections => "invalid value: expected value is greater than zero"
  | .tooShortLifeTime => "invalid value: expected value is greater than or equal to 30"
  | .invalidSyntax => "invalid syntax"

def severity : Finding → Severity
  | .tooFewOpenConnections | .tooFewIdleConnections | .tooShortLifeTime | .invalidSyntax => .error

def ofCode? (s : String) : Option Finding := all.find? (·.code == s)

end Finding

structure Diagnostic where
  code : String
  message : String
  severity : Severity
  location : Location
  deriving DecidableEq, Repr

def Diagnostic.of (finding : Finding) (location : Location) : Diagnostic :=
  ⟨finding.code, finding.message, finding.severity, location⟩

end PoolLint
