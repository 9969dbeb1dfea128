import PoolLint.Location
import PoolLint.Numeral.Basic

/-! What the program notes for its user beside its findings, and how each note reads in a log. -/
namespace PoolLint

inductive Event.Level where
  | debug
  | warning
  | error
  deriving DecidableEq, Repr

def Event.Level.name : Event.Level → String
  | .debug => "DEBUG"
  | .warning => "WARNING"
  | .error => "ERROR"

inductive ReportFormat where
  | text
  | json
  | yaml
  deriving DecidableEq, Repr

/-- The word for a format in options and file names. -/
def ReportFormat.name : ReportFormat → String
  | .text => "text"
  | .json => "json"
  | .yaml => "yaml"

def ReportFormat.all : List ReportFormat := [.text, .json, .yaml]

def ReportFormat.ofName? (s : String) : Option ReportFormat :=
  ReportFormat.all.find? (·.name == s)

/-- The word for a format in messages. -/
def ReportFormat.title : ReportFormat → String
  | .text => "text"
  | .json => "JSON"
  | .yaml => "YAML"

inductive Event where
  | unreadableValue (text : String) (kind : ValueKind)
  | poolNotRecord (location : Location)
  | dictWithPositional (file : Path) (line : Nat)
  | syntaxErrors (file : Path)
  | fileFailed (file : Path)
  | reportFailed (format : ReportFormat) (file : Path)
  deriving DecidableEq, Repr

namespace Event

def level : Event → Level
  | .unreadableValue .. | .poolNotRecord .. | .dictWithPositional .. => .debug
  | .syntaxErrors .. => .warning
  | .fileFailed .. | .reportFailed .. => .error

def message : Event → String
  | .unreadableValue text kind =>
    s!"Cannot read {Text.quoted text} as {kind.name}, skipping field"
  | .poolNotRecord location => s!"Connection pool at {location.text} is not a record literal"
  | .dictWithPositional file line =>
    s!"dict() call with positional arguments at {file.text}:{line}"
  | .syntaxErrors file => s!"Skipping pool checks for {file.text}: file has syntax errors"
  | .fileFailed file => s!"Failed to scan Python file: {file.text}"
  | .reportFailed format file => s!"Failed to write {format.title} report to {file.text}"

def channel : Event → String
  | .unreadableValue .. | .poolNotRecord .. => "poolguard.services.pool_analyzer"
  | .dictWithPositional .. => "poolguard.services.ts_parser.call_site_builder"
  | .syntaxErrors .. | .fileFailed .. => "poolguard.services.scanner"
  | .reportFailed .text _ => "poolguard.loaders.text_loader"
  | .reportFailed .json _ => "poolguard.loaders.json_loader"
  | .reportFailed .yaml _ => "poolguard.loaders.yaml_loader"

def line (e : Event) : String := s!"{e.level.name} {e.message}"

def channelLine (e : Event) : String := s!"{e.level.name} {e.channel}: {e.message}"

end Event
end PoolLint
