import PoolLint.CommandLine.Options
import PoolLint.Event
import PoolLint.Scan.Search

/-! What the program is asked to do: to check files, to list its rules, or to explain itself. -/
namespace PoolLint.CommandLine

/-- What is asked of a check. The report goes to a file if that is named. -/
structure CheckRequest where
  paths : List Path
  format : ReportFormat
  output : Option Path
  targets : List String
  onError : OnError
  exitsZero : Bool
  isVerbose : Bool
  deriving DecidableEq, Repr

inductive Command where
  | check (request : CheckRequest)
  | rules
  | help
  deriving DecidableEq, Repr

structure CheckOptions where
  format : String
  output : Option String
  targets : List String
  onError : OnError
  exitsZero : Bool
  isVerbose : Bool
  asksHelp : Bool
  deriving DecidableEq, Repr

def CheckOptions.standard : CheckOptions where
  format := ReportFormat.text.name
  output := none
  targets := []
  onError := .raise
  exitsZero := false
  isVerbose := false
  asksHelp := false

def helpSwitch {σ : Type} (set : σ → σ) : Switch σ := ⟨"--help", none, .flag set⟩

/-- Of an option that is given more than once the last one counts; targets are collected. -/
def CheckOptions.switches : List (Switch CheckOptions) :=
  [⟨"--format", some 'f', .value fun v o => { o with format := v }⟩,
    ⟨"--output", some 'o', .value fun v o => { o with output := some v }⟩,
    ⟨"--target", some 't', .value fun v o => { o with targets := o.targets ++ [v] }⟩,
    ⟨"--skip-errors", none, .flag fun o => { o with onError := .skip }⟩,
    ⟨"--fail-on-errors", none, .flag fun o => { o with onError := .raise }⟩,
    ⟨"--exit-zero", none, .flag fun o => { o with exitsZero := true }⟩,
    ⟨"--verbose", some 'v', .flag fun o => { o with isVerbose := true }⟩,
    helpSwitch fun o => { o with asksHelp := true }]

/-- The small form of a letter of a format word; a long s is an s. -/
def foldLetter (c : Char) : Char := if c == 'ſ' then 's' else c.toLower

def formatOf? (word : String) : Option ReportFormat :=
  ReportFormat.ofName? (String.ofList (word.toList.map foldLetter))

namespace Command

def ofCheckOptions (o : CheckOptions) (paths : List String) : Except UsageFault Command :=
  if o.asksHelp then .ok .help
  else if paths.isEmpty then .error .noPaths
  else match formatOf? o.format with
    | none => .error (.unknownFormat o.format)
    | some format => .ok (.check {
        paths := paths.map Path.parse
        format
        output := o.output.map Path.parse
        targets := o.targets
        onError := o.onError
        exitsZero := o.exitsZero
        isVerbose := o.isVerbose })

/-- The only option of all other commands asks for help. -/
def readHelp (isMixed : Bool) (args : List String) : Except UsageFault (Bool × List String) :=
  readOptions [helpSwitch fun _ => true] isMixed false args

def ofRuleArguments (args : List String) : Except UsageFault Command :=
  match readHelp true args with
  | .error fault => .error fault
  | .ok (true, _) => .ok .help
  | .ok (false, []) => .ok .rules
  | .ok (false, word :: _) => .error (.unexpectedArgument word)

/-- A name that is no command may still ask for help. -/
def ofUnknown (name : String) (args : List String) : Except UsageFault Command :=
  match readHelp false (name :: args) with
  | .error fault => .error fault
  | .ok (true, _) => .ok .help
  | .ok (false, _) => .error (.unknownCommand name)

def ofNamed (name : String) (args : List String) : Except UsageFault Command :=
  if name == "check" then
    match readOptions CheckOptions.switches true .standard args with
    | .error fault => .error fault
    | .ok (options, paths) => ofCheckOptions options paths
  else if name == "rules" then ofRuleArguments args
  else ofUnknown name args

def ofArguments (args : List String) : Except UsageFault Command :=
  match readHelp false args with
  | .error fault => .error fault
  | .ok (true, _) => .ok .help
  | .ok (false, []) => .error .noCommand
  | .ok (false, name :: rest) => ofNamed name rest

end Command
end PoolLint.CommandLine
