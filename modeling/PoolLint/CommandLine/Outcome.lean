import PoolLint.CommandLine.Command
import PoolLint.PoolRule
import PoolLint.Report.Writer
import PoolLint.Scan.Directory
import PoolLint.Schema.Config

/-! What a command line does to a tree of files, and what it tells its user. -/
namespace PoolLint.CommandLine

/-- Why a run stops early. -/
inductive Fault where
  | usage (fault : UsageFault)
  | settings (problems : List Schema.Problem)
  | scan (fault : ScanFault)
  | report (fault : PathFault)
  deriving DecidableEq, Repr

/-- A command line that cannot be served is told apart from a run that fails. -/
def Fault.exitCode : Fault → Nat
  | .usage _ => 2
  | .settings _ | .scan _ | .report _ => 1

/-- How a run ends: the lines that are its output, the lines about it, and the tree of files that it
leaves. -/
structure Outcome where
  exitCode : Nat
  printed : List String
  notes : List String
  tree : FileTree
  fault : Option Fault

namespace Outcome

def failed (tree : FileTree) (notes : List String) (fault : Fault) : Outcome :=
  ⟨fault.exitCode, [], notes, tree, some fault⟩

/-- The lines that tell of what was noted; finer notes are for those who ask for them. -/
def logged (isVerbose : Bool) (events : List Event) : List String :=
  (events.filter fun e => isVerbose || e.level != .debug).map Event.channelLine

def verdict (count : Nat) : String :=
  if count == 0 then "No connection pool issues found"
  else s!"Found {count} connection pool issue(s)"

/-- Where the report is written. A report of lines has to be sent to a file. -/
def reportPath? (request : CheckRequest) : Option Path :=
  match request.output, request.format with
  | some p, _ => some p
  | none, .text => none
  | none, format => some (Path.parse s!"poolguard-report.{format.name}")

def ofFindings (tree : FileTree) (request : CheckRequest) (events : List Event)
    (ds : List Diagnostic) : Outcome :=
  let log := logged request.isVerbose
  let exitCode := if ds.isEmpty || request.exitsZero then 0 else 1
  match reportPath? request with
  | none => ⟨exitCode, ds.map Report.line, log events ++ [verdict ds.length], tree, none⟩
  | some p =>
    let written := Report.write tree request.format Report.standardIndent p ds
    let events := events ++ written.events
    match written.fault with
    | some fault => failed written.tree (log events) (.report fault)
    | none =>
      ⟨exitCode, [s!"Report written to {p.text}"], log events ++ [verdict ds.length],
        written.tree, none⟩

def ofCheck (tree : FileTree) (config : RuleConfig) (request : CheckRequest) : Outcome :=
  let run := Scan.paths tree config (.ok request.onError) request.paths .empty
  match run.result with
  | .error fault => failed tree (logged request.isVerbose run.events) (.scan fault)
  | .ok ds => ofFindings tree request run.events ds

/-- What is wrong with the paths of a request: files to scan have to be there, and a report cannot
replace a directory. -/
def usageFault? (tree : FileTree) (request : CheckRequest) : Option UsageFault :=
  match request.paths.find? (!tree.isThere ·), request.output with
  | some p, _ => some (.missingPath p)
  | none, some p => if tree.isDirectory p then some (.reportIsDirectory p) else none
  | none, none => none

def settings (defaults : RuleConfig) (request : CheckRequest) : Schema.Check RuleConfig :=
  let targets := if request.targets.isEmpty then defaults.targets else request.targets
  Schema.config { defaults with targets } []

def ofRequest (tree : FileTree) (defaults : RuleConfig) (request : CheckRequest) : Outcome :=
  match usageFault? tree request with
  | some fault => failed tree [] (.usage fault)
  | none =>
    match settings defaults request with
    | .error problems => failed tree [] (.settings problems)
    | .ok config => ofCheck tree config request

def help : List String :=
  ["Usage: poolguard check [OPTIONS] PATHS...",
    "       poolguard rules",
    "",
    "Check connection pool settings passed to database clients.",
    "",
    "  -f, --format FORMAT  report format: text, json or yaml",
    "  -o, --output FILE    report file; a text report is printed unless one is given",
    "  -t, --target NAME    client class to check; may be repeated",
    "  --skip-errors        note files that fail and go on",
    "  --fail-on-errors     stop at the first file that fails",
    "  --exit-zero          succeed whatever is found",
    "  -v, --verbose        tell more",
    "  --help               print this text"]

def ofCommand (tree : FileTree) (defaults : RuleConfig) : Command → Outcome
  | .help => ⟨0, help, [], tree, none⟩
  | .rules => ⟨0, PoolRule.table.map PoolRule.text, [], tree, none⟩
  | .check request => ofRequest tree defaults request

def ofArguments (tree : FileTree) (defaults : RuleConfig) (args : List String) : Outcome :=
  match Command.ofArguments args with
  | .error fault => failed tree [] (.usage fault)
  | .ok command => ofCommand tree defaults command

end Outcome
end PoolLint.CommandLine
