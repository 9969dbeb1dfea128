import PoolLint.Collector
import PoolLint.Scan.File
import PoolLint.Scan.Search

/-! The scan of many files. Each is scanned by itself; what a file reports reaches the collector
when its scan is over, so a file that fails leaves nothing there. -/
namespace PoolLint

namespace Scan

/-- A scan with the collector behind it. -/
structure Run where
  events : List Event
  collector : Collector
  result : Except ScanFault (List Diagnostic)

/-- A scan that reports what it finds. -/
def reporting (collector : Collector) (attempt : Attempt ScanFault (List Diagnostic)) : Run :=
  match attempt.result with
  | .ok ds => ⟨attempt.events, collector.reportAll ds, .ok ds⟩
  | .error fault => ⟨attempt.events, collector, .error fault⟩

def Run.andThen (first : Run) (next : Collector → Run) : Run :=
  match first.result with
  | .error fault => ⟨first.events, first.collector, .error fault⟩
  | .ok ds =>
    let rest := next first.collector
    ⟨first.events ++ rest.events, rest.collector, rest.result.map (ds ++ ·)⟩

/-- A failed run turned into an empty one, with a note. -/
def Run.recovered (run : Run) (note : Event) : Run :=
  match run.result with
  | .ok _ => run
  | .error _ => ⟨run.events ++ [note], run.collector, .ok []⟩

def files (tree : FileTree) (config : RuleConfig) (root : Path) (onError : OnError) :
    List Path → Collector → Run
  | [], collector => ⟨[], collector, .ok []⟩
  | p :: rest, collector =>
    let run := reporting collector (file tree config (some root) p)
    let run := match onError with
      | .raise => run
      | .skip => run.recovered (.fileFailed p)
    run.andThen (files tree config root onError rest)

/-- The files that are scanned in a directory. -/
def collected (tree : FileTree) (search : Search) : Except ScanFault (List Path) :=
  match tree.askThere search.root with
  | .error fault => .error (.path fault)
  | .ok false => .error (.rootMissing search.root)
  | .ok true =>
    match tree.askDirectory search.root with
    | .error fault => .error (.path fault)
    | .ok false => .error (.rootNotDirectory search.root)
    | .ok true => (tree.sources search.options search.root).mapError .path

/-- The scan of a directory. What goes wrong before its files are known is no failure of a file. -/
def directory (tree : FileTree) (config : RuleConfig) (search : Search) (collector : Collector) :
    Run :=
  match collected tree search with
  | .error fault => ⟨[], collector, .error fault⟩
  | .ok ps => files tree config search.root search.onError ps collector

/-- The scan of what a path leads to. What happens when a file fails is only looked at where the
path leads to a directory. -/
def path (tree : FileTree) (config : RuleConfig) (onError : Schema.Check OnError) (p : Path)
    (collector : Collector) : Run :=
  match tree.resolve p with
  | .error at_ => ⟨[], collector, .error (.pathEndless p at_)⟩
  | .ok absolute =>
    match tree.askDirectory absolute with
    | .error fault => ⟨[], collector, .error (.path fault)⟩
    | .ok true =>
      match onError with
      | .error problems => ⟨[], collector, .error (.request problems)⟩
      | .ok onError => directory tree config ⟨p, .standard, onError⟩ collector
    | .ok false =>
      match tree.askFile absolute with
      | .error fault => ⟨[], collector, .error (.path fault)⟩
      | .ok true => reporting collector (file tree config none p)
      | .ok false => ⟨[], collector, .error (.pathMissing p)⟩

/-- The scan of files and directories in the order in which they are given. -/
def paths (tree : FileTree) (config : RuleConfig) (onError : Schema.Check OnError) :
    List Path → Collector → Run
  | [], collector => ⟨[], collector, .ok []⟩
  | p :: rest, collector =>
    (path tree config onError p collector).andThen (paths tree config onError rest)

end Scan
end PoolLint
