import PoolLint.Scan.Directory

/-! What a scan leaves in its collector. A run works off steps one behind the other: files, and paths
from which no file can be scanned. Whether it returns or stops, the collector has gained what the
steps behind it have found, in order, and nothing of the step at which it stops. -/
namespace PoolLint

theorem Collector.diagnostics_reportAll (collector : Collector) (ds : List Diagnostic) :
    (collector.reportAll ds).diagnostics = collector.diagnostics ++ ds := by
  induction ds generalizing collector with
  | nil => simp [reportAll]
  | cons d ds ih =>
    have first := ih (collector.report d)
    simpa [reportAll, report] using first

namespace Scan

section Map

variable {ε α β : Type} {f : α → β} {x : Except ε α}

private theorem of_map_ok {b : β} (done : x.map f = .ok b) : ∃ a, x = .ok a ∧ f a = b := by
  cases x with
  | error e => cases done
  | ok a => exact ⟨a, rfl, Except.ok.inj done⟩

private theorem of_map_error {e : ε} (failed : x.map f = .error e) : x = .error e := by
  cases x with
  | error other => exact congrArg Except.error (Except.error.inj failed)
  | ok a => cases failed

end Map

/-- A step of a run. A file is spared when the run goes on behind it even though it fails. -/
inductive Step where
  | blocked (fault : ScanFault)
  | file (root : Option Path) (p : Path) (isSpared : Bool)

/-- The steps of the scan of a directory: its files, unless these cannot be told. -/
def directorySteps (tree : FileTree) (search : Search) : List Step :=
  match collected tree search with
  | .error fault => [.blocked fault]
  | .ok ps => ps.map fun p => .file (some search.root) p (search.onError == .skip)

/-- The steps of the scan of what a path leads to. A file that is named by itself is not spared. -/
def pathSteps (tree : FileTree) (onError : Schema.Check OnError) (p : Path) : List Step :=
  match tree.resolve p with
  | .error at_ => [.blocked (.pathEndless p at_)]
  | .ok absolute =>
    match tree.askDirectory absolute with
    | .error fault => [.blocked (.path fault)]
    | .ok true =>
      match onError with
      | .error problems => [.blocked (.request problems)]
      | .ok onError => directorySteps tree ⟨p, .standard, onError⟩
    | .ok false =>
      match tree.askFile absolute with
      | .error fault => [.blocked (.path fault)]
      | .ok true => [.file none p false]
      | .ok false => [.blocked (.pathMissing p)]

section Accounts

variable (tree : FileTree) (config : RuleConfig)

def Step.result : Step → Except ScanFault (List Diagnostic)
  | .blocked fault => .error fault
  | .file root p _ => (Scan.file tree config root p).result

/-- What a step adds. A file that fails adds nothing. -/
def Step.gain (s : Step) : List Diagnostic :=
  match s.result tree config with
  | .ok ds => ds
  | .error _ => []

/-- The run goes on behind a step. -/
inductive Step.Passes (s : Step) : Prop
  | scanned (ds : List Diagnostic) (done : s.result tree config = .ok ds)
  | spared (root : Option Path) (p : Path) (skipped : s = .file root p true)

/-- The run ends at a step. -/
structure Step.Stops (s : Step) (fault : ScanFault) : Prop where
  fails : s.result tree config = .error fault
  kept : ∀ root p, s ≠ .file root p true

/-- A run over steps with a collector: what it returns is what it adds to the collector, and when it
stops, it has added what the steps before have found. -/
structure Accounts (collector : Collector) (steps : List Step) (run : Run) : Prop where
  returned : ∀ ds, run.result = .ok ds → run.collector.diagnostics = collector.diagnostics ++ ds ∧
    ds = steps.flatMap (Step.gain tree config) ∧ ∀ s ∈ steps, s.Passes tree config
  stopped : ∀ fault, run.result = .error fault → ∃ done s rest, steps = done ++ s :: rest ∧
    (∀ d ∈ done, d.Passes tree config) ∧ s.Stops tree config fault ∧
    run.collector.diagnostics = collector.diagnostics ++ done.flatMap (Step.gain tree config)

namespace Accounts

variable {tree config} {collector : Collector}

theorem none (events : List Event) : Accounts tree config collector [] ⟨events, collector, .ok []⟩ where
  returned := by
    intro ds done
    cases done
    simp
  stopped := by
    intro fault fails
    cases fails

theorem blocked (events : List Event) (fault : ScanFault) :
    Accounts tree config collector [.blocked fault] ⟨events, collector, .error fault⟩ where
  returned := by
    intro ds done
    cases done
  stopped := by
    intro fault fails
    cases fails
    refine ⟨[], .blocked fault, [], rfl, by simp, ⟨rfl, ?_⟩, by simp⟩
    intro root p same
    cases same

theorem reporting (root : Option Path) (p : Path) :
    Accounts tree config collector [.file root p false]
      (Scan.reporting collector (Scan.file tree config root p)) := by
  unfold Scan.reporting
  cases ends : (Scan.file tree config root p).result with
  | ok found =>
    refine ⟨?_, ?_⟩
    · intro ds done
      cases done
      refine ⟨Collector.diagnostics_reportAll collector found, ?_, ?_⟩
      · simp [Step.gain, Step.result, ends]
      · intro s member
        cases List.mem_singleton.mp member
        exact .scanned found ends
    · intro fault fails
      cases fails
  | error fault =>
    refine ⟨?_, ?_⟩
    · intro ds done
      cases done
    · intro fault fails
      cases fails
      refine ⟨[], .file root p false, [], rfl, by simp, ⟨ends, ?_⟩, by simp⟩
      intro root p same
      cases same

theorem recovered (root : Option Path) (p : Path) (note : Event) :
    Accounts tree config collector [.file root p true]
      ((Scan.reporting collector (Scan.file tree config root p)).recovered note) := by
  have spared : ∀ s ∈ [Step.file root p true], s.Passes tree config := by
    intro s member
    cases List.mem_singleton.mp member
    exact .spared root p rfl
  unfold Scan.reporting Run.recovered
  cases ends : (Scan.file tree config root p).result with
  | ok found =>
    refine ⟨?_, ?_⟩
    · intro ds done
      cases done
      refine ⟨Collector.diagnostics_reportAll collector found, ?_, spared⟩
      simp [Step.gain, Step.result, ends]
    · intro fault fails
      cases fails
  | error fault =>
    refine ⟨?_, ?_⟩
    · intro ds done
      cases done
      exact ⟨by simp, by simp [Step.gain, Step.result, ends], spared⟩
    · intro fault fails
      cases fails

/-- The accounts of two runs, one behind the other. -/
theorem andThen {first : Run} {next : Collector → Run} {steps later : List Step}
    (before : Accounts tree config collector steps first)
    (behind : ∀ collector, Accounts tree config collector later (next collector)) :
    Accounts tree config collector (steps ++ later) (first.andThen next) := by
  have after := behind first.collector
  unfold Run.andThen
  cases ends : first.result with
  | error fault =>
    refine ⟨?_, ?_⟩
    · intro ds done
      cases done
    · intro fault fails
      cases fails
      obtain ⟨done, s, rest, split, passed, stops, kept⟩ := before.stopped fault ends
      exact ⟨done, s, rest ++ later, by simp [split], passed, stops, kept⟩
  | ok found =>
    obtain ⟨kept, gained, passed⟩ := before.returned found ends
    refine ⟨?_, ?_⟩
    · intro ds done
      obtain ⟨others, goesOn, rfl⟩ := of_map_ok done
      obtain ⟨keptToo, gainedToo, passedToo⟩ := after.returned others goesOn
      refine ⟨by rw [keptToo, kept, List.append_assoc], ?_, ?_⟩
      · rw [gained, gainedToo, List.flatMap_append]
      · exact List.forall_mem_append.mpr ⟨passed, passedToo⟩
    · intro fault fails
      -- the steps of the first run have all passed when the second one stops
      have goesOn := of_map_error fails
      obtain ⟨done, s, rest, split, passedToo, stops, keptToo⟩ := after.stopped fault goesOn
      refine ⟨steps ++ done, s, rest, by simp [split], ?_, stops, ?_⟩
      · exact List.forall_mem_append.mpr ⟨passed, passedToo⟩
      · rw [keptToo, kept, gained, List.flatMap_append, List.append_assoc]

theorem files (root : Path) (onError : OnError) (ps : List Path) (collector : Collector) :
    Accounts tree config collector (ps.map fun p => .file (some root) p (onError == .skip))
      (Scan.files tree config root onError ps collector) := by
  induction ps generalizing collector with
  | nil => exact none []
  | cons p rest ih =>
    cases onError with
    | raise => exact (reporting (some root) p).andThen ih
    | skip => exact (recovered (some root) p (.fileFailed p)).andThen ih

theorem directory (search : Search) (collector : Collector) :
    Accounts tree config collector (directorySteps tree search)
      (Scan.directory tree config search collector) := by
  unfold directorySteps Scan.directory
  cases collected tree search with
  | error fault => exact blocked [] fault
  | ok ps => exact files search.root search.onError ps collector

theorem path (onError : Schema.Check OnError) (p : Path) (collector : Collector) :
    Accounts tree config collector (pathSteps tree onError p)
      (Scan.path tree config onError p collector) := by
  unfold pathSteps Scan.path
  cases tree.resolve p with
  | error at_ => exact blocked [] _
  | ok absolute =>
    dsimp only
    cases tree.askDirectory absolute with
    | error fault => exact blocked [] _
    | ok isDirectory =>
      cases isDirectory with
      | true =>
        cases onError with
        | error problems => exact blocked [] _
        | ok onError => exact directory _ collector
      | false =>
        cases tree.askFile absolute with
        | error fault => exact blocked [] _
        | ok isFile =>
          cases isFile with
          | true => exact reporting Option.none p
          | false => exact blocked [] _

theorem paths (onError : Schema.Check OnError) (ps : List Path) (collector : Collector) :
    Accounts tree config collector (ps.flatMap (pathSteps tree onError))
      (Scan.paths tree config onError ps collector) := by
  induction ps generalizing collector with
  | nil => exact none []
  | cons p rest ih => exact (path onError p collector).andThen ih

end Accounts

/-- The scan of a file, of a directory and of a list of paths add to the collector what they return.
A scan that stops has added what was found before the file at which it stops. -/
theorem scan_adds_what_it_returns (collector : Collector) :
    (∀ root p, Accounts tree config collector [.file root p false]
      (reporting collector (file tree config root p))) ∧
    (∀ search, Accounts tree config collector (directorySteps tree search)
      (directory tree config search collector)) ∧
    ∀ onError ps, Accounts tree config collector (ps.flatMap (pathSteps tree onError))
      (paths tree config onError ps collector) := by
  refine ⟨?_, ?_, ?_⟩
  · intro root p
    exact .reporting root p
  · intro search
    exact .directory search collector
  · intro onError ps
    exact .paths onError ps collector

end Accounts

end Scan
end PoolLint
