import Mathlib.Control.Monad.Basic
import PoolLint.Proofs.DirectoryWalks
import PoolLint.Proofs.RootedTrees
import PoolLint.Scan.Directory

/-! What a scan that passes over failing files returns. A file that fails in a directory is noted and
adds nothing. A file that is named by itself is not protected, and neither is the search for the
files of a directory: the first path that fails in one of these ways stops the scan of all. -/
namespace PoolLint.Scan
open FileTree

/-- The files that are scanned for a path, each with the root of its scan. -/
def filesAt (tree : FileTree) (p : Path) : List (Option Path × Path) :=
  if tree.isDirectory p then (returned (tree.sources .standard p)).map (some p, ·) else [(none, p)]

def contribution (tree : FileTree) (config : RuleConfig) (f : Option Path × Path) :
    List Diagnostic :=
  match (file tree config f.1 f.2).result with
  | .ok ds => ds
  | .error _ => []

def contributions (tree : FileTree) (config : RuleConfig) (ps : List Path) : List Diagnostic :=
  ps.flatMap fun p => (filesAt tree p).flatMap (contribution tree config)

/-- The files of a directory that is given by a path. Before they are searched for, the directory is
asked for by the path that this one is resolved to. -/
def searched (tree : FileTree) (p : Path) : Except PathFault (List Path) :=
  match tree.resolve p with
  | .error _ => .error .loop
  | .ok absolute =>
    if absolute.size ≤ maxPathSize then tree.sources .standard p else .error .tooLong

/-- Why the scan of a path fails even if failing files are passed over: the path names a file that
cannot be scanned, or a directory that cannot be searched. -/
inductive Fails (tree : FileTree) (config : RuleConfig) (p : Path) : ScanFault → Prop
  | file (fault : ScanFault) (isFile : tree.isFile p)
      (ends : (file tree config none p).result = .error fault) : Fails tree config p fault
  | directory (fault : PathFault) (isDirectory : tree.isDirectory p)
      (ends : searched tree p = .error fault) : Fails tree config p (.path fault)

def IsSafe (tree : FileTree) (config : RuleConfig) (p : Path) : Prop :=
  ∀ fault, ¬ Fails tree config p fault

namespace Run

theorem andThen_ok {first : Run} {ds : List Diagnostic} (done : first.result = .ok ds)
    (next : Collector → Run) :
    (first.andThen next).result = (next first.collector).result.map (ds ++ ·) := by
  simp [andThen, done]

theorem andThen_error {first : Run} {fault : ScanFault} (failed : first.result = .error fault)
    (next : Collector → Run) : (first.andThen next).result = .error fault := by
  simp [andThen, failed]

end Run

theorem reporting_result (collector : Collector)
    (attempt : Attempt ScanFault (List Diagnostic)) :
    (reporting collector attempt).result = attempt.result := by
  unfold reporting
  cases ends : attempt.result <;> rfl

theorem recovered_result (tree : FileTree) (config : RuleConfig) (root p : Path)
    (collector : Collector) (note : Event) :
    ((reporting collector (file tree config (some root) p)).recovered note).result =
      .ok (contribution tree config (some root, p)) := by
  have same := reporting_result collector (file tree config (some root) p)
  unfold Run.recovered contribution
  cases ends : (file tree config (some root) p).result with
  | ok ds =>
    rw [ends] at same
    rw [same]
    exact same
  | error fault =>
    rw [ends] at same
    rw [same]

theorem directory_eq {tree : FileTree} {search : Search}
    (isDirectory : tree.isDirectory search.root) (config : RuleConfig) (collector : Collector) :
    directory tree config search collector =
      match tree.sources search.options search.root with
      | .error fault => ⟨[], collector, .error (.path fault)⟩
      | .ok ps => files tree config search.root search.onError ps collector := by
  obtain ⟨place, found⟩ := isDirectory_iff.mp isDirectory
  have there : tree.askThere search.root = .ok true := ask_of_stat found
  have directoryThere : tree.askDirectory search.root = .ok true := ask_of_stat found
  unfold directory collected
  rw [there, directoryThere]
  dsimp only
  cases tree.sources search.options search.root <;> rfl

/-- No file of a directory stops a scan that passes over failing files. -/
theorem files_skip (tree : FileTree) (config : RuleConfig) (root : Path) (ps : List Path)
    (collector : Collector) :
    (files tree config root .skip ps collector).result =
      .ok (ps.flatMap fun p => contribution tree config (some root, p)) := by
  induction ps generalizing collector with
  | nil => rfl
  | cons p rest ih =>
    have one := recovered_result tree config root p collector (.fileFailed p)
    rw [files, Run.andThen_ok one, ih]
    rfl

section Existing

variable {tree : FileTree} (rooted : tree.Rooted) (config : RuleConfig) (collector : Collector)
  {p : Path}
include rooted

theorem path_directory (isDirectory : tree.isDirectory p) :
    (path tree config (.ok .skip) p collector).result = match searched tree p with
      | .ok ps => .ok (ps.flatMap fun q => contribution tree config (some p, q))
      | .error fault => .error (.path fault) := by
  obtain ⟨place, found⟩ := isDirectory_iff.mp isDirectory
  obtain ⟨resolved, itself⟩ := resolve_of_stat rooted found
  unfold path searched
  rw [resolved]
  dsimp only
  by_cases fits : (Path.mk 1 place).size ≤ maxPathSize
  · rw [if_pos fits] at itself ⊢
    have asked : tree.askDirectory ⟨1, place⟩ = .ok true := ask_of_stat itself
    rw [asked]
    dsimp only
    rw [directory_eq isDirectory]
    dsimp only
    cases tree.sources .standard p with
    | error fault => rfl
    | ok ps => exact files_skip tree config p ps collector
  · rw [if_neg fits] at itself ⊢
    have refused : tree.askDirectory ⟨1, place⟩ = .error .tooLong := by
      rw [askDirectory, ask, itself]
      rfl
    rw [refused]

theorem path_file (isFile : tree.isFile p) :
    (path tree config (.ok .skip) p collector).result = (file tree config none p).result := by
  obtain ⟨place, bytes, found⟩ := isFile_iff.mp isFile
  obtain ⟨resolved, itself⟩ := resolve_of_stat rooted found
  unfold path
  rw [resolved]
  dsimp only
  by_cases fits : (Path.mk 1 place).size ≤ maxPathSize
  · rw [if_pos fits] at itself
    have notDirectory : tree.askDirectory ⟨1, place⟩ = .ok false := ask_of_stat itself
    have asked : tree.askFile ⟨1, place⟩ = .ok true := ask_of_stat itself
    rw [notDirectory, asked]
    exact reporting_result collector _
  · -- the path that is resolved is too long to be asked for, and the file to be read
    rw [if_neg fits] at itself
    have refused : tree.askDirectory ⟨1, place⟩ = .error .tooLong := by
      rw [askDirectory, ask, itself]
      rfl
    have unread : tree.read ⟨1, place⟩ = .error .tooLong := by
      rw [FileTree.read, itself]
    rw [refused]
    simp [file, shownPath, resolved, unread]

theorem path_fails_iff (there : tree.isThere p) (fault : ScanFault) :
    (path tree config (.ok .skip) p collector).result = .error fault ↔
      Fails tree config p fault := by
  rcases (isThere_iff rooted p).mp there with isFile | isDirectory
  · rw [path_file rooted config collector isFile]
    constructor
    · intro ends
      exact .file fault isFile ends
    · intro fails
      cases fails with
      | file _ _ ends => exact ends
      | directory other isDirectory =>
        cases (not_isDirectory isFile).symm.trans isDirectory
  · rw [path_directory rooted config collector isDirectory]
    cases ends : searched tree p with
    | error other =>
      constructor
      · intro same
        cases same
        exact .directory other isDirectory ends
      · intro fails
        cases fails with
        | file _ isFile => cases (not_isDirectory isFile).symm.trans isDirectory
        | directory _ _ endsToo =>
          cases ends.symm.trans endsToo
          rfl
    | ok ps =>
      refine iff_of_false (fun same => ?_) (fun fails => ?_)
      · cases same
      · cases fails with
        | file _ isFile => cases (not_isDirectory isFile).symm.trans isDirectory
        | directory _ _ endsToo => cases ends.symm.trans endsToo

omit rooted in
theorem sources_of_searched {ps : List Path} (done : searched tree p = .ok ps) :
    tree.sources .standard p = .ok ps := by
  unfold searched at done
  split at done
  · cases done
  · split at done
    · exact done
    · cases done

theorem path_safe (there : tree.isThere p) (safe : IsSafe tree config p) :
    (path tree config (.ok .skip) p collector).result =
      .ok (contributions tree config [p]) := by
  cases ends : (path tree config (.ok .skip) p collector).result with
  | error fault =>
    have fails := (path_fails_iff rooted config collector there fault).mp ends
    exact absurd fails (safe fault)
  | ok ds =>
    rcases (isThere_iff rooted p).mp there with isFile | isDirectory
    · rw [path_file rooted config collector isFile] at ends
      simp [contributions, filesAt, not_isDirectory isFile, contribution, ends]
    · rw [path_directory rooted config collector isDirectory] at ends
      cases found : searched tree p with
      | error fault =>
        rw [found] at ends
        cases ends
      | ok ps =>
        rw [found] at ends
        cases ends
        simp [contributions, filesAt, isDirectory, sources_of_searched found, returned,
          Except.toOption, List.flatMap_map]

end Existing

theorem contributions_cons (tree : FileTree) (config : RuleConfig) (p : Path) (ps : List Path) :
    contributions tree config (p :: ps) =
      contributions tree config [p] ++ contributions tree config ps := by
  simp [contributions]

theorem safe_or_first (tree : FileTree) (config : RuleConfig) (ps : List Path) :
    (∀ p ∈ ps, IsSafe tree config p) ∨ ∃ before p after, ps = before ++ p :: after ∧
      (∀ q ∈ before, IsSafe tree config q) ∧ ¬ IsSafe tree config p := by
  induction ps with
  | nil =>
    left
    intro p member
    cases member
  | cons p rest ih =>
    by_cases safe : IsSafe tree config p
    · rcases ih with all | ⟨before, q, after, rfl, others, notSafe⟩
      · exact .inl (List.forall_mem_cons.mpr ⟨safe, all⟩)
      · exact .inr ⟨p :: before, q, after, rfl, List.forall_mem_cons.mpr ⟨safe, others⟩, notSafe⟩
    · right
      refine ⟨[], p, rest, rfl, ?_, safe⟩
      intro q member
      cases member

section Run

variable {tree : FileTree} (rooted : tree.Rooted) (config : RuleConfig)
include rooted

theorem paths_safe {ps : List Path} (there : ∀ p ∈ ps, tree.isThere p)
    (safe : ∀ p ∈ ps, IsSafe tree config p) (collector : Collector) :
    (paths tree config (.ok .skip) ps collector).result = .ok (contributions tree config ps) := by
  induction ps generalizing collector with
  | nil => rfl
  | cons p rest ih =>
    obtain ⟨thereFirst, thereRest⟩ := List.forall_mem_cons.mp there
    obtain ⟨safeFirst, safeRest⟩ := List.forall_mem_cons.mp safe
    have first := path_safe rooted config collector thereFirst safeFirst
    rw [paths, Run.andThen_ok first, ih thereRest safeRest]
    exact congrArg Except.ok (contributions_cons tree config p rest).symm

theorem paths_stop {before after : List Path} {p : Path} {fault : ScanFault}
    (there : ∀ q ∈ before ++ p :: after, tree.isThere q)
    (safe : ∀ q ∈ before, IsSafe tree config q) (fails : Fails tree config p fault)
    (collector : Collector) :
    (paths tree config (.ok .skip) (before ++ p :: after) collector).result = .error fault := by
  induction before generalizing collector with
  | nil =>
    have here := (List.forall_mem_cons.mp there).1
    have stopped := (path_fails_iff rooted config collector here fault).mpr fails
    exact Run.andThen_error stopped _
  | cons q before ih =>
    obtain ⟨thereFirst, thereRest⟩ := List.forall_mem_cons.mp there
    obtain ⟨safeFirst, safeRest⟩ := List.forall_mem_cons.mp safe
    have first := path_safe rooted config collector thereFirst safeFirst
    rw [List.cons_append, paths, Run.andThen_ok first, ih thereRest safeRest]
    rfl

/-- A scan of paths that are there, with failing files passed over, returns what all files add that
can be scanned exactly when every file named by itself can, and every directory can be searched.
Otherwise it ends with the fault of the first of these paths. -/
theorem skip_ends_at_first_failing (ps : List Path) (there : ∀ p ∈ ps, tree.isThere p)
    (collector : Collector) :
    ((paths tree config (.ok .skip) ps collector).result = .ok (contributions tree config ps) ↔
      ∀ p ∈ ps, IsSafe tree config p) ∧
    ∀ fault, (paths tree config (.ok .skip) ps collector).result = .error fault ↔
      ∃ before p after, ps = before ++ p :: after ∧ (∀ q ∈ before, IsSafe tree config q) ∧
        Fails tree config p fault := by
  have stop : ∀ before p after fault, ps = before ++ p :: after →
      (∀ q ∈ before, IsSafe tree config q) → Fails tree config p fault →
      (paths tree config (.ok .skip) ps collector).result = .error fault := by
    rintro before p after fault rfl safe fails
    exact paths_stop rooted config there safe fails collector
  rcases safe_or_first tree config ps with safe | ⟨before, p, after, split, safe, notSafe⟩
  · have done := paths_safe rooted config there safe collector
    refine ⟨⟨fun _ => safe, fun _ => done⟩, ?_⟩
    intro fault
    constructor
    · intro fails
      cases done.symm.trans fails
    · rintro ⟨before, p, after, split, others, fails⟩
      exact stop before p after fault split others fails
  · obtain ⟨first, fails⟩ : ∃ fault, Fails tree config p fault := by
      simpa [IsSafe] using notSafe
    have stopped := stop before p after first split safe fails
    refine ⟨⟨?_, ?_⟩, ?_⟩
    · intro done
      cases stopped.symm.trans done
    · intro all
      exact absurd (all p (by simp [split])) notSafe
    · intro fault
      constructor
      · intro ends
        cases stopped.symm.trans ends
        exact ⟨before, p, after, split, safe, fails⟩
      · rintro ⟨before, p, after, split, others, fails⟩
        exact stop before p after fault split others fails

end Run

/-- A file without text stands beside a directory whose only source file is no text. -/
def mixedTree : FileTree :=
  (((FileTree.empty ["w"]).put ["w", "d"] .directory).put ["w", "d", "b.py"]
    (.file [255])).put ["w", "a.py"] (.file [])

theorem mixedTree_passes :
    mixedTree.Rooted ∧ (∀ p ∈ [⟨0, ["d"]⟩, ⟨0, ["a.py"]⟩], mixedTree.isThere p) ∧
    (paths mixedTree .standard (.ok .skip) [⟨0, ["d"]⟩, ⟨0, ["a.py"]⟩] .empty).result =
      .ok (contributions mixedTree .standard [⟨0, ["d"]⟩, ⟨0, ["a.py"]⟩]) := by
  have rooted : mixedTree.Rooted :=
    (((rooted_empty (by decide) (by decide)).put (by decide)).put (by decide)).put (by decide)
  have there : ∀ p ∈ [⟨0, ["d"]⟩, ⟨0, ["a.py"]⟩], mixedTree.isThere p := by decide +kernel
  refine ⟨rooted, there, ?_⟩
  apply (skip_ends_at_first_failing rooted .standard _ there .empty).1.mpr
  have directory : IsSafe mixedTree .standard ⟨0, ["d"]⟩ := by
    rintro fault (⟨-, isFile⟩ | ⟨stopped, -, ends⟩)
    · exact absurd isFile (by decide +kernel)
    · have met : mixedTree.sourcesMet .standard ⟨0, ["d"]⟩ = .ok [⟨0, ["d", "b.py"]⟩] := by
        decide +kernel
      have found : searched mixedTree ⟨0, ["d"]⟩ = mixedTree.sources .standard ⟨0, ["d"]⟩ := rfl
      cases (found.symm.trans ends).symm.trans (sources_ok.mpr ⟨_, met, rfl⟩)
  have empty : IsSafe mixedTree .standard ⟨0, ["a.py"]⟩ := by
    rintro fault (⟨_, -, ends⟩ | ⟨_, isDirectory⟩)
    · cases ends
    · exact absurd isDirectory (by decide +kernel)
  simp [directory, empty]

def unreadableTree : FileTree := (FileTree.empty ["w"]).put ["w", "a.py"] (.file [255])

/-- A failing file that is named by itself is not passed over. -/
theorem unreadableTree_stops :
    ¬ ∀ (tree : FileTree), tree.Rooted → ∀ config ps, (∀ p ∈ ps, tree.isThere p) → ∀ collector,
      (paths tree config (.ok .skip) ps collector).result =
        .ok (contributions tree config ps) := by
  intro always
  have rooted : unreadableTree.Rooted :=
    (rooted_empty (by decide) (by decide)).put (by decide)
  have returned := always unreadableTree rooted .standard [⟨0, ["a.py"]⟩] (by decide) .empty
  have stopped : (paths unreadableTree .standard (.ok .skip) [⟨0, ["a.py"]⟩] .empty).result =
      .error (.notUtf8 ⟨0, 1, 255, .invalidStart⟩) := rfl
  cases stopped.symm.trans returned

end PoolLint.Scan
