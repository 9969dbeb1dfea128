import PoolLint.Proofs.DiscoveredFiles
import PoolLint.Proofs.SkippedFiles

/-! The scan of a directory is made of the scans of its files, each for itself, in ascending order of
their paths. Neither the order in which the file system lists them nor what other files hold takes
part in it. -/
namespace PoolLint.Scan

open FileTree

/-- The bytes that the scan of a path reads are those of the file at a place. -/
def Reads (tree : FileTree) (p : Path) (names : List String) : Prop :=
  ∃ absolute item, tree.resolve p = .ok absolute ∧ tree.stat absolute = .ok (names, item)

theorem read_alike {tree other : FileTree} (alike : tree.Alike other) {p : Path}
    (same : ∀ names item, tree.stat p = .ok (names, item) → tree.item? names = other.item? names) :
    tree.read p = other.read p := by
  unfold FileTree.read
  rw [alike.unreadable]
  cases found : tree.stat p with
  | error fault => rw [alike.stat_error found]
  | ok reached =>
    obtain ⟨names, item⟩ := reached
    obtain ⟨item', there, -⟩ := alike.stat_ok found
    have here := item?_of_stat found
    rw [same names item found, item?_of_stat there] at here
    cases here
    rw [there]

theorem file_alike {tree other : FileTree} (alike : tree.Alike other) (config : RuleConfig)
    (root : Option Path) {p : Path}
    (same : ∀ names, Reads tree p names → tree.item? names = other.item? names) :
    file tree config root p = file other config root p := by
  have resolves : other.resolve = tree.resolve := (funext alike.resolve).symm
  have shown : shownPath other root p = shownPath tree root p := by
    unfold shownPath
    rw [resolves]
  unfold file
  rw [shown, resolves]
  cases resolved : tree.resolve p with
  | error at_ => cases shownPath tree root p <;> rfl
  | ok absolute =>
    have bytes : tree.read absolute = other.read absolute := by
      refine read_alike alike ?_
      intro names item found
      exact same names ⟨absolute, item, resolved, found⟩
    cases shownPath tree root p with
    | error at_ => rfl
    | ok shown =>
      dsimp only
      rw [bytes]

section Reordered

variable {tree other : FileTree} (distinct : tree.Distinct) (reorders : other.Reorders tree)
include distinct reorders

theorem file_reordered (config : RuleConfig) (root : Option Path) (p : Path) :
    file tree config root p = file other config root p := by
  -- at every place stands the same item, the bytes that are read among them
  refine file_alike (reorders.alike distinct) config root ?_
  intro names _
  exact distinct.item?_perm reorders.order names

theorem contribution_reordered (config : RuleConfig) (f : Option Path × Path) :
    contribution tree config f = contribution other config f := by
  unfold contribution
  rw [file_reordered distinct reorders]

variable (config : RuleConfig) (search : Search) (isDirectory : tree.isDirectory search.root)
  (collector : Collector)
include isDirectory

theorem directory_reordered {ps : List Path}
    (found : tree.sources search.options search.root = .ok ps) :
    directory other config search collector =
      files other config search.root search.onError ps collector := by
  have alike := reorders.alike distinct
  rw [directory_eq (alike.isDirectory _ ▸ isDirectory), alike.sources distinct found]

/-- What stops a search need not be the same in another order; that it is stopped is. -/
theorem directory_stopped (stopped : ¬ tree.Searchable search.options search.root) :
    ∃ fault, other.sources search.options search.root = .error fault ∧
      directory other config search collector = ⟨[], collector, .error (.path fault)⟩ := by
  have alike := reorders.alike distinct
  cases ends : other.sources search.options search.root with
  | ok ps =>
    exact absurd (alike.symm.searchable (sources_returns.mp ⟨ps, ends⟩)) stopped
  | error fault =>
    refine ⟨fault, rfl, ?_⟩
    rw [directory_eq (alike.isDirectory _ ▸ isDirectory), ends]

end Reordered

theorem files_raise {tree : FileTree} {config : RuleConfig} {root : Path} {ps : List Path}
    (all : ∀ p ∈ ps, ∃ ds, (file tree config (some root) p).result = .ok ds)
    (collector : Collector) :
    (files tree config root .raise ps collector).result =
      .ok (ps.flatMap fun p => contribution tree config (some root, p)) := by
  induction ps generalizing collector with
  | nil => rfl
  | cons p rest ih =>
    obtain ⟨⟨ds, ends⟩, others⟩ := List.forall_mem_cons.mp all
    have one := (reporting_result collector (file tree config (some root) p)).trans ends
    rw [files, Run.andThen_ok one, ih others]
    simp [Except.map, contribution, ends]

theorem files_raise_stop {tree : FileTree} {config : RuleConfig} {root p : Path}
    {before after : List Path} {fault : ScanFault}
    (all : ∀ q ∈ before, ∃ ds, (file tree config (some root) q).result = .ok ds)
    (fails : (file tree config (some root) p).result = .error fault) (collector : Collector) :
    (files tree config root .raise (before ++ p :: after) collector).result = .error fault := by
  induction before generalizing collector with
  | nil =>
    have one := (reporting_result collector (file tree config (some root) p)).trans fails
    exact Run.andThen_error one _
  | cons q before ih =>
    obtain ⟨⟨ds, ends⟩, others⟩ := List.forall_mem_cons.mp all
    have one := (reporting_result collector (file tree config (some root) q)).trans ends
    rw [List.cons_append, files, Run.andThen_ok one, ih others]
    rfl

/-- What the scan of a directory finds, in whatever order the items of the tree are listed. If the
directory can be searched: with failing files passed over, what the scans of its sources find one by
one, in strictly ascending order of their paths; otherwise the same if no source fails, and the fault
of the first one that does if one fails. If it cannot, every scan ends with what stops the search.
When a file gets other bytes, that shows only in scans that read this file. -/
theorem directory_merges_file_scans {tree : FileTree} (distinct : tree.Distinct)
    (config : RuleConfig) (root : Path) (options : SearchOptions)
    (isDirectory : tree.isDirectory root) :
    (tree.Searchable options root → ∃ ps, tree.sources options root = .ok ps ∧
      ps.Pairwise (fun p q => p.le q = true ∧ p ≠ q) ∧
      ∀ other : FileTree, other.Reorders tree → ∀ collector,
        (directory other config ⟨root, options, .skip⟩ collector).result =
          .ok (ps.flatMap fun p => contribution tree config (some root, p)) ∧
        ((∀ p ∈ ps, ∃ ds, (file tree config (some root) p).result = .ok ds) →
          (directory other config ⟨root, options, .raise⟩ collector).result =
            .ok (ps.flatMap fun p => contribution tree config (some root, p))) ∧
        ∀ before p after fault, ps = before ++ p :: after →
          (∀ q ∈ before, ∃ ds, (file tree config (some root) q).result = .ok ds) →
          (file tree config (some root) p).result = .error fault →
          (directory other config ⟨root, options, .raise⟩ collector).result = .error fault) ∧
    (¬ tree.Searchable options root → ∀ other : FileTree, other.Reorders tree →
      ∀ onError collector, ∃ fault, other.sources options root = .error fault ∧
        (directory other config ⟨root, options, onError⟩ collector).result =
          .error (.path fault)) ∧
    ∀ names old bytes, tree.item? names = some (.file old) →
      (∀ ps, tree.sources options root = .ok ps →
        (tree.put names (.file bytes)).sources options root = .ok ps) ∧
      ∀ p, ¬ Reads tree p names →
        file (tree.put names (.file bytes)) config (some root) p =
          file tree config (some root) p := by
  refine ⟨?_, ?_, ?_⟩
  · intro searchable
    obtain ⟨ps, found⟩ := sources_returns.mpr searchable
    refine ⟨ps, found, sources_ascending distinct found, ?_⟩
    intro other reorders collector
    have merged : (ps.flatMap fun p => contribution tree config (some root, p)) =
        ps.flatMap fun p => contribution other config (some root, p) :=
      List.flatMap_congr fun p _ => contribution_reordered distinct reorders config (some root, p)
    have one (p : Path) := file_reordered distinct reorders config (some root) p
    refine ⟨?_, ?_, ?_⟩
    · rw [directory_reordered distinct reorders config _ isDirectory collector found, files_skip,
        merged]
    · intro all
      rw [directory_reordered distinct reorders config _ isDirectory collector found, merged]
      simp only [one] at all
      exact files_raise all collector
    · intro before p after fault split passed fails
      rw [directory_reordered distinct reorders config _ isDirectory collector found, split]
      simp only [one] at passed fails
      exact files_raise_stop passed fails collector
  · intro stopped other reorders onError collector
    obtain ⟨fault, ends, run⟩ := directory_stopped distinct reorders config
      ⟨root, options, onError⟩ isDirectory collector stopped
    exact ⟨fault, ends, congrArg Run.result run⟩
  · intro names old bytes found
    have alike := alike_put distinct found bytes
    refine ⟨fun ps => alike.sources distinct, ?_⟩
    intro p unread
    refine (file_alike alike config (some root) ?_).symm
    intro place reads
    have elsewhere : place ≠ names := by
      rintro rfl
      exact unread reads
    exact (item?_put elsewhere).symm

/-- A source that is no text beside an empty one. -/
def brokenTree : FileTree :=
  (((FileTree.empty ["w"]).put ["w", "d"] .directory).put ["w", "d", "b.py"] (.file [255])).put
    ["w", "d", "c.py"] (.file [])

/-- The same with the empty source listed first. -/
def relistedTree : FileTree := { brokenTree with items := brokenTree.items.reverse }

theorem sources_of_met {tree : FileTree} {options : SearchOptions} {root : Path} {ps : List Path}
    (met : tree.sourcesMet options root = .ok ps)
    (sorted : ps.Pairwise fun p q => p.le q = true) : tree.sources options root = .ok ps :=
  sources_ok.mpr ⟨ps, met, (List.mergeSort_of_pairwise sorted).symm⟩

theorem brokenTree_merged :
    brokenTree.Distinct ∧ brokenTree.isDirectory ⟨0, ["d"]⟩ ∧
      brokenTree.Searchable .standard ⟨0, ["d"]⟩ ∧ relistedTree.Reorders brokenTree ∧
      brokenTree.sources .standard ⟨0, ["d"]⟩ = .ok [⟨0, ["d", "b.py"]⟩, ⟨0, ["d", "c.py"]⟩] ∧
      (directory relistedTree .standard ⟨⟨0, ["d"]⟩, .standard, .skip⟩ .empty).result = .ok [] ∧
      (directory relistedTree .standard ⟨⟨0, ["d"]⟩, .standard, .raise⟩ .empty).result =
        .error (.notUtf8 ⟨0, 1, 255, .invalidStart⟩) ∧
      file (brokenTree.put ["w", "d", "b.py"] (.file [])) .standard (some ⟨0, ["d"]⟩)
          ⟨0, ["d", "c.py"]⟩ =
        file brokenTree .standard (some ⟨0, ["d"]⟩) ⟨0, ["d", "c.py"]⟩ := by
  have distinct : brokenTree.Distinct := (((distinct_empty _).put _ _).put _ _).put _ _
  have isDirectory : brokenTree.isDirectory ⟨0, ["d"]⟩ := by decide
  have reorders : relistedTree.Reorders brokenTree :=
    ⟨(List.reverse_perm brokenTree.items).symm, rfl, rfl, rfl⟩
  have listed : brokenTree.sources .standard ⟨0, ["d"]⟩ =
      .ok [⟨0, ["d", "b.py"]⟩, ⟨0, ["d", "c.py"]⟩] :=
    sources_of_met (by decide +kernel) (by decide)
  have searchable := sources_returns.mp ⟨_, listed⟩
  have fails : (file brokenTree .standard (some ⟨0, ["d"]⟩) ⟨0, ["d", "b.py"]⟩).result =
    .error (.notUtf8 ⟨0, 1, 255, .invalidStart⟩) := rfl
  have passes : (file brokenTree .standard (some ⟨0, ["d"]⟩) ⟨0, ["d", "c.py"]⟩).result =
    .ok [] := rfl
  obtain ⟨merged, -, apart⟩ :=
    directory_merges_file_scans distinct .standard ⟨0, ["d"]⟩ .standard isDirectory
  obtain ⟨ps, found, -, ends⟩ := merged searchable
  cases listed.symm.trans found
  obtain ⟨skipped, -, stops⟩ := ends relistedTree reorders .empty
  refine ⟨distinct, isDirectory, searchable, reorders, listed, ?_, ?_, ?_⟩
  · rw [skipped]
    simp [contribution, fails, passes]
  · exact stops [] _ [⟨0, ["d", "c.py"]⟩] _ rfl (by simp) fails
  · refine (apart ["w", "d", "b.py"] [255] [] rfl).2 _ ?_
    rintro ⟨absolute, item, resolved, reached⟩
    cases resolved
    have elsewhere : brokenTree.stat ⟨1, ["w", "d", "c.py"]⟩ =
      .ok (["w", "d", "c.py"], .file []) := rfl
    have places : ["w", "d", "c.py"] = ["w", "d", "b.py"] :=
      congrArg Prod.fst (Except.ok.inj (elsewhere.symm.trans reached))
    exact absurd places (by decide)

/-- An empty source beside a link to a name that is too long to be looked up. -/
def strayLinkTree : FileTree :=
  (((FileTree.empty ["w"]).put ["w", "d"] .directory).put ["w", "d", "ok.py"] (.file [])).put
    ["w", "d", "x.py"] (.link ⟨0, [String.ofList (List.replicate 256 'n')]⟩)

/-- A scan that passes over failing files does not always return. -/
theorem strayLinkTree_stops :
    ¬ ∀ tree : FileTree, tree.Distinct → ∀ config root options, tree.isDirectory root →
      ∀ collector, ∃ ps : List Path, (∀ p ∈ ps, tree.ComesUpon options root p ∧ tree.isFile p) ∧
        (directory tree config ⟨root, options, .skip⟩ collector).result =
          .ok (ps.flatMap fun p => contribution tree config (some root, p)) := by
  intro always
  have distinct : strayLinkTree.Distinct := (((distinct_empty _).put _ _).put _ _).put _ _
  have isDirectory : strayLinkTree.isDirectory ⟨0, ["d"]⟩ := by decide +kernel
  obtain ⟨ps, -, ends⟩ := always strayLinkTree distinct .standard ⟨0, ["d"]⟩ .standard isDirectory
    .empty
  have stopped : strayLinkTree.sources .standard ⟨0, ["d"]⟩ = .error .tooLong := by
    have met : strayLinkTree.sourcesMet .standard ⟨0, ["d"]⟩ = .error .tooLong := by decide +kernel
    rw [FileTree.sources, met]
    rfl
  rw [directory_eq isDirectory] at ends
  dsimp only at ends
  rw [stopped] at ends
  cases ends

end PoolLint.Scan
