import Mathlib.Data.List.Induction
import PoolLint.Proofs.RootedTrees
import PoolLint.Scan.File

/-! The path under which a file is shown from a directory, read from that directory, leads to the file
again. What the directory and the file have in common is left out, and for every other name of the
directory the path goes up once. -/
namespace PoolLint

namespace FileTree

theorem collapse_concat (names : List String) (name : String) :
    collapse (names ++ [name]) =
      if name = ".." then (collapse names).dropLast else collapse names ++ [name] := by
  by_cases up : name = ".."
  · simp [collapse, up, List.dropLast_reverse]
  · simp [collapse, up]

theorem collapse_append (names : List String) {below : List String} (noUp : ".." ∉ below) :
    collapse (names ++ below) = collapse names ++ below := by
  induction below using List.reverseRecOn with
  | nil => simp
  | append_singleton below name ih =>
    have down : name ≠ ".." := by
      rintro rfl
      simp at noUp
    have others : ".." ∉ below := fun up => noUp (List.mem_append_left _ up)
    rw [← List.append_assoc, collapse_concat, if_neg down, ih others, List.append_assoc]

/-- Going up as often as there are names leaves what stands in front of them. -/
theorem collapse_up {names common up : List String} (collapsed : collapse names = common ++ up) :
    collapse (names ++ up.map fun _ => "..") = common := by
  induction up using List.reverseRecOn generalizing names with
  | nil => simpa using collapsed
  | append_singleton up name ih =>
    have above : collapse (names ++ [".."]) = common ++ up := by
      rw [collapse_concat, if_pos rfl, collapsed, ← List.append_assoc, List.dropLast_concat]
    have ups : (up ++ [name]).map (fun _ => "..") = ".." :: up.map fun _ => ".." := by
      rw [List.map_const', List.map_const', List.length_append, List.length_singleton,
        List.replicate_succ]
    rw [ups, List.append_cons]
    exact ih above

theorem noUp_collapse (names : List String) : ".." ∉ collapse names := by
  induction names using List.reverseRecOn with
  | nil => simp [collapse]
  | append_singleton names name ih =>
    rw [collapse_concat]
    split
    · exact fun up => ih (List.dropLast_subset _ up)
    · rename_i down
      simp [ih, Ne.symm down]

/-- What a path is resolved to starts at the top and does not go up. -/
theorem resolve_ok {t : FileTree} {p resolved : Path} (done : t.resolve p = .ok resolved) :
    resolved.slashes = 1 ∧ ".." ∉ resolved.names := by
  unfold resolve at done
  dsimp only at done
  split at done
  · cases done
  · cases done
    exact ⟨rfl, noUp_collapse _⟩

end FileTree

namespace Path

/-- A path without the names that go up, each of which takes the name before it along. -/
def collapsed (p : Path) : Path := ⟨p.slashes, FileTree.collapse p.names⟩

theorem dropCommon_eq (names others : List String) : ∃ common,
    names = common ++ (dropCommon names others).1 ∧
      others = common ++ (dropCommon names others).2 := by
  induction names generalizing others with
  | nil => exact ⟨[], by simp [dropCommon]⟩
  | cons name names ih =>
    cases others with
    | nil => exact ⟨[], by simp [dropCommon]⟩
    | cons other others =>
      by_cases same : name = other
      · obtain ⟨common, first, second⟩ := ih others
        refine ⟨name :: common, ?_, ?_⟩
        · simpa [dropCommon, same] using first
        · simpa [dropCommon, same] using second
      · exact ⟨[], by simp [dropCommon, same]⟩

theorem dropCommon_fst_eq_nil (names others : List String) :
    (dropCommon names others).1 = [] ↔ names <+: others := by
  induction names generalizing others with
  | nil => simp [dropCommon]
  | cons name names ih =>
    cases others with
    | nil => simp [dropCommon]
    | cons other others =>
      by_cases same : name = other
      · simp [dropCommon, same, ih]
      · simp [dropCommon, same]

theorem relativeTo_names (p directory : Path) : (p.relativeTo directory).names =
    (dropCommon directory.names p.names).1.map (fun _ => "..") ++
      (dropCommon directory.names p.names).2 := rfl

section Links

variable {p directory : Path}

theorem collapsed_join_relativeTo (same : p.slashes = directory.slashes)
    (noUp : ".." ∉ p.names) (noUpToo : ".." ∉ directory.names) :
    (directory.join (p.relativeTo directory)).collapsed = p := by
  obtain ⟨common, up, down⟩ := dropCommon_eq directory.names p.names
  have plain : FileTree.collapse directory.names = directory.names :=
    FileTree.collapse_of_noUp noUpToo
  have below : ".." ∉ (dropCommon directory.names p.names).2 := by
    intro inside
    rw [down] at noUp
    exact noUp (List.mem_append_right _ inside)
  have back : FileTree.collapse (directory.names ++ (p.relativeTo directory).names) = p.names := by
    rw [relativeTo_names, ← List.append_assoc, FileTree.collapse_append _ below,
      FileTree.collapse_up (plain.trans up), ← down]
  have relative : (p.relativeTo directory).isAbsolute = false := rfl
  simp [collapsed, join, relative, back, ← same]

theorem up_mem_relativeTo (noUp : ".." ∉ p.names) :
    ".." ∈ (p.relativeTo directory).names ↔ ¬ directory.names <+: p.names := by
  obtain ⟨common, -, down⟩ := dropCommon_eq directory.names p.names
  have below : ".." ∉ (dropCommon directory.names p.names).2 := by
    intro inside
    rw [down] at noUp
    exact noUp (List.mem_append_right _ inside)
  rw [relativeTo_names, ← dropCommon_fst_eq_nil]
  simp [below, List.eq_nil_iff_forall_not_mem]

end Links

end Path

namespace Scan
open FileTree

/-- The path that is shown for a file is relative. Read from the root of the scan it leads to the
file, going up exactly when the file does not lie below the root, so no other file is shown by it. -/
theorem shown_path_leads_back {tree : FileTree} {root p directory absolute : Path}
    (rootResolved : tree.resolve root = .ok directory) (fileResolved : tree.resolve p = .ok absolute) :
    ∃ shown, shownPath tree (some root) p = .ok shown ∧ shown.isAbsolute = false ∧
      (directory.join shown).collapsed = absolute ∧
      (".." ∈ shown.names ↔ ¬ directory.names <+: absolute.names) ∧
      ∀ q other, tree.resolve q = .ok other → shownPath tree (some root) q = .ok shown →
        other = absolute := by
  obtain ⟨top, noUp⟩ := resolve_ok rootResolved
  have shows : ∀ q other, tree.resolve q = .ok other →
      shownPath tree (some root) q = .ok (other.relativeTo directory) := by
    intro q other found
    simp [shownPath, found, rootResolved]
  have back : ∀ q other, tree.resolve q = .ok other →
      (directory.join (other.relativeTo directory)).collapsed = other := by
    intro q other found
    obtain ⟨topToo, noUpToo⟩ := resolve_ok found
    exact Path.collapsed_join_relativeTo (topToo.trans top.symm) noUpToo noUp
  refine ⟨_, shows p absolute fileResolved, rfl, back p absolute fileResolved,
    Path.up_mem_relativeTo (resolve_ok fileResolved).2, ?_⟩
  intro q other found same
  have paths : other.relativeTo directory = absolute.relativeTo directory :=
    Except.ok.inj ((shows q other found).symm.trans same)
  calc other = (directory.join (other.relativeTo directory)).collapsed := (back q other found).symm
    _ = (directory.join (absolute.relativeTo directory)).collapsed := by rw [paths]
    _ = absolute := back p absolute fileResolved

/-- A directory that is reached through a link, with a link to a file that stands beside it. -/
def linkedTree : FileTree :=
  ((((FileTree.empty ["w"]).put ["w", "d"] .directory).put ["w", "s.py"] (.file [])).put
    ["w", "d", "l.py"] (.link ⟨0, ["..", "s.py"]⟩)).put ["w", "r"] (.link ⟨0, ["d"]⟩)

theorem linkedTree_leads_back :
    linkedTree.resolve ⟨0, ["r"]⟩ = .ok ⟨1, ["w", "d"]⟩ ∧
      linkedTree.resolve ⟨0, ["r", "l.py"]⟩ = .ok ⟨1, ["w", "s.py"]⟩ ∧
      ∃ shown, shownPath linkedTree (some ⟨0, ["r"]⟩) ⟨0, ["r", "l.py"]⟩ = .ok shown ∧
        ((⟨1, ["w", "d"]⟩ : Path).join shown).collapsed = ⟨1, ["w", "s.py"]⟩ ∧
        ".." ∈ shown.names := by
  have rootResolved : linkedTree.resolve ⟨0, ["r"]⟩ = .ok ⟨1, ["w", "d"]⟩ := by decide +kernel
  have fileResolved : linkedTree.resolve ⟨0, ["r", "l.py"]⟩ = .ok ⟨1, ["w", "s.py"]⟩ := by
    decide +kernel
  obtain ⟨shown, isShown, -, back, goesUp, -⟩ := shown_path_leads_back rootResolved fileResolved
  exact ⟨rootResolved, fileResolved, shown, isShown, back, goesUp.mpr (by decide)⟩

end Scan
end PoolLint
