import PoolLint.Proofs.KeptTrees
import PoolLint.Proofs.MadeDirectories

/-! What is logged when a report is written. One that is written has directories all the way above it,
and nothing is logged. One that cannot be opened is logged once. But where the directories above it
cannot be made, or not even asked for, nothing is logged either, as anywhere below a file but
directly. Directories that are merely missing are made. -/
namespace PoolLint

namespace Report
open FileTree

/-- How a report that could not be written shows in a log. -/
def failureLine (format : ReportFormat) (p : Path) : String :=
  "ERROR Failed to write " ++ format.title ++ " report to " ++ p.text

theorem line_reportFailed (format : ReportFormat) (p : Path) :
    (Event.reportFailed format p).line = failureLine format p := by
  have line : (Event.reportFailed format p).line =
      "ERROR" ++ " " ++ (Event.reportFailed format p).message := rfl
  have message : (Event.reportFailed format p).message =
      "Failed to write " ++ format.title ++ " report to " ++ p.text := rfl
  have start : "ERROR Failed to write " = "ERROR" ++ " " ++ "Failed to write " := rfl
  rw [line, message]
  unfold failureLine
  simp only [start, String.append_assoc]

section Below

variable {tree : FileTree} {q : Path} (format : ReportFormat) (indent : Option Int)
  (ds : List Diagnostic)

theorem write_below_file {place tail : List String} {bytes : List Nat}
    (fits : (q.below tail).size ≤ maxPathSize) (isFile : tree.stat q = .ok (place, .file bytes))
    (below : tail ≠ []) : write tree format indent (q.below tail) ds =
      ⟨if tail.length = 1 then [.reportFailed format (q.below tail)] else [], tree,
        some .notDirectory⟩ := by
  obtain ⟨name, rest, rfl⟩ := List.exists_cons_of_ne_nil below
  have parent := Path.parent_below q below
  have fitsAbove : (q.below (name :: rest).dropLast).size ≤ maxPathSize := by
    rw [← parent]
    exact Nat.le_trans (Path.size_parent_le _) fits
  cases rest with
  | nil =>
    rw [List.dropLast_singleton, Path.below_nil] at parent
    have there : tree.askThere q = .ok true := ask_of_stat isFile
    have fails (content : List Nat) :
        tree.write (q.below [name]) content = .error .notDirectory := by
      rw [FileTree.write, follow_below_file fits isFile]
    simp [write, writeText, parent, there, fails]
  | cons next rest =>
    have inside : (name :: next :: rest).dropLast ≠ [] := by simp
    have missing : tree.askThere (q.below (name :: next :: rest).dropLast) = .ok false := by
      rw [askThere, ask, stat_below_file fitsAbove isFile inside]
      rfl
    have unmade := ensureDirectories_below_file fitsAbove isFile inside
    simp only [write, parent, missing, unmade]
    simp

/-- However many directories are missing above it, up to the limit, a report is written below a
directory that has nothing of the first name. -/
theorem write_below_free {base rest : List String} {name : String}
    (fits : (q.below (name :: rest)).size ≤ maxPathSize) (few : rest.length ≤ maxNested)
    (short : ∀ n ∈ name :: rest, n.utf8ByteSize ≤ maxNameSize) (noUp : ".." ∉ name :: rest)
    (here : tree.stat q = .ok (base, .directory)) (opened : tree.opened base = .ok ())
    (free : tree.IsFree (base ++ [name])) :
    (write tree format indent (q.below (name :: rest)) ds).fault = none := by
  have isDown : name ≠ ".." := by
    rintro rfl
    exact noUp (by simp)
  have freeName := lookUp_free opened (short name (by simp)) free
  rcases List.eq_nil_or_concat rest with rfl | ⟨front, last, rfl⟩
  · have there : tree.askThere q = .ok true := ask_of_stat here
    rw [Path.below_singleton] at fits ⊢
    simp [write, writeText, there, write_free fits here isDown freeName]
  · rw [List.concat_eq_append] at few fits short noUp ⊢
    rw [← List.cons_append] at fits short noUp ⊢
    rw [Path.below_concat] at fits ⊢
    have fitsAbove := Nat.le_trans (Path.size_le_child _ last) fits
    obtain ⟨noUpAbove, lastDown⟩ := noUp_concat noUp
    have enough : front.length < maxNested := by
      rw [List.length_append, List.length_singleton] at few
      omega
    obtain ⟨made, done, found, openedToo, empty⟩ := ensureFrom_free here opened fitsAbove noUpAbove
      (fun n inside => short n (List.mem_append_left _ inside)) free enough
    have freeLast := lookUp_free openedToo (short last (by simp)) (empty last)
    have missing : tree.askThere (q.below (name :: front)) = .ok false := by
      rw [askThere, ask, stat_below_free fitsAbove here isDown freeName]
      rfl
    simp [write, writeText, missing, ensureDirectories, done,
      write_free fits found lastDown freeLast]

end Below

section Outcome

variable {tree : FileTree} {format : ReportFormat} {indent : Option Int} {p : Path}
  {ds : List Diagnostic}

theorem write_done (done : (write tree format indent p ds).fault = none) :
    (write tree format indent p ds).events = [] ∧ ∀ q tail, p = q.below tail → tail ≠ [] →
      (write tree format indent p ds).tree.isDirectory q := by
  obtain ⟨start, -, ⟨-, whole⟩ | ⟨-, fault, whole⟩⟩ := write_outcome tree format indent p ds
  · rcases writeText_outcome start format p (render format indent ds) with
      ⟨written, put, text⟩ | ⟨fault, text⟩
    · rw [whole, text]
      refine ⟨rfl, ?_⟩
      rintro q tail rfl above
      exact isDirectory_of_write put above
    · rw [whole, text] at done
      cases done
  · rw [whole] at done
    cases done

theorem write_failed (failed : (write tree format indent p ds).fault ≠ none) :
    (IsReady tree p → (write tree format indent p ds).events = [.reportFailed format p]) ∧
      (¬ IsReady tree p → (write tree format indent p ds).events = []) := by
  obtain ⟨start, -, ⟨isReady, whole⟩ | ⟨notReady, fault, whole⟩⟩ :=
    write_outcome tree format indent p ds
  · refine ⟨fun _ => ?_, fun notReady => absurd isReady notReady⟩
    rcases writeText_outcome start format p (render format indent ds) with
      ⟨written, -, text⟩ | ⟨fault, text⟩
    · exact absurd (by rw [whole, text]) failed
    · rw [whole, text]
  · refine ⟨fun isReady => absurd isReady notReady, fun _ => ?_⟩
    rw [whole]

end Outcome

/-- A report that is written has directories all the way above it, and nothing is logged. If it is not,
then one error is logged exactly if the directory above it was there or, not being there, could be
made; otherwise nothing is. A report below a file is not written in any case, and logged only if it is
directly below. One below a directory that has nothing of the first name is written, if nothing on the
way is too long and no more directories are missing than can be made in one go. -/
theorem failures_logged_iff_ready (tree : FileTree) (format : ReportFormat) (indent : Option Int)
    (p : Path) (ds : List Diagnostic) :
    let outcome := write tree format indent p ds
    let lines := outcome.events.map Event.line
    (outcome.fault = none →
      lines = [] ∧ ∀ q tail, p = q.below tail → tail ≠ [] → outcome.tree.isDirectory q) ∧
    (outcome.fault ≠ none →
      (IsReady tree p → lines = [failureLine format p]) ∧ (¬ IsReady tree p → lines = [])) ∧
    (∀ q tail place bytes, p = q.below tail → tail ≠ [] → p.size ≤ maxPathSize →
      tree.stat q = .ok (place, .file bytes) →
      outcome.fault = some .notDirectory ∧ outcome.tree = tree ∧
        lines = if tail.length = 1 then [failureLine format p] else []) ∧
    ∀ q base name rest, p = q.below (name :: rest) → p.size ≤ maxPathSize →
      rest.length ≤ maxNested → (∀ n ∈ name :: rest, n.utf8ByteSize ≤ maxNameSize) →
      ".." ∉ name :: rest → tree.stat q = .ok (base, .directory) → tree.opened base = .ok () →
      tree.IsFree (base ++ [name]) → outcome.fault = none := by
  intro outcome lines
  refine ⟨?_, ?_, ?_, ?_⟩
  · intro done
    obtain ⟨events, directories⟩ := write_done done
    exact ⟨by simp only [lines, outcome, events, List.map_nil], directories⟩
  · intro failed
    obtain ⟨ifReady, ifNot⟩ := write_failed failed
    refine ⟨fun isReady => ?_, fun notReady => ?_⟩
    · simp only [lines, outcome, ifReady isReady, List.map_cons, List.map_nil, line_reportFailed]
    · simp only [lines, outcome, ifNot notReady, List.map_nil]
  · rintro q tail place bytes rfl below fits isFile
    have whole : outcome = _ := write_below_file format indent ds fits isFile below
    refine ⟨by rw [whole], by rw [whole], ?_⟩
    simp only [lines, whole]
    split
    · simp [line_reportFailed]
    · rfl
  · rintro q base name rest rfl fits few short noUp here opened free
    exact write_below_free format indent ds fits few short noUp here opened free

/-- Two directories are missing between a file and the report. -/
theorem blockedReport_unlogged :
    let tree := (FileTree.empty ["w"]).put ["w", "a"] (.file [120])
    let outcome := write tree .json standardIndent ⟨0, ["a", "b", "out.json"]⟩ []
    outcome.fault = some .notDirectory ∧ outcome.events = [] := by
  decide +kernel

end Report
end PoolLint
