import PoolLint.CommandLine.Outcome
import PoolLint.Proofs.FoundSources
import PoolLint.Proofs.RootedTrees

/-! What a run does to the files. Whatever the command line is, the tree that it leaves is the one that
it found with items put in, so that what holds of a file system before a run holds of it after. -/
namespace PoolLint
open FileTree

variable {tree : FileTree}

theorem FileTree.WellKept.grows {after : FileTree} (kept : tree.WellKept) (grows : tree.Grows after) :
    after.WellKept := by
  induction grows with
  | refl => exact kept
  | tail _ puts ih =>
    obtain ⟨names, item, noUp, -, rfl⟩ := puts
    exact ih.put noUp item

namespace Report

theorem writeText_outcome (tree : FileTree) (format : ReportFormat) (p : Path) (text : String) :
    (∃ written, tree.write p (Text.Utf8.encode text) = .ok written ∧
      writeText tree format p text = ⟨[], written, none⟩) ∨
    ∃ fault, writeText tree format p text = ⟨[.reportFailed format p], tree, some fault⟩ := by
  unfold writeText
  split
  · rename_i written done
    exact .inl ⟨written, done, rfl⟩
  · rename_i fault _
    exact .inr ⟨fault, rfl⟩

/-- The directory above a path is there or, if it is not, can be made. -/
def IsReady (tree : FileTree) (p : Path) : Prop :=
  tree.askThere p.parent = .ok true ∨
    tree.askThere p.parent = .ok false ∧ ∃ made, tree.ensureDirectories p.parent = .ok made

/-- A report is written as a text exactly if its directory is there or can be made. Directories that
have been made above it stay in any case. -/
theorem write_outcome (tree : FileTree) (format : ReportFormat) (indent : Option Int) (p : Path)
    (ds : List Diagnostic) :
    ∃ start, (start = tree ∨ start = left (tree.ensureDirectories p.parent)) ∧
      (IsReady tree p ∧
          write tree format indent p ds = writeText start format p (render format indent ds) ∨
        ¬ IsReady tree p ∧ ∃ fault, write tree format indent p ds = ⟨[], start, some fault⟩) := by
  unfold write IsReady
  dsimp only
  cases tree.askThere p.parent with
  | error fault => exact ⟨tree, .inl rfl, .inr ⟨by simp, fault, rfl⟩⟩
  | ok isThere =>
    cases isThere with
    | true => exact ⟨tree, .inl rfl, .inl ⟨.inl rfl, rfl⟩⟩
    | false =>
      refine ⟨_, .inr rfl, ?_⟩
      cases tree.ensureDirectories p.parent with
      | ok made => exact .inl ⟨.inr ⟨rfl, made, rfl⟩, rfl⟩
      | error stopped => exact .inr ⟨by simp, stopped.fault, rfl⟩

variable (rooted : tree.Rooted) (format : ReportFormat) (p : Path)
include rooted

theorem writeText_grows (text : String) : tree.Grows (writeText tree format p text).tree := by
  rcases writeText_outcome tree format p text with ⟨written, done, same⟩ | ⟨fault, same⟩
  · rw [same]
    exact .single (rooted.write done)
  · rw [same]

theorem write_grows (indent : Option Int) (ds : List Diagnostic) :
    tree.Grows (write tree format indent p ds).tree := by
  obtain ⟨start, source, outcome⟩ := write_outcome tree format indent p ds
  have grows : tree.Grows start := by
    rcases source with rfl | rfl
    · exact .refl
    · exact rooted.ensureDirectories p.parent
  rcases outcome with ⟨-, same⟩ | ⟨-, fault, same⟩
  · rw [same]
    exact grows.trans (writeText_grows (rooted.grows grows) format p _)
  · rw [same]
    exact grows

end Report

namespace CommandLine.Outcome

section Commands

variable (rooted : tree.Rooted)
include rooted

theorem ofFindings_grows (request : CheckRequest) (events : List Event) (ds : List Diagnostic) :
    tree.Grows (ofFindings tree request events ds).tree := by
  unfold ofFindings
  dsimp only
  split
  · exact .refl
  · rename_i p _
    have grows := Report.write_grows rooted request.format p Report.standardIndent ds
    split <;> exact grows

theorem ofRequest_grows (defaults : RuleConfig) (request : CheckRequest) :
    tree.Grows (ofRequest tree defaults request).tree := by
  unfold ofRequest
  split
  · exact .refl
  · split
    · exact .refl
    · unfold ofCheck
      dsimp only
      split
      · exact .refl
      · exact ofFindings_grows rooted request _ _

/-- A run puts a report and the directories above it in, and does nothing else to the files. -/
theorem ofArguments_grows (defaults : RuleConfig) (args : List String) :
    tree.Grows (ofArguments tree defaults args).tree := by
  unfold ofArguments
  split
  · exact .refl
  · rename_i command _
    cases command with
    | help => exact .refl
    | rules => exact .refl
    | check request => exact ofRequest_grows rooted defaults request

end Commands

/-- A run leaves a file system as one that the next run can start from. -/
theorem ofArguments_keeps (rooted : tree.Rooted) (kept : tree.WellKept) (defaults : RuleConfig)
    (args : List String) : (ofArguments tree defaults args).tree.Rooted ∧
      (ofArguments tree defaults args).tree.WellKept :=
  have grows := ofArguments_grows rooted defaults args
  ⟨rooted.grows grows, kept.grows grows⟩

/-- No run takes a directory away or puts something else in its place. -/
theorem ofArguments_directory (rooted : tree.Rooted) (defaults : RuleConfig) (args : List String)
    {names : List String} (here : tree.item? names = some .directory) :
    (ofArguments tree defaults args).tree.item? names = some .directory :=
  (ofArguments_grows rooted defaults args).item?_directory here

end CommandLine.Outcome
end PoolLint
