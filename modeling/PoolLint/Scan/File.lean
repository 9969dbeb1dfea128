import PoolLint.Files.Resolve
import PoolLint.Scan.Source

/-! The scan of one file of a tree of files, and the name under which its findings are shown. -/
namespace PoolLint.Scan

/-- The path that is shown for a file. With a root it leads from there to the file, links resolved;
without one, a relative path is shown as it is given. -/
def shownPath (tree : FileTree) (root : Option Path) (p : Path) : Except Path Path :=
  match tree.resolve p with
  | .error at_ => .error at_
  | .ok absolute =>
    match root with
    | none => .ok (if p.isAbsolute then absolute else p)
    | some root =>
      match tree.resolve root with
      | .error at_ => .error at_
      | .ok base => .ok (absolute.relativeTo base)

def file (tree : FileTree) (config : RuleConfig) (root : Option Path) (p : Path) :
    Attempt ScanFault (List Diagnostic) :=
  match shownPath tree root p, tree.resolve p with
  | .error at_, _ | _, .error at_ => ⟨[], .error (.endlessLinks at_)⟩
  | .ok shown, .ok absolute =>
    match tree.read absolute with
    | .error fault => ⟨[], .error (.path fault)⟩
    | .ok bytes => ofBytes config shown bytes

end PoolLint.Scan
