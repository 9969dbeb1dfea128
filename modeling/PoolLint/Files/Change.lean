import PoolLint.Files.Tree

/-! The files by which one tree differs from an earlier one. -/
namespace PoolLint.FileTree

/-- The files that are new or hold other bytes than before. -/
def changes (before after : FileTree) : List (List String × List Nat) :=
  after.items.filterMap fun i =>
    match i.2 with
    | .file bytes => if before.item? i.1 == some i.2 then none else some (i.1, bytes)
    | _ => none

end PoolLint.FileTree
