import PoolLint.Files.Tree

/-! Paths without links and without names that go up. A path through links that lead to each other
has no such form. -/
namespace PoolLint
namespace FileTree

/-- Takes names that go up out of a list, each with the name before it. -/
def collapse (names : List String) : List String :=
  (names.foldl (fun done name => if name == ".." then done.tail else name :: done) []).reverse

/-- The names that links stand for, all told. -/
def linkSize (t : FileTree) : Nat :=
  t.items.foldl (fun n i => match i.2 with
    | .link target => n + target.names.length + 1
    | _ => n) 0

/-- What a place that is looked up from the top links to. -/
def linkAt? (t : FileTree) (names : List String) : Option Path :=
  match t.reach [] names with
  | .link _ target [] => some target
  | _ => none

/-- Replaces links from a place on. `open_` holds the links that are being replaced: one that is met
again stays, and so does all that follows it. The answer tells whether that happened nowhere. Each
link is entered once on the way down, so that their sizes bound the depth. -/
def unlinkFrom (t : FileTree) : Nat → List (List String) → List String → List String →
    List String × Bool
  | 0, _, current, names => (current ++ names, false)
  | _ + 1, _, current, [] => (current, true)
  | fuel + 1, open_, current, name :: rest =>
    if name == ".." then t.unlinkFrom fuel open_ current.dropLast rest
    else
      let next := current ++ [name]
      match t.linkAt? next with
      | some target =>
        if open_.contains next then (next ++ rest, false)
        else
          let start := if target.isAbsolute then [] else current
          match t.unlinkFrom fuel (next :: open_) start target.names with
          | (names, true) => t.unlinkFrom fuel open_ names rest
          | (names, false) => (names ++ rest, false)
      | none => t.unlinkFrom fuel open_ next rest

/-- The path without links that leads to the same place, whether there is anything or not. Links
that lead to each other are an error, which holds how far the path got. -/
def resolve (t : FileTree) (p : Path) : Except Path Path :=
  let names := (t.unlinkFrom (p.names.length + t.linkSize + 1) [] (t.startOf p) p.names).1
  let resolved : Path := ⟨1, collapse names⟩
  match t.stat resolved with
  | .error .loop => .error resolved
  | _ => .ok resolved

end FileTree

namespace Path

/-- The names that two lists start with alike are dropped from both. -/
def dropCommon : List String → List String → List String × List String
  | a :: as, b :: bs => if a == b then dropCommon as bs else (a :: as, b :: bs)
  | as, bs => (as, bs)

/-- How a path is named from a directory: up to where both part, and down from there. -/
def relativeTo (p directory : Path) : Path :=
  let (up, down) := dropCommon directory.names p.names
  ⟨0, up.map (fun _ => "..") ++ down⟩

end Path
end PoolLint
