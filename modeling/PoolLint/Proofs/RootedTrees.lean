import Mathlib.Logic.Relation
import PoolLint.Proofs.PathResolution

/-! Trees whose working directory is in its place. The tree that a run starts from is one. Writing a
file and making directories come down to items that are put where there is no directory, and that
leaves every directory in its place. -/
namespace PoolLint.FileTree

variable {t : FileTree}

theorem item?_put {names other : List String} {item : Item} (differ : other ≠ names) :
    (t.put names item).item? other = t.item? other := by
  have kept : ∀ i : List String × Item,
      decide ((i.1 != names) = true ∧ (i.1 == other) = true) = (i.1 == other) := by
    intro i
    by_cases same : i.1 = other
    · simp [same, differ]
    · simp [same]
  have elsewhere : (names == other) = false := beq_false_of_ne (Ne.symm differ)
  simp only [item?, put, List.find?_append, List.find?_filter, kept, List.find?_cons, elsewhere,
    List.find?_nil, Option.or_none]

theorem item?_put_self (t : FileTree) {names : List String} (below : names ≠ []) (item : Item) :
    (t.put names item).item? names = some item := by
  have gone : (t.items.filter (·.1 != names)).find? (·.1 == names) = none := by
    rw [List.find?_eq_none]
    intro i member
    simpa using (List.mem_filter.mp member).2
  simp [FileTree.item?, FileTree.put, below, List.find?_append, gone]

theorem opened_put {names other : List String} {item : Item} (differ : other ≠ names) :
    (t.put names item).opened other = t.opened other := by
  unfold FileTree.opened
  rw [item?_put differ]
  rfl

theorem Place.put {names place : List String} {item : Item} (kept : t.Place place)
    (here : t.item? place = some .directory) (free : t.item? names ≠ some .directory) :
    (t.put names item).Place place := by
  have outside : ∀ before, t.item? before = some .directory → before ≠ names := by
    rintro before directory rfl
    exact free directory
  refine ⟨kept.noUp, kept.short, ?_, ?_⟩
  · intro before after same nonempty
    have opened := kept.above before after same nonempty
    rw [opened_put (outside before (directory_of_opened opened))]
    exact opened
  · intro target link
    rw [item?_put (outside place here), here] at link
    cases link

/-- What is put where there is no directory leaves the working directory where it is. -/
theorem Rooted.put (rooted : t.Rooted) {names : List String} {item : Item}
    (free : t.item? names ≠ some .directory) : (t.put names item).Rooted := by
  have differ : t.workingDirectory ≠ names := by
    intro same
    rw [← same] at free
    exact free rooted.isDirectory
  refine ⟨rooted.place.put rooted.isDirectory free, ?_⟩
  exact (item?_put differ).trans rooted.isDirectory

/-- One item is put in a place where there is no directory. -/
def Puts (t after : FileTree) : Prop :=
  ∃ names item, ".." ∉ names ∧ t.item? names ≠ some .directory ∧ after = t.put names item

/-- Items are put in one after the other. -/
abbrev Grows : FileTree → FileTree → Prop := Relation.ReflTransGen Puts

theorem Rooted.grows {after : FileTree} (rooted : t.Rooted) (grows : t.Grows after) :
    after.Rooted := by
  induction grows with
  | refl => exact rooted
  | tail _ puts ih =>
    obtain ⟨names, item, -, free, rfl⟩ := puts
    exact ih.put free

theorem Grows.item?_directory {after : FileTree} (grows : t.Grows after) {names : List String}
    (here : t.item? names = some .directory) : after.item? names = some .directory := by
  induction grows with
  | refl => exact here
  | tail _ puts ih =>
    obtain ⟨place, item, -, free, rfl⟩ := puts
    have differ : names ≠ place := by
      rintro rfl
      exact free ih
    exact (item?_put differ).trans ih

/-- Names that lead to nothing end in a free place, and one that does not go up. -/
theorem reach_absent {current names place : List String}
    (absent : t.reach current names = .absent place) :
    t.item? place = none ∧ (".." ∉ current → ".." ∉ place) := by
  induction names generalizing current with
  | nil =>
    unfold reach at absent
    split at absent
    · cases absent
    · rename_i nothing
      cases absent
      exact ⟨nothing, id⟩
  | cons name rest ih =>
    unfold reach at absent
    split at absent
    · split at absent
      · cases absent
      · obtain ⟨nothing, noUp⟩ := ih absent
        exact ⟨nothing, fun start => noUp fun up => start (List.dropLast_subset _ up)⟩
    · rename_i isDown
      have differ : ".." ≠ name := fun same => isDown (beq_iff_eq.mpr same.symm)
      have down : ".." ∉ current → ".." ∉ current ++ [name] := by
        intro start
        simp [start, differ]
      split at absent
      · cases absent
      · rename_i nothing
        split at absent
        · cases absent
          exact ⟨(lookUp_ok.mp nothing).2.2, down⟩
        · cases absent
      · cases absent
      · obtain ⟨nothing, noUp⟩ := ih absent
        exact ⟨nothing, noUp ∘ down⟩

theorem follow_absent {links : Nat} {current names place : List String}
    (absent : t.followFrom links current names = .absent place) :
    t.item? place = none ∧ (t.Place current → ".." ∉ place) := by
  induction links generalizing current names with
  | zero => cases absent
  | succ links ih =>
    unfold followFrom at absent
    split at absent
    · rename_i met
      obtain ⟨before, name, -, leads, -⟩ := reach_link met
      obtain ⟨nothing, noUp⟩ := ih absent
      exact ⟨nothing, fun start => noUp ((leads.place start).linkStart _)⟩
    · obtain ⟨nothing, noUp⟩ := reach_absent absent
      exact ⟨nothing, fun start => noUp start.noUp⟩

/-- A file is written where there is nothing or a file. -/
theorem write_put {p : Path} {bytes : List Nat} {written : FileTree}
    (done : t.write p bytes = .ok written) : ∃ names, written = t.put names (.file bytes) ∧
      (t.follow p = .absent names ∨ ∃ old, t.follow p = .found names (.file old)) := by
  unfold FileTree.write at done
  split at done
  · rename_i names old found
    cases done
    exact ⟨names, rfl, .inr ⟨old, found⟩⟩
  · rename_i names absent
    cases done
    exact ⟨names, rfl, .inl absent⟩
  all_goals cases done

theorem followFrom_of_follow {p : Path} {reached : Reach} (followed : t.follow p = reached)
    (noFault : ∀ fault, reached ≠ .fault fault) :
    t.followFrom (maxLinks + 1) (t.startOf p) p.names = reached := by
  unfold follow at followed
  split at followed
  · exact absurd followed.symm (noFault _)
  · exact followed

theorem Rooted.write (rooted : t.Rooted) {p : Path} {bytes : List Nat} {written : FileTree}
    (done : t.write p bytes = .ok written) : t.Puts written := by
  obtain ⟨names, rfl, absent | ⟨old, found⟩⟩ := write_put done
  · obtain ⟨free, noUp⟩ := follow_absent (followFrom_of_follow absent (by simp))
    exact ⟨names, _, noUp (rooted.start p), by simp [free], rfl⟩
  · obtain ⟨⟨n, -, leads⟩, here⟩ := leads_of_follow (followFrom_of_follow found (by simp))
    exact ⟨names, _, (leads.place (rooted.start p)).noUp, by simp [here], rfl⟩

/-- A directory is made in another one, under a name that is free there. -/
theorem makeDirectory_ok {p : Path} {made : FileTree} (done : t.makeDirectory p = .ok made) :
    ∃ names name, p.names.getLast? = some name ∧ t.stat p.parent = .ok (names, .directory) ∧
      name ≠ ".." ∧ t.lookUp names name = .ok none ∧ made = t.put (names ++ [name]) .directory := by
  unfold FileTree.makeDirectory at done
  split at done
  · cases done
  · split at done
    · cases done
    · rename_i name last
      split at done
      · cases done
      · rename_i names above
        split at done
        · cases done
        · rename_i isDown
          split at done
          · cases done
          · cases done
          · rename_i free
            cases done
            exact ⟨names, name, last, above, fun same => isDown (beq_iff_eq.mpr same), free, rfl⟩
      · cases done

theorem Rooted.makeDirectory (rooted : t.Rooted) {p : Path} {made : FileTree}
    (done : t.makeDirectory p = .ok made) : t.Puts made := by
  obtain ⟨names, name, -, above, down, free, rfl⟩ := makeDirectory_ok done
  obtain ⟨⟨n, -, leads⟩, -⟩ := leads_of_follow (stat_ok_iff.mp above).2
  have noUp := (leads.place (rooted.start p.parent)).noUp
  have nothing := (lookUp_ok.mp free).2.2
  exact ⟨names ++ [name], _, by simp [noUp, down.symm], by simp [nothing], rfl⟩

theorem Rooted.ensureDirectory (rooted : t.Rooted) {p : Path} {made : FileTree}
    (done : t.ensureDirectory p = .ok made) : t.Grows made := by
  unfold FileTree.ensureDirectory at done
  split at done
  · rename_i created
    cases done
    exact .single (rooted.makeDirectory created)
  · split at done
    · cases done
    · cases done
      exact .refl
    · cases done

/-- The tree that an attempt to make directories leaves. -/
def left : Except Stopped FileTree → FileTree
  | .ok made => made
  | .error stopped => stopped.tree

theorem Rooted.ensureDirectory_left (rooted : t.Rooted) (p : Path) :
    t.Grows (left ((t.ensureDirectory p).mapError (⟨·, t⟩))) := by
  cases done : t.ensureDirectory p with
  | error fault => exact .refl
  | ok made => exact rooted.ensureDirectory done

theorem Rooted.ensureFrom (rooted : t.Rooted) (above : Nat) (p : Path) :
    t.Grows (left (t.ensureFrom above p)) := by
  induction above generalizing p with
  | zero => exact .refl
  | succ above ih =>
    unfold FileTree.ensureFrom
    split
    · have first := ih p.parent
      cases parents : t.ensureFrom above p.parent with
      | error stopped =>
        rw [parents] at first
        exact first
      | ok made =>
        rw [parents] at first
        exact first.trans ((rooted.grows first).ensureDirectory_left p)
    · exact rooted.ensureDirectory_left p

/-- Directories that are made are put in, whether all of them can be made or not. -/
theorem Rooted.ensureDirectories (rooted : t.Rooted) (p : Path) :
    t.Grows (left (t.ensureDirectories p)) := rooted.ensureFrom maxNested p

theorem item?_empty (before after : List String) :
    (empty (before ++ after)).item? before = some .directory := by
  unfold item?
  split
  · rfl
  · rename_i nonempty
    have positive : 0 < before.length := by
      apply List.length_pos_iff.mpr
      intro none
      exact nonempty (by simp [none])
    have listed : (before, Item.directory) ∈ (empty (before ++ after)).items := by
      apply List.mem_map.mpr
      refine ⟨before.length - 1, ?_, ?_⟩
      · rw [List.mem_range, List.length_append]
        omega
      · rw [Nat.sub_add_cancel positive, List.take_left]
    cases found : (empty (before ++ after)).items.find? (·.1 == before) with
    | none => exact absurd (List.find?_eq_none.mp found _ listed) (by simp)
    | some i =>
      obtain ⟨n, -, rfl⟩ := List.mem_map.mp (List.mem_of_find?_eq_some found)
      rfl

theorem rooted_empty {names : List String} (noUp : ".." ∉ names)
    (short : ∀ name ∈ names, name.utf8ByteSize ≤ maxNameSize) : (empty names).Rooted := by
  have directory : (empty names).item? names = some .directory := by
    have whole := item?_empty names []
    rw [List.append_nil] at whole
    exact whole
  refine ⟨⟨noUp, short, ?_, ?_⟩, directory⟩
  · intro before after same _
    change names = before ++ after at same
    rw [same, opened, item?_empty before after]
    rfl
  · intro target link
    cases directory.symm.trans link

end PoolLint.FileTree
