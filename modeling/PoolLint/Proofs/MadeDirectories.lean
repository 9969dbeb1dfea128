import Mathlib.Data.List.Induction
import PoolLint.Proofs.FoundSources
import PoolLint.Proofs.RootedTrees

/-! Making the directories above a path. A file that is written has directories all the way above it.
Below a file no directory can be made; where the first missing name is free, all of them can, however
many are missing. -/
namespace PoolLint.FileTree

variable {t : FileTree}

section Kept

/-- What was found is still found, files with other bytes perhaps. -/
structure Keeps (t after : FileTree) : Prop where
  items : ∀ names item, t.item? names = some item → after.item? names = some item ∨
    ∃ old new, item = .file old ∧ after.item? names = some (.file new)
  barred : after.barred = t.barred

variable {after : FileTree}

theorem Keeps.directory (keeps : t.Keeps after) {names : List String}
    (found : t.item? names = some .directory) : after.item? names = some .directory := by
  rcases keeps.items names _ found with same | ⟨old, new, isFile, -⟩
  · exact same
  · cases isFile

theorem Keeps.opened (keeps : t.Keeps after) {names : List String}
    (opened : t.opened names = .ok ()) : after.opened names = .ok () := by
  have here := directory_of_opened opened
  unfold FileTree.opened at opened ⊢
  rw [here] at opened
  rw [keeps.directory here, keeps.barred]
  exact opened

theorem Keeps.lookUp (keeps : t.Keeps after) {names : List String} {name : String} {item : Item}
    (found : t.lookUp names name = .ok (some item)) :
    after.lookUp names name = .ok (some item) ∨
      ∃ old new, item = .file old ∧ after.lookUp names name = .ok (some (.file new)) := by
  obtain ⟨opened, short, here⟩ := lookUp_ok.mp found
  rw [lookUp_of_item (keeps.opened opened) short]
  rcases keeps.items _ _ here with same | ⟨old, new, isFile, other⟩
  · exact .inl (by rw [same])
  · exact .inr ⟨old, new, isFile, by rw [other]⟩

theorem Leads.kept {n : Nat} {current names reached : List String}
    (leads : Leads t n current names reached) (keeps : t.Keeps after) :
    Leads after n current names reached := by
  induction leads with
  | here => exact .here _
  | up n current rest reached opened _ ih => exact .up _ _ _ _ (keeps.opened opened) ih
  | down n current rest reached name item isDown found noLink _ ih =>
    rcases keeps.lookUp found with same | ⟨old, new, -, isFile⟩
    · exact .down _ _ _ _ _ _ isDown same noLink ih
    · exact .down _ _ _ _ _ _ isDown isFile (by simp) ih
  | link n m current rest middle reached name target isDown found _ _ inner outer =>
    rcases keeps.lookUp found with same | ⟨old, new, isFile, -⟩
    · exact .link _ _ _ _ _ _ _ _ isDown same inner outer
    · cases isFile

theorem keeps_put_file {place : List String} {bytes : List Nat}
    (isOpen : ∀ item, t.item? place = some item → ∃ old, item = .file old) :
    t.Keeps (t.put place (.file bytes)) := by
  refine ⟨?_, rfl⟩
  intro names item found
  by_cases same : names = place
  · subst same
    obtain ⟨old, rfl⟩ := isOpen item found
    have below : names ≠ [] := by
      rintro rfl
      cases found
    exact .inr ⟨old, bytes, rfl, item?_put_self t below _⟩
  · exact .inl ((item?_put same).trans found)

theorem keeps_put_free {place : List String} (free : t.item? place = none) (item : Item) :
    t.Keeps (t.put place item) := by
  refine ⟨?_, rfl⟩
  intro names old found
  have differ : names ≠ place := by
    rintro rfl
    rw [free] at found
    cases found
  exact .inl ((item?_put differ).trans found)

end Kept

/-- All the way above a file that was written stand directories. -/
theorem isDirectory_of_write {written : FileTree} {q : Path} {tail : List String} {bytes : List Nat}
    (done : t.write (q.below tail) bytes = .ok written) (above : tail ≠ []) :
    written.isDirectory q := by
  obtain ⟨name, rest, rfl⟩ := List.exists_cons_of_ne_nil above
  obtain ⟨place, rfl, reached⟩ := write_put done
  have isOpen : ∀ item, t.item? place = some item → ∃ old, item = .file old := by
    intro item here
    rcases reached with absent | ⟨old, found⟩
    · rw [(follow_absent (followFrom_of_follow absent (by simp))).1] at here
      cases here
    · rw [(leads_of_follow (followFrom_of_follow found (by simp))).2] at here
      exact ⟨old, (Option.some.inj here).symm⟩
  have noFault : ∀ fault, t.follow (q.below (name :: rest)) ≠ .fault fault := by
    intro fault isFault
    rcases reached with absent | ⟨old, found⟩
    · cases absent.symm.trans isFault
    · cases found.symm.trans isFault
  have keeps : t.Keeps (t.put place (.file bytes)) := keeps_put_file isOpen
  obtain ⟨base, found⟩ := follow_above noFault
  obtain ⟨fits, ⟨n, few, passes⟩, directory⟩ := stat_iff.mp found
  exact isDirectory_iff.mpr ⟨base, stat_iff.mpr ⟨fits, ⟨n, few, passes.kept keeps⟩,
    keeps.directory directory⟩⟩

section BelowFiles

variable {q : Path} {place tail : List String} {bytes : List Nat}
  (fits : (q.below tail).size ≤ maxPathSize) (isFile : t.stat q = .ok (place, .file bytes))
include fits isFile

theorem stat_below_file (below : tail ≠ []) : t.stat (q.below tail) = .error .notDirectory := by
  obtain ⟨name, rest, rfl⟩ := List.exists_cons_of_ne_nil below
  rw [stat, follow_below_file fits isFile]

theorem makeDirectory_below_file (below : tail ≠ []) :
    t.makeDirectory (q.below tail) = .error .notDirectory := by
  have last : (q.below tail).names.getLast? = some (tail.getLast below) := by
    rw [Path.below, List.getLast?_append, List.getLast?_eq_some_getLast below, Option.some_or]
  have parent := Path.parent_below q below
  have fitsAbove : (q.below tail.dropLast).size ≤ maxPathSize := by
    rw [← parent]
    exact Nat.le_trans (Path.size_parent_le _) fits
  simp only [makeDirectory, if_neg (Nat.not_lt.mpr fits), last, parent]
  by_cases direct : tail.dropLast = []
  · rw [direct, Path.below_nil, isFile]
  · rw [stat_below_file fitsAbove isFile direct]

theorem ensureDirectories_below_file (below : tail ≠ []) :
    t.ensureDirectories (q.below tail) = .error ⟨.notDirectory, t⟩ := by
  have made := makeDirectory_below_file fits isFile below
  have asked : t.askDirectory (q.below tail) = .ok false := by
    rw [askDirectory, ask, stat_below_file fits isFile below]
    rfl
  have ensured : t.ensureDirectory (q.below tail) = .error .notDirectory := by
    simp [ensureDirectory, made, asked]
  simp only [ensureDirectories, maxNested, ensureFrom, made, ensured]
  rfl

end BelowFiles

section BelowDirectories

variable {q : Path} {base : List String} {name : String}

/-- There is nothing at a place, and nothing below it. -/
def IsFree (t : FileTree) (place : List String) : Prop :=
  ∀ names, place <+: names → t.item? names = none ∧ faultAt? t.barred names = none

theorem IsFree.below (free : t.IsFree base) (behind : List String) : t.IsFree (base ++ behind) :=
  fun names under => free names ((List.prefix_append base behind).trans under)

theorem lookUp_free (opened : t.opened base = .ok ()) (short : name.utf8ByteSize ≤ maxNameSize)
    (free : t.IsFree (base ++ [name])) : t.lookUp base name = .ok none := by
  rw [lookUp_of_item opened short, (free _ (List.prefix_refl _)).1]

theorem write_free (fits : (q.child name).size ≤ maxPathSize)
    (here : t.stat q = .ok (base, .directory)) (isDown : name ≠ "..")
    (free : t.lookUp base name = .ok none) (bytes : List Nat) :
    t.write (q.child name) bytes = .ok (t.put (base ++ [name]) (.file bytes)) := by
  have absent : t.follow (q.below [name]) = .absent (base ++ [name]) :=
    follow_below_free fits here isDown free
  rw [← Path.below_singleton, FileTree.write, absent]

theorem makeDirectory_free (fits : (q.child name).size ≤ maxPathSize)
    (here : t.stat q = .ok (base, .directory)) (isDown : name ≠ "..")
    (free : t.lookUp base name = .ok none) :
    t.makeDirectory (q.child name) = .ok (t.put (base ++ [name]) .directory) ∧
      (t.put (base ++ [name]) .directory).stat (q.child name) =
        .ok (base ++ [name], .directory) := by
  obtain ⟨opened, short, nothing⟩ := lookUp_ok.mp free
  have keeps := keeps_put_free nothing .directory
  have put := item?_put_self t (show base ++ [name] ≠ [] by simp) .directory
  refine ⟨?_, ?_⟩
  · simp [makeDirectory, Nat.not_lt.mpr fits, Path.getLast?_child, here, isDown, free]
  · obtain ⟨-, ⟨n, few, passes⟩, -⟩ := stat_iff.mp here
    have found := lookUp_of_item (keeps.opened opened) short
    rw [put] at found
    have down := Leads.down 0 base [] (base ++ [name]) name .directory isDown found (by simp) (.here _)
    exact stat_iff.mpr ⟨fits, ⟨n, few, (passes.kept keeps).append down⟩, put⟩

theorem stat_below_free {rest : List String} (fits : (q.below (name :: rest)).size ≤ maxPathSize)
    (here : t.stat q = .ok (base, .directory)) (isDown : name ≠ "..")
    (free : t.lookUp base name = .ok none) : t.stat (q.below (name :: rest)) = .error .missing := by
  rw [stat, follow_below_free fits here isDown free]
  cases rest <;> rfl

theorem makeDirectory_missing {front : List String} {last : String}
    (fits : ((q.below (name :: front)).child last).size ≤ maxPathSize)
    (here : t.stat q = .ok (base, .directory)) (isDown : name ≠ "..")
    (free : t.lookUp base name = .ok none) :
    t.makeDirectory ((q.below (name :: front)).child last) = .error .missing := by
  have fitsAbove : (q.below (name :: front)).size ≤ maxPathSize :=
    Nat.le_trans (Path.size_le_child _ last) fits
  simp only [makeDirectory, if_neg (Nat.not_lt.mpr fits), Path.getLast?_child, Path.parent_child,
    stat_below_free fitsAbove here isDown free]

theorem ensureDirectory_of_made {p : Path} {made : FileTree} (done : t.makeDirectory p = .ok made) :
    t.ensureDirectory p = .ok made := by
  rw [ensureDirectory, done]

theorem noUp_concat {names : List String} {last : String} (noUp : ".." ∉ names ++ [last]) :
    ".." ∉ names ∧ last ≠ ".." := by
  simpa [eq_comm] using noUp

/-- A new directory is one that names can be looked up in, and there is nothing in it. -/
theorem IsFree.put (free : t.IsFree base) (nonempty : base ≠ []) :
    (t.put base .directory).opened base = .ok () ∧
      ∀ name, (t.put base .directory).IsFree (base ++ [name]) := by
  refine ⟨?_, ?_⟩
  · have unbarred : faultAt? (t.put base .directory).barred base = none :=
      (free base (List.prefix_refl base)).2
    rw [FileTree.opened, item?_put_self t nonempty]
    simp only [unbarred]
  · intro name names under
    have differ : names ≠ base := by
      rintro rfl
      exact absurd under.length_le (by simp)
    rw [item?_put differ]
    exact (free.below [name]) names under

/-- Directories that are missing are made, up to a number of them, and the last one is empty. -/
theorem ensureFrom_free (here : t.stat q = .ok (base, .directory)) (opened : t.opened base = .ok ())
    {rest : List String} (fits : (q.below (name :: rest)).size ≤ maxPathSize)
    (noUp : ".." ∉ name :: rest) (short : ∀ n ∈ name :: rest, n.utf8ByteSize ≤ maxNameSize)
    (free : t.IsFree (base ++ [name])) {above : Nat} (enough : rest.length < above) :
    ∃ made, t.ensureFrom above (q.below (name :: rest)) = .ok made ∧
      made.stat (q.below (name :: rest)) = .ok (base ++ name :: rest, .directory) ∧
        made.opened (base ++ name :: rest) = .ok () ∧
          ∀ next, made.IsFree (base ++ name :: rest ++ [next]) := by
  have isDown : name ≠ ".." := by
    rintro rfl
    exact noUp (by simp)
  have freeName := lookUp_free opened (short name (by simp)) free
  induction rest using List.reverseRecOn generalizing above with
  | nil =>
    obtain ⟨above, rfl⟩ : ∃ k, above = k + 1 := ⟨above - 1, by omega⟩
    obtain ⟨done, found⟩ := makeDirectory_free fits here isDown freeName
    obtain ⟨openedToo, empty⟩ := free.put (by simp)
    rw [Path.below_singleton]
    refine ⟨_, ?_, found, openedToo, empty⟩
    simp only [ensureFrom, done, ensureDirectory_of_made done]
    rfl
  | append_singleton front last ih =>
    rw [← List.cons_append] at noUp short fits ⊢
    obtain ⟨noUpAbove, lastDown⟩ := noUp_concat noUp
    rw [List.length_append, List.length_singleton] at enough
    obtain ⟨above, rfl⟩ : ∃ k, above = k + 1 := ⟨above - 1, by omega⟩
    rw [Path.below_concat] at fits ⊢
    have fitsAbove := Nat.le_trans (Path.size_le_child _ last) fits
    have shortAbove : ∀ n ∈ name :: front, n.utf8ByteSize ≤ maxNameSize :=
      fun n inside => short n (List.mem_append_left _ inside)
    obtain ⟨parents, parentsDone, found, openedToo, empty⟩ :=
      ih fitsAbove noUpAbove shortAbove (Nat.lt_of_succ_lt_succ enough)
    have freeLast := lookUp_free openedToo (short last (by simp)) (empty last)
    obtain ⟨done, reached⟩ := makeDirectory_free fits found lastDown freeLast
    obtain ⟨openedLast, emptyLast⟩ := (empty last).put (by simp)
    have missing := makeDirectory_missing fits here isDown freeName
    rw [← List.append_assoc]
    refine ⟨_, ?_, reached, openedLast, emptyLast⟩
    simp only [ensureFrom, missing, Path.parent_child, parentsDone, ensureDirectory_of_made done]
    rfl

end BelowDirectories

end PoolLint.FileTree
