import PoolLint.Proofs.DiscoveredFiles
import PoolLint.Proofs.FollowedLinks

/-! The sources of a directory are exactly the files below it that are named like one and have no
excluded directory, no link to a directory and none that cannot be listed on the way. A search finds
them, if nothing stops it. With directories gone into it asks for other things than without, so that
one of the two may be stopped where the other is not. -/
namespace PoolLint

theorem Path.lt_of_compareNames {names others : List String}
    (le : Path.le.compareNames names others = true) (differ : names ≠ others) : names < others := by
  induction names generalizing others with
  | nil =>
    cases others with
    | nil => exact absurd rfl differ
    | cons => exact List.nil_lt_cons _ _
  | cons name names ih =>
    cases others with
    | nil => cases le
    | cons other others =>
      rw [List.cons_lt_cons_iff]
      by_cases same : name = other
      · subst same
        have apart : names ≠ others := fun same => differ (by rw [same])
        simp only [Path.le.compareNames, beq_self_eq_true, if_true] at le
        exact .inr ⟨rfl, ih le apart⟩
      · simp only [Path.le.compareNames, beq_iff_eq, same, if_false] at le
        exact .inl (of_decide_eq_true le)

namespace FileTree

/-- What a file system keeps: one item at a place, and none that is named like the way up. -/
structure WellKept (t : FileTree) : Prop where
  distinct : t.Distinct
  noUp : ∀ i ∈ t.items, ".." ∉ i.1

theorem wellKept_empty {names : List String} (noUp : ".." ∉ names) : (empty names).WellKept where
  distinct := distinct_empty names
  noUp := by
    intro i member
    obtain ⟨n, -, rfl⟩ := List.mem_map.mp member
    exact fun up => noUp (List.mem_of_mem_take up)

theorem WellKept.put {t : FileTree} (kept : t.WellKept) {names : List String} (noUp : ".." ∉ names)
    (item : Item) : (t.put names item).WellKept where
  distinct := kept.distinct.put names item
  noUp := by
    intro i member
    rcases List.mem_append.mp member with old | new
    · exact kept.noUp i (List.mem_filter.mp old).1
    · rw [List.mem_singleton.mp new]
      exact noUp

/-- The last name is that of a source. -/
def NamesSource (tail : List String) : Prop :=
  ∃ name, tail.getLast? = some name ∧ ".py".toList <:+ name.toList

/-- Whether a path names a link, wherever that leads. -/
def isLink (t : FileTree) (p : Path) : Bool :=
  match p.names.getLast?, t.stat p.parent with
  | some name, .ok (names, _) =>
    match t.lookUp names name with
    | .ok (some (.link _)) => true
    | _ => false
  | _, _ => false

/-- A way down from a directory to a file that is searched for: the file is named like a source, and
the directories on the way can be listed and are neither excluded nor links. -/
structure IsSource (t : FileTree) (excluded : List String) (root : Path) (tail : List String) :
    Prop where
  noUp : ".." ∉ tail
  isNamed : NamesSource tail
  isFile : t.isFile (root.below tail)
  isEntered : ∀ before name after, tail = before ++ name :: after → after ≠ [] →
    name ∉ excluded ∧ ¬ t.isLink (root.below (before ++ [name]))
  isListed : ∀ before after, tail = before ++ after → after ≠ [] →
    ∃ listed, t.listing (root.below before) = .ok listed

section Asked

variable {t : FileTree} {p : Path}

theorem isLink_child {name : String} : t.isLink (p.child name) ↔
    ∃ base item target, t.stat p = .ok (base, item) ∧
      t.lookUp base name = .ok (some (.link target)) := by
  unfold FileTree.isLink
  rw [Path.getLast?_child, Path.parent_child]
  cases t.stat p with
  | error fault => simp
  | ok reached =>
    obtain ⟨base, item⟩ := reached
    dsimp only
    split
    · rename_i target link
      simp [link]
    · rename_i noLink
      simpa using noLink

theorem mem_namesIn {directory : List String} {name : String} :
    name ∈ t.namesIn directory ↔ ∃ item, t.item? (directory ++ [name]) = some item := by
  constructor
  · intro listed
    obtain ⟨i, member, taken⟩ := List.mem_filterMap.mp listed
    simp only [Option.ite_none_right_eq_some, beq_iff_eq] at taken
    have place : i.1 = directory ++ [name] := by
      rw [← List.dropLast_append_getLast? name taken.2, taken.1]
    have some_ : (t.items.find? (·.1 == directory ++ [name])).isSome := by
      rw [List.find?_isSome]
      exact ⟨i, member, beq_iff_eq.mpr place⟩
    obtain ⟨found, first⟩ := Option.isSome_iff_exists.mp some_
    exact ⟨found.2, by simp [FileTree.item?, first]⟩
  · rintro ⟨item, found⟩
    exact List.mem_filterMap.mpr ⟨_, mem_items found (by simp), by simp⟩

/-- What is found by a name in a directory is an item there, or what a link there leads to. -/
theorem stat_child {name : String} {place : List String} {item : Item}
    (found : t.stat (p.child name) = .ok (place, item)) (isDown : name ≠ "..") :
    ∃ base inner, t.stat p = .ok (base, .directory) ∧ t.item? (base ++ [name]) = some inner ∧
      (place = base ++ [name] ∨ t.isLink (p.child name)) := by
  rw [← Path.below_singleton] at found
  obtain ⟨base, here⟩ := stat_above found
  obtain ⟨-, ⟨k, m, -, leads, -⟩, -⟩ := (stat_below here).mp found
  cases leads with
  | up => exact absurd rfl isDown
  | down _ _ _ _ _ inner _ inside _ onward =>
    cases onward
    exact ⟨base, inner, here, item?_of_lookUp inside, .inl rfl⟩
  | link _ _ _ _ _ _ _ target _ inside =>
    have isLink := isLink_child.mpr ⟨base, _, target, here, inside⟩
    exact ⟨base, _, here, item?_of_lookUp inside, .inr isLink⟩

theorem isSourceName_iff {name : String} : isSourceName name ↔ ".py".toList <:+ name.toList :=
  List.isSuffixOf_iff_suffix

theorem ne_up_of_isSourceName {name : String} (isSource : isSourceName name) : name ≠ ".." := by
  rintro rfl
  exact absurd isSource (by decide +kernel)

theorem entered_eq (isRecursive : Bool) (excluded : List String) (p : Path) (listed : Listing) :
    t.entered ⟨isRecursive, false, excluded⟩ p listed = (listed.names.filter fun name =>
      !excluded.contains name && t.item? (listed.place ++ [name]) = some .directory).map p.child := by
  unfold entered
  refine congrArg (List.map p.child) (List.filter_congr fun name _ => ?_)
  unfold leadsOn isLinked
  rcases t.item? (listed.place ++ [name]) with _ | _ | _ | _ <;> simp [Item.isLink]

variable {listed : Listing} (lists : t.listing p = .ok listed) {name : String}
include lists

theorem stat_of_listing : t.stat p = .ok (listed.place, .directory) := by
  obtain ⟨place, found, -, rfl⟩ := listing_ok_iff.mp lists
  exact found

theorem mem_listed : name ∈ listed.names ↔ ∃ item, t.item? (listed.place ++ [name]) = some item := by
  obtain ⟨place, -, -, rfl⟩ := listing_ok_iff.mp lists
  exact mem_namesIn

/-- A walk asks for every file in a directory that is named like a source. -/
theorem child_mem_candidates (isFile : t.isFile (p.child name)) :
    p.child name ∈ t.candidates p listed ↔ isSourceName name := by
  constructor
  · intro isAsked
    obtain ⟨other, inside, same⟩ := List.mem_map.mp isAsked
    obtain rfl : other = name := by simpa [Path.child] using same
    simpa using (Bool.and_eq_true_iff.mp (List.mem_filter.mp inside).2).2
  · intro isSource
    obtain ⟨place, bytes, found⟩ := isFile_iff.mp isFile
    obtain ⟨base, inner, here, inside, placed⟩ := stat_child found (ne_up_of_isSourceName isSource)
    cases here.symm.trans (stat_of_listing lists)
    have isOther : t.leadsOn p listed.place name = false := by
      unfold leadsOn
      rw [inside]
      cases inner with
      | file old => rfl
      | link target => exact not_isDirectory isFile
      | directory =>
        -- a directory cannot be in the place of a file, nor be a link to one
        rcases placed with rfl | isLink
        · cases inside.symm.trans (stat_iff.mp found).2.2
        · obtain ⟨other, _, target, same, link⟩ := isLink_child.mp isLink
          cases here.symm.trans same
          cases inside.symm.trans (item?_of_lookUp link)
    have listed := (mem_listed lists).mpr ⟨inner, inside⟩
    exact List.mem_map.mpr ⟨name, List.mem_filter.mpr ⟨listed, by simp [isOther, isSource]⟩, rfl⟩

/-- A walk that follows no links goes into the directories that it finds in a place and that are not
excluded. -/
theorem child_mem_entered {isRecursive : Bool} {excluded : List String} :
    p.child name ∈ t.entered ⟨isRecursive, false, excluded⟩ p listed ↔
      name ∉ excluded ∧ t.item? (listed.place ++ [name]) = some .directory := by
  have inside : t.item? (listed.place ++ [name]) = some .directory → name ∈ listed.names := by
    intro directory
    exact (mem_listed lists).mpr ⟨_, directory⟩
  rw [entered_eq]
  simp only [List.mem_map, List.mem_filter, Bool.and_eq_true, Bool.not_eq_true',
    List.contains_eq_mem, decide_eq_false_iff_not, decide_eq_true_eq]
  constructor
  · rintro ⟨other, ⟨-, included, directory⟩, same⟩
    obtain rfl : other = name := by simpa [Path.child] using same
    exact ⟨included, directory⟩
  · rintro ⟨included, directory⟩
    exact ⟨name, ⟨inside directory, included, directory⟩, rfl⟩

end Asked

section Ways

variable {t : FileTree} {excluded : List String} {root : Path} {tail : List String}

theorem isSource_single {name : String} :
    t.IsSource excluded root [name] ↔ isSourceName name ∧ t.isFile (root.child name) ∧
      ∃ listed, t.listing root = .ok listed := by
  constructor
  · intro source
    obtain ⟨last, same, named⟩ := source.isNamed
    obtain rfl : name = last := by simpa using same
    have lists := source.isListed [] [name] rfl (by simp)
    rw [Path.below_nil] at lists
    exact ⟨isSourceName_iff.mpr named, source.isFile, lists⟩
  · rintro ⟨named, isFile, lists⟩
    refine ⟨?_, ⟨name, rfl, isSourceName_iff.mp named⟩, isFile, ?_, ?_⟩
    · simpa using (ne_up_of_isSourceName named).symm
    · intro before other after split nonempty
      have lengths := congrArg List.length split
      simp only [List.length_append, List.length_cons, List.length_nil] at lengths
      exact absurd (List.eq_nil_of_length_eq_zero (by omega)) nonempty
    · intro before after split nonempty
      obtain rfl : before = [] := by
        have lengths := congrArg List.length split
        have more := List.length_pos_iff.mpr nonempty
        simp only [List.length_append, List.length_cons, List.length_nil] at lengths
        exact List.eq_nil_of_length_eq_zero (by omega)
      rwa [Path.below_nil]

theorem isSource_cons {name next : String} {rest : List String} :
    t.IsSource excluded root (name :: next :: rest) ↔
      (name ≠ ".." ∧ name ∉ excluded ∧ ¬ t.isLink (root.child name)) ∧
        (∃ listed, t.listing root = .ok listed) ∧
        t.IsSource excluded (root.child name) (next :: rest) := by
  constructor
  · intro source
    have noUp : ".." ≠ name ∧ ".." ∉ next :: rest := by simpa using source.noUp
    have entered := source.isEntered [] name (next :: rest) rfl (by simp)
    have lists := source.isListed [] (name :: next :: rest) rfl (by simp)
    rw [List.nil_append, Path.below_cons, Path.below_nil] at entered
    rw [Path.below_nil] at lists
    refine ⟨⟨noUp.1.symm, entered⟩, lists, noUp.2, ?_, ?_, ?_, ?_⟩
    · simpa [NamesSource] using source.isNamed
    · rw [← Path.below_cons]
      exact source.isFile
    · intro before other after split nonempty
      have inner := source.isEntered (name :: before) other after (by rw [split]; rfl) nonempty
      rwa [List.cons_append, Path.below_cons] at inner
    · intro before after split nonempty
      have inner := source.isListed (name :: before) after (by rw [split]; rfl) nonempty
      rwa [Path.below_cons] at inner
  · rintro ⟨⟨down, entered⟩, lists, source⟩
    refine ⟨?_, ?_, ?_, ?_, ?_⟩
    · simp [down.symm, source.noUp]
    · simpa [NamesSource] using source.isNamed
    · rw [Path.below_cons]
      exact source.isFile
    · intro before other after split nonempty
      cases before with
      | nil =>
        obtain ⟨rfl, rfl⟩ := List.cons.inj split
        rwa [List.nil_append, Path.below_cons, Path.below_nil]
      | cons first before =>
        obtain ⟨rfl, onward⟩ := List.cons.inj split
        rw [List.cons_append, Path.below_cons]
        exact source.isEntered before other after onward nonempty
    · intro before after split nonempty
      cases before with
      | nil => rwa [Path.below_nil]
      | cons first before =>
        obtain ⟨rfl, onward⟩ := List.cons.inj split
        rw [Path.below_cons]
        exact source.isListed before after onward nonempty

theorem IsSource.ne_nil (source : t.IsSource excluded root tail) : tail ≠ [] := by
  rintro rfl
  obtain ⟨name, none, -⟩ := source.isNamed
  cases none

theorem IsSource.exists_directory (source : t.IsSource excluded root tail) :
    ∃ base, t.stat root = .ok (base, .directory) := by
  obtain ⟨name, rest, rfl⟩ := List.exists_cons_of_ne_nil source.ne_nil
  obtain ⟨place, bytes, found⟩ := isFile_iff.mp source.isFile
  exact stat_above found

variable {isRecursive : Bool} {listed : Listing} {name : String}

/-- A directory on the way to a source is one that a walk goes into. -/
theorem IsSource.isGoneInto {next : String} {rest : List String}
    (source : t.IsSource excluded root (name :: next :: rest)) (lists : t.listing root = .ok listed) :
    root.child name ∈ t.entered ⟨isRecursive, false, excluded⟩ root listed := by
  obtain ⟨⟨down, included, noLink⟩, -, inner⟩ := isSource_cons.mp source
  obtain ⟨place, child⟩ := inner.exists_directory
  obtain ⟨base, item, here, inside, rfl | isLink⟩ := stat_child child down
  · cases here.symm.trans (stat_of_listing lists)
    exact (child_mem_entered lists).mpr ⟨included, (stat_iff.mp child).2.2⟩
  · exact absurd isLink noLink

/-- The files among what a walk asks for are the sources. -/
theorem asks_iff_isSource (kept : t.WellKept) {q : Path} :
    t.Asks ⟨isRecursive, false, excluded⟩ root q ∧ t.isFile q ↔
      ∃ tail, q = root.below tail ∧ t.IsSource excluded root tail := by
  constructor
  · rintro ⟨⟨n, d, listed, enters, lists, isAsked⟩, isFile⟩
    induction enters with
    | here root =>
      obtain ⟨name, -, rfl⟩ := exists_of_mem_candidates isAsked
      have named := (child_mem_candidates lists isFile).mp isAsked
      exact ⟨[name], rfl, isSource_single.mpr ⟨named, isFile, listed, lists⟩⟩
    | down n root e d above listsAbove isEntered _ ih =>
      obtain ⟨tail, rfl, source⟩ := ih lists isAsked
      obtain ⟨next, rest, rfl⟩ := List.exists_cons_of_ne_nil source.ne_nil
      obtain ⟨name, inside, rfl⟩ := exists_of_mem_entered isEntered
      obtain ⟨included, directory⟩ := (child_mem_entered listsAbove).mp isEntered
      refine ⟨name :: next :: rest, (Path.below_cons ..).symm, isSource_cons.mpr ⟨⟨?_, included, ?_⟩,
        ⟨above, listsAbove⟩, source⟩⟩
      · rintro rfl
        exact kept.noUp _ (mem_items directory (by simp)) (by simp)
      · intro isLink
        obtain ⟨base, item, target, here, link⟩ := isLink_child.mp isLink
        cases here.symm.trans (stat_of_listing listsAbove)
        cases directory.symm.trans (item?_of_lookUp link)
  · rintro ⟨tail, rfl, source⟩
    refine ⟨?_, source.isFile⟩
    induction tail generalizing root with
    | nil => exact absurd rfl source.ne_nil
    | cons name rest ih =>
      cases rest with
      | nil =>
        obtain ⟨named, isFile, listed, lists⟩ := isSource_single.mp source
        exact (asks_listed lists).mpr (.inl ((child_mem_candidates lists isFile).mpr named))
      | cons next rest =>
        obtain ⟨-, ⟨listed, lists⟩, inner⟩ := isSource_cons.mp source
        rw [Path.below_cons]
        exact (asks_listed lists).mpr (.inr ⟨_, source.isGoneInto lists, ih inner⟩)

/-- A search that stays in its directory comes upon the sources directly there. -/
theorem comesUpon_iff_isSource {q : Path} :
    t.ComesUpon ⟨false, false, excluded⟩ root q ∧ t.isFile q ↔
      ∃ name, q = root.child name ∧ t.IsSource excluded root [name] := by
  have flat : t.ComesUpon ⟨false, false, excluded⟩ root q ↔ ∃ listed name,
      t.listing root = .ok listed ∧ name ∈ listed.names ∧ isSourceName name ∧ q = root.child name := by
    simp [ComesUpon]
  rw [flat]
  constructor
  · rintro ⟨⟨listed, name, lists, -, named, rfl⟩, isFile⟩
    exact ⟨name, rfl, isSource_single.mpr ⟨named, isFile, listed, lists⟩⟩
  · rintro ⟨name, rfl, source⟩
    obtain ⟨named, isFile, listed, lists⟩ := isSource_single.mp source
    obtain ⟨place, bytes, found⟩ := isFile_iff.mp isFile
    obtain ⟨base, inner, here, inside, -⟩ := stat_child found (ne_up_of_isSourceName named)
    cases here.symm.trans (stat_of_listing lists)
    exact ⟨⟨listed, name, lists, (mem_listed lists).mpr ⟨inner, inside⟩, named, rfl⟩, isFile⟩

end Ways

section Found

variable {t : FileTree} (kept : t.WellKept) {root p : Path} {excluded : List String}
  {ps : List Path}
include kept

theorem mem_sources_recursive (done : t.sources ⟨true, false, excluded⟩ root = .ok ps) :
    p ∈ ps ↔ ∃ tail, p = root.below tail ∧ t.IsSource excluded root tail := by
  have deep : t.ComesUpon ⟨true, false, excluded⟩ root p ↔ t.Asks ⟨true, false, excluded⟩ root p := by
    simp [ComesUpon]
  rw [mem_sources done, deep, asks_iff_isSource kept]

omit kept in
theorem mem_sources_flat (done : t.sources ⟨false, false, excluded⟩ root = .ok ps) :
    p ∈ ps ↔ ∃ name, p = root.child name ∧ t.IsSource excluded root [name] := by
  rw [mem_sources done, comesUpon_iff_isSource]

theorem exists_below_of_mem_sources {isRecursive : Bool}
    (done : t.sources ⟨isRecursive, false, excluded⟩ root = .ok ps) (member : p ∈ ps) :
    ∃ tail, root.below tail = p := by
  cases isRecursive with
  | true =>
    obtain ⟨tail, below, -⟩ := (mem_sources_recursive kept done).mp member
    exact ⟨tail, below.symm⟩
  | false =>
    obtain ⟨name, below, -⟩ := (mem_sources_flat done).mp member
    exact ⟨[name], below.symm⟩

/-- A search that does not go through links to directories returns exactly if nothing stops it. Then it
finds each source once, in ascending order name by name: with directories gone into exactly the
files below the root that have a way down, otherwise exactly those of them that stand directly in
the root, so that where both ways of searching return, they agree on those. -/
theorem found_exactly_sources (root : Path) (excluded : List String) :
    (∀ isRecursive, (∃ ps, t.sources ⟨isRecursive, false, excluded⟩ root = .ok ps) ↔
      t.Searchable ⟨isRecursive, false, excluded⟩ root) ∧
    (∀ isRecursive ps, t.sources ⟨isRecursive, false, excluded⟩ root = .ok ps →
      ps.Pairwise fun p q => p.names < q.names) ∧
    (∀ ps, t.sources ⟨true, false, excluded⟩ root = .ok ps →
      ∀ p, p ∈ ps ↔ ∃ tail, p = root.below tail ∧ t.IsSource excluded root tail) ∧
    (∀ ps, t.sources ⟨false, false, excluded⟩ root = .ok ps →
      ∀ p, p ∈ ps ↔ ∃ name, p = root.child name ∧ t.IsSource excluded root [name]) ∧
    ∀ ps qs, t.sources ⟨true, false, excluded⟩ root = .ok ps →
      t.sources ⟨false, false, excluded⟩ root = .ok qs →
      ∀ p, p ∈ qs ↔ p ∈ ps ∧ p.parent = root := by
  refine ⟨fun _ => sources_returns, ?_, fun ps done p => mem_sources_recursive kept done,
    fun ps done p => mem_sources_flat done, ?_⟩
  · intro isRecursive ps done
    refine (sources_ascending kept.distinct done).imp_of_mem ?_
    rintro p q first second ⟨ordered, apart⟩
    obtain ⟨tail, rfl⟩ := exists_below_of_mem_sources kept done first
    obtain ⟨other, rfl⟩ := exists_below_of_mem_sources kept done second
    have names : (root.below tail).names ≠ (root.below other).names := fun equal =>
      apart (congrArg (Path.mk root.slashes) equal)
    rcases (Path.le_iff _ _).mp ordered with less | ⟨-, less⟩
    · exact absurd less (Nat.lt_irrefl _)
    · exact Path.lt_of_compareNames less names
  · intro ps qs deep flat p
    rw [mem_sources_recursive kept deep, mem_sources_flat flat]
    constructor
    · rintro ⟨name, rfl, source⟩
      exact ⟨⟨[name], rfl, source⟩, Path.parent_child root name⟩
    · rintro ⟨⟨tail, rfl, source⟩, directly⟩
      obtain ⟨before, name, rfl⟩ := List.eq_nil_or_concat tail |>.resolve_left source.ne_nil
      rw [List.concat_eq_append] at source directly ⊢
      rw [Path.parent_below _ (by simp), List.dropLast_concat, Path.below_eq_self] at directly
      subst directly
      exact ⟨name, rfl, source⟩

end Found

/-- A directory that is reached through a link. Below it stand a directory that is named like a
source, one that is left out, and a link that leads nowhere. -/
def variedTree : FileTree :=
  ((((((((FileTree.empty ["w"]).put ["w", "d"] .directory).put ["w", "r"] (.link ⟨0, ["d"]⟩)).put
    ["w", "d", "x.py"] .directory).put ["w", "d", "x.py", "a.py"] (.file [])).put
    ["w", "d", "venv"] .directory).put ["w", "d", "venv", "b.py"] (.file [])).put
    ["w", "d", "dead.py"] (.link ⟨0, ["nowhere"]⟩)).put
    ["w", "d", "l.py"] (.link ⟨0, ["x.py", "a.py"]⟩)

theorem variedTree_found :
    variedTree.WellKept ∧
      (∃ ps, variedTree.sources ⟨true, false, ["venv"]⟩ ⟨0, ["r"]⟩ = .ok ps ∧
        ⟨0, ["r", "x.py", "a.py"]⟩ ∈ ps ∧ ⟨0, ["r", "venv", "b.py"]⟩ ∉ ps) ∧
      ∃ qs, variedTree.sources ⟨false, false, ["venv"]⟩ ⟨0, ["r"]⟩ = .ok qs ∧
        ⟨0, ["r", "l.py"]⟩ ∈ qs ∧ ⟨0, ["r", "x.py", "a.py"]⟩ ∉ qs := by
  have kept : variedTree.WellKept :=
    ((((((((wellKept_empty (by decide)).put (by decide) _).put (by decide) _).put (by decide) _).put
      (by decide) _).put (by decide) _).put (by decide) _).put (by decide) _).put (by decide) _
  have metBelow : variedTree.sourcesMet ⟨true, false, ["venv"]⟩ ⟨0, ["r"]⟩ =
      .ok [⟨0, ["r", "l.py"]⟩, ⟨0, ["r", "x.py", "a.py"]⟩] := by decide +kernel
  have metHere : variedTree.sourcesMet ⟨false, false, ["venv"]⟩ ⟨0, ["r"]⟩ =
      .ok [⟨0, ["r", "l.py"]⟩] := by decide +kernel
  have below := sources_ok.mpr ⟨_, metBelow, rfl⟩
  have here := sources_ok.mpr ⟨_, metHere, rfl⟩
  obtain ⟨-, -, deep, flat, agree⟩ := found_exactly_sources kept ⟨0, ["r"]⟩ ["venv"]
  have inner : variedTree.IsSource ["venv"] ⟨0, ["r"]⟩ ["x.py", "a.py"] :=
    isSource_cons.mpr ⟨by decide +kernel, ⟨_, rfl⟩, isSource_single.mpr
      ⟨by decide +kernel, by decide +kernel, _, rfl⟩⟩
  have linked : variedTree.IsSource ["venv"] ⟨0, ["r"]⟩ ["l.py"] :=
    isSource_single.mpr ⟨by decide +kernel, by decide +kernel, _, rfl⟩
  refine ⟨kept, ⟨_, below, (deep _ below _).mpr ⟨_, rfl, inner⟩, ?_⟩, _, here,
    (flat _ here _).mpr ⟨_, rfl, linked⟩, ?_⟩
  · intro found
    obtain ⟨tail, same, source⟩ := (deep _ below _).mp found
    have names : ["r"] ++ ["venv", "b.py"] = ["r"] ++ tail := congrArg Path.names same
    have way := (List.append_cancel_left names).symm
    exact (source.isEntered [] "venv" ["b.py"] way (by simp)).1 (by simp)
  · intro found
    exact absurd ((agree _ _ below here _).mp found).2 (by decide)

/-- A source, and a link that is not named like one and leads to a name that is too long. -/
def overlongLinkTree : FileTree :=
  (((FileTree.empty ["w"]).put ["w", "d"] .directory).put ["w", "d", "a.py"] (.file [])).put
    ["w", "d", "notes"] (.link ⟨0, [String.ofList (List.replicate 256 'n')]⟩)

/-- The search that stays in a directory is stopped by a link that the other one does not ask for. -/
theorem overlongLinkTree_stops :
    ¬ ∀ tree : FileTree, tree.WellKept → ∀ root excluded, tree.isDirectory root →
      ∃ ps qs, tree.sources ⟨true, false, excluded⟩ root = .ok ps ∧
        tree.sources ⟨false, false, excluded⟩ root = .ok qs ∧
        ∀ p, p ∈ qs ↔ p ∈ ps ∧ p.parent = root := by
  intro always
  have kept : overlongLinkTree.WellKept :=
    (((wellKept_empty (by decide)).put (by decide) _).put (by decide) _).put (by decide) _
  obtain ⟨ps, qs, -, flat, -⟩ := always overlongLinkTree kept ⟨0, ["d"]⟩ [] (by decide +kernel)
  have stopped : overlongLinkTree.sourcesMet ⟨false, false, []⟩ ⟨0, ["d"]⟩ = .error .tooLong := by
    decide +kernel
  obtain ⟨met, ends, -⟩ := sources_ok.mp flat
  cases stopped.symm.trans ends

end FileTree
end PoolLint
