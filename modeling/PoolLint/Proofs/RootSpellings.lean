import PoolLint.Proofs.FoundSources
import PoolLint.Proofs.MergedScans
import PoolLint.Proofs.ShownPaths

/-! How the root of a scan is spelled does not show, as long as both spellings lead to the directory
and neither their lengths nor the limit of links make a difference to what is searched for there. The
search then goes the same ways down, the order of the sources does not look at the root, and a file
is read and shown by where it is. -/
namespace PoolLint

/-- The order of paths below a path is that of the names behind it. -/
theorem Path.le_below (p : Path) (tail other : List String) :
    (p.below tail).le (p.below other) = le.compareNames tail other := by
  have behind : ∀ names : List String,
      le.compareNames (names ++ tail) (names ++ other) = le.compareNames tail other := by
    intro names
    induction names with
    | nil => rfl
    | cons name names ih => simpa [le.compareNames] using ih
  simpa [below, le] using behind p.names

namespace FileTree

/-- What lies below a directory and takes part in a search: directories that are gone into, and items
that are asked whether they are files. -/
inductive IsSought (t : FileTree) (isRecursive : Bool) (excluded place : List String) :
    List String → Item → Prop
  | entered (tail : List String) (isDeep : isRecursive = true)
      (stands : t.item? (place ++ tail) = some .directory)
      (included : ∀ name ∈ tail, name ∉ excluded) :
      IsSought t isRecursive excluded place tail .directory
  | asked (tail : List String) (name : String) (item : Item)
      (stands : t.item? (place ++ (tail ++ [name])) = some item)
      (included : ∀ name ∈ tail, name ∉ excluded)
      (isAsked : if isRecursive then isSourceName name else tail = []) :
      IsSought t isRecursive excluded place (tail ++ [name]) item

/-- Two paths lead to one directory. What is searched for there has a path that is short enough behind
both of them or behind none, and where a link there meets the limit of links behind one of them, it
is no file behind the other. -/
structure Respells (t : FileTree) (isRecursive : Bool) (excluded : List String) (first second : Path)
    (place : List String) : Prop where
  firstLeads : t.stat first = .ok (place, .directory)
  secondLeads : t.stat second = .ok (place, .directory)
  lengths : ∀ tail item, t.IsSought isRecursive excluded place tail item →
    ((first.below tail).size ≤ maxPathSize ↔ (second.below tail).size ≤ maxPathSize)
  limit : ∀ tail target, t.IsSought isRecursive excluded place tail (.link target) →
    (t.stat (first.below tail) = .error .loop → t.askFile (second.below tail) = .ok false) ∧
    (t.stat (second.below tail) = .error .loop → t.askFile (first.below tail) = .ok false)

/-- Two searches end with the same fault, or with the same ways down. -/
def Mirrors (first second : Path) (x y : Except PathFault (List Path)) : Prop :=
  ∃ ways : Except PathFault (List (List String)),
    x = ways.map (·.map first.below) ∧ y = ways.map (·.map second.below)

section Mirrors

variable {t : FileTree} {first second p q : Path} {names : List String}

theorem Mirrors.append {x y x' y' : Except PathFault (List Path)} (here : Mirrors first second x y)
    (behind : Mirrors first second x' y') :
    Mirrors first second (do return (← x) ++ (← x')) (do return (← y) ++ (← y')) := by
  obtain ⟨ways, rfl, rfl⟩ := here
  obtain ⟨others, rfl, rfl⟩ := behind
  refine ⟨do return (← ways) ++ (← others), ?_, ?_⟩ <;> cases ways <;> cases others <;>
    simp [Except.map, bind, Except.bind, pure, Except.pure]

theorem mirrors_flatMapM {f : Path → Except PathFault (List Path)}
    (each : ∀ name ∈ names, Mirrors first second (f (p.child name)) (f (q.child name))) :
    Mirrors first second ((names.map p.child).flatMapM f) ((names.map q.child).flatMapM f) := by
  induction names with
  | nil => exact ⟨.ok [], rfl, rfl⟩
  | cons name names ih =>
    obtain ⟨one, others⟩ := List.forall_mem_cons.mp each
    simp only [List.map_cons, List.flatMapM_cons]
    exact one.append (ih others)

/-- The files among what two walks ask for in one directory have the same names, if what only one of
them asks for is no file. -/
theorem filesAmong_respelled {keeps keepsToo : String → Bool}
    (each : ∀ name ∈ names, (if keeps name then t.askFile (p.child name) else .ok false) =
      if keepsToo name then t.askFile (q.child name) else .ok false) :
    ∃ found : Except PathFault (List String),
      t.filesAmong ((names.filter keeps).map p.child) = found.map (·.map p.child) ∧
        t.filesAmong ((names.filter keepsToo).map q.child) = found.map (·.map q.child) := by
  have unasked (p : Path) (names : List String) (keeps : String → Bool) (name : String) :
      t.filesAmong (((name :: names).filter keeps).map p.child) = do
        let isFile ← (if keeps name then t.askFile (p.child name) else .ok false)
        let files ← t.filesAmong ((names.filter keeps).map p.child)
        return if isFile then p.child name :: files else files := by
    rw [List.filter_cons]
    cases keeps name with
    | true => simp only [if_true, List.map_cons, filesAmong]
    | false =>
      simp only [Bool.false_eq_true, if_false]
      cases t.filesAmong ((names.filter keeps).map p.child) <;> rfl
  induction names with
  | nil => exact ⟨.ok [], rfl, rfl⟩
  | cons name names ih =>
    obtain ⟨one, others⟩ := List.forall_mem_cons.mp each
    obtain ⟨found, first, second⟩ := ih others
    rw [unasked, unasked, first, second, one]
    refine ⟨do
      let isFile ← (if keepsToo name then t.askFile (q.child name) else .ok false)
      let files ← found
      return if isFile then name :: files else files, ?_, ?_⟩
    all_goals
      cases (if keepsToo name then t.askFile (q.child name) else .ok false) with
      | error fault => rfl
      | ok isFile => cases found <;> cases isFile <;> rfl

end Mirrors

section Sources

variable {t : FileTree} {isRecursive : Bool} {excluded place tail : List String} {first second : Path}
  (same : t.Respells isRecursive excluded first second place)

theorem askFile_of_loop {p : Path} (endless : t.stat p = .error .loop) : t.askFile p = .ok false := by
  rw [askFile, ask, endless]
  rfl

theorem askFile_of_isDirectory {p : Path} (isDirectory : t.isDirectory p) :
    t.askFile p = .ok false := by
  obtain ⟨place, found⟩ := isDirectory_iff.mp isDirectory
  exact ask_of_stat found

/-- Only a link leads on from a name in a directory. -/
theorem reach_noLink {base : List String} {name : String}
    (noLink : ∀ target, t.item? (base ++ [name]) ≠ some (.link target)) (other : List String)
    (target : Path) (rest : List String) : t.reach base [name] ≠ .link other target rest := by
  intro met
  obtain ⟨before, link, split, leads, -, found⟩ := reach_link met
  obtain ⟨rfl, last⟩ := List.append_eq_singleton_iff.mp split.symm |>.resolve_right (by simp)
  cases last
  obtain ⟨-, rfl⟩ := leads.deterministic (.here base)
  exact noLink target (item?_of_lookUp found)

section Directory

variable (here : t.stat (first.below tail) = .ok (place ++ tail, .directory))
  (there : t.stat (second.below tail) = .ok (place ++ tail, .directory))
include same here there

variable {name : String} {item : Item}
  (sought : t.IsSought isRecursive excluded place (tail ++ [name]) item)
include sought

theorem stat_respelled (stands : t.item? (place ++ tail ++ [name]) = some item)
    (noLink : ∀ target, item ≠ .link target) :
    t.stat (first.below (tail ++ [name])) = t.stat (second.below (tail ++ [name])) := by
  have fits := same.lengths _ _ sought
  rw [Path.below_concat, Path.below_concat, ← Path.below_singleton, ← Path.below_singleton] at fits ⊢
  refine stat_alike_of_noLink here there fits (reach_noLink ?_)
  intro target link
  exact noLink target (Option.some.inj (stands.symm.trans link))

theorem askFile_respelled (stands : t.item? (place ++ tail ++ [name]) = some item) :
    t.askFile (first.below (tail ++ [name])) = t.askFile (second.below (tail ++ [name])) := by
  by_cases isLink : ∃ target, item = .link target
  · obtain ⟨target, rfl⟩ := isLink
    obtain ⟨limit, limitToo⟩ := same.limit _ target sought
    have fits := same.lengths _ _ sought
    rw [Path.below_concat, Path.below_concat, ← Path.below_singleton, ← Path.below_singleton]
      at fits limit limitToo ⊢
    rcases stat_alike here there fits with endless | endless | equal
    · exact (askFile_of_loop endless).trans (limit endless).symm
    · exact (limitToo endless).trans (askFile_of_loop endless).symm
    · unfold askFile ask
      rw [equal]
  · unfold askFile ask
    rw [stat_respelled same here there sought stands fun target link => isLink ⟨target, link⟩]

end Directory

section Listed

variable {listed : Listing} (lists : t.listing (first.below tail) = .ok listed)
  (located : listed.place = place ++ tail)
  (there : t.stat (second.below tail) = .ok (place ++ tail, .directory))
  (included : ∀ name ∈ tail, name ∉ excluded)
include same lists located there included

/-- What a walk asks for in a directory has the same answer, and what it does not ask for is no file
behind the other path either. -/
theorem candidates_respelled (isDeep : isRecursive = true) :
    Mirrors first second (t.filesAmong (t.candidates (first.below tail) listed))
      (t.filesAmong (t.candidates (second.below tail) listed)) := by
  have here := stat_of_listing lists
  rw [located] at here
  have files := @filesAmong_respelled t (first.below tail) (second.below tail) listed.names
    (fun name => !t.leadsOn (first.below tail) listed.place name && isSourceName name)
    (fun name => !t.leadsOn (second.below tail) listed.place name && isSourceName name) ?_
  · obtain ⟨found, asked, askedToo⟩ := files
    refine ⟨found.map (·.map (tail ++ [·])), ?_, ?_⟩
    · rw [candidates, asked]
      cases found <;> simp [Except.map, Function.comp_def, Path.below_concat]
    · rw [candidates, askedToo]
      cases found <;> simp [Except.map, Function.comp_def, Path.below_concat]
  intro name inside
  cases named : isSourceName name with
  | false => simp
  | true =>
    obtain ⟨item, stands⟩ := (mem_listed lists).mp inside
    rw [located] at stands
    have sought : t.IsSought isRecursive excluded place (tail ++ [name]) item :=
      .asked tail name item (by rwa [← List.append_assoc]) included (by simp [isDeep, named])
    have asked := askFile_respelled same here there sought stands
    unfold leadsOn
    rw [located, stands]
    cases item with
    | directory => rfl
    | file bytes => simpa [Path.below_concat] using asked
    | link target =>
      have unasked (p : Path) : (if !t.isDirectory p && true then t.askFile p else .ok false) =
          t.askFile p := by
        by_cases isDirectory : t.isDirectory p
        · simp [isDirectory, askFile_of_isDirectory isDirectory]
        · simp [isDirectory]
      rw [Path.below_concat, Path.below_concat] at asked
      dsimp only
      rw [unasked, unasked, asked]

end Listed

omit same in
theorem sourcesIn_respelled (flat : t.Respells false excluded first second place) :
    Mirrors first second (t.sourcesIn first) (t.sourcesIn second) := by
  have lists : t.listing second = t.listing first := by
    unfold listing
    rw [flat.firstLeads, flat.secondLeads]
  simp only [sourcesIn, lists]
  cases found : t.listing first with
  | error fault => exact ⟨.error fault, rfl, rfl⟩
  | ok listed =>
    have located : place = listed.place := by
      cases flat.firstLeads.symm.trans (stat_of_listing found)
      rfl
    have answers : ∀ name ∈ listed.names,
        t.askFile (first.child name) = t.askFile (second.child name) := by
      intro name inside
      obtain ⟨item, stands⟩ := (mem_listed found).mp inside
      rw [← located] at stands
      have sought : t.IsSought false excluded place ([] ++ [name]) item :=
        .asked [] name item (by simpa using stands) (by simp) (by simp)
      have asked := askFile_respelled flat (by simpa using flat.firstLeads)
        (by simpa using flat.secondLeads) sought (by simpa using stands)
      simpa [Path.below_singleton] using asked
    have files := @filesAmong_respelled t first second listed.names (fun _ => true)
      (fun _ => true) (by simpa using answers)
    rw [List.filter_eq_self.mpr fun _ _ => rfl] at files
    obtain ⟨files, asked, askedToo⟩ := files
    have named (p : Path) (names : List String) :
        (names.map p.child).filter (fun q => q.names.getLast?.any isSourceName) =
          ((names.filter isSourceName).map ([·])).map p.below := by
      simp [List.filter_map, Function.comp_def, Path.child, Path.below]
    refine ⟨files.map fun names => (names.filter isSourceName).map ([·]), ?_, ?_⟩
    · simp only [bind, Except.bind, asked]
      cases files with
      | error fault => rfl
      | ok names => exact congrArg Except.ok (named first names)
    · simp only [bind, Except.bind, askedToo]
      cases files with
      | error fault => rfl
      | ok names => exact congrArg Except.ok (named second names)

variable (kept : t.WellKept)
include same kept

omit same in
/-- A directory in another one is found by its name in its place, if it is found at all. -/
theorem placed_of_stat {p : Path} {base reached : List String} {name : String} {item : Item}
    (here : t.stat p = .ok (base, .directory)) (stands : t.item? (base ++ [name]) = some .directory)
    (child : t.stat (p.child name) = .ok (reached, item)) : reached = base ++ [name] := by
  have isDown : name ≠ ".." := by
    rintro rfl
    exact kept.noUp _ (mem_items stands (by simp)) (by simp)
  obtain ⟨above, inner, directory, -, placed | isLink⟩ := stat_child child isDown
  · cases here.symm.trans directory
    exact placed
  · obtain ⟨above, _, target, directory, link⟩ := isLink_child.mp isLink
    cases here.symm.trans directory
    cases stands.symm.trans (item?_of_lookUp link)

/-- Two walks below one directory go the same ways. -/
theorem sourcesBelow_respelled (isDeep : isRecursive = true) (depth : Nat)
    (included : ∀ name ∈ tail, name ∉ excluded)
    (alike : t.stat (first.below tail) = t.stat (second.below tail))
    (placed : ∀ base item, t.stat (first.below tail) = .ok (base, item) → base = place ++ tail) :
    Mirrors first second
      (t.sourcesBelow ⟨isRecursive, false, excluded⟩ depth (first.below tail))
      (t.sourcesBelow ⟨isRecursive, false, excluded⟩ depth (second.below tail)) := by
  induction depth generalizing tail with
  | zero => exact ⟨.error .tooDeep, rfl, rfl⟩
  | succ depth ih =>
    have lists : t.listing (second.below tail) = t.listing (first.below tail) := by
      unfold listing
      rw [alike]
    cases found : t.listing (first.below tail) with
    | error fault =>
      rw [found] at lists
      rw [sourcesBelow_unlisted found, sourcesBelow_unlisted lists]
      exact ⟨.ok [], rfl, rfl⟩
    | ok listed =>
      have here := stat_of_listing found
      have located := placed _ _ here
      rw [located] at here
      have there := alike.symm.trans here
      simp only [sourcesBelow, lists, found, entered_eq]
      refine (candidates_respelled same found located there included isDeep).append
        (mirrors_flatMapM ?_)
      intro name inside
      obtain ⟨-, isEntered⟩ := List.mem_filter.mp inside
      simp only [Bool.and_eq_true, Bool.not_eq_true', List.contains_eq_mem,
        decide_eq_false_iff_not, decide_eq_true_eq, located] at isEntered
      obtain ⟨isIncluded, stands⟩ := isEntered
      have includedToo : ∀ other ∈ tail ++ [name], other ∉ excluded := by
        intro other member
        rcases List.mem_append.mp member with above | last
        · exact included other above
        · rw [List.mem_singleton.mp last]
          exact isIncluded
      have sought : t.IsSought isRecursive excluded place (tail ++ [name]) .directory :=
        .entered _ isDeep (by rwa [← List.append_assoc]) includedToo
      rw [← Path.below_concat, ← Path.below_concat]
      refine ih includedToo (stat_respelled same here there sought stands (by simp)) ?_
      intro base item child
      rw [Path.below_concat] at child
      rw [placed_of_stat kept here stands child, List.append_assoc]

theorem sourcesMet_respelled :
    Mirrors first second (t.sourcesMet ⟨isRecursive, false, excluded⟩ first)
      (t.sourcesMet ⟨isRecursive, false, excluded⟩ second) := by
  have alike := same.firstLeads.trans same.secondLeads.symm
  unfold sourcesMet
  cases deep : isRecursive with
  | true =>
    subst deep
    have placed : ∀ base item, t.stat (first.below []) = .ok (base, item) → base = place ++ [] := by
      intro base item found
      rw [Path.below_nil, same.firstLeads] at found
      cases found
      simp
    have below := sourcesBelow_respelled same kept rfl maxNested (by simp) (by simpa using alike)
      placed
    simpa using below
  | false =>
    subst deep
    exact sourcesIn_respelled same

theorem sources_respelled :
    Mirrors first second (t.sources ⟨isRecursive, false, excluded⟩ first)
      (t.sources ⟨isRecursive, false, excluded⟩ second) := by
  obtain ⟨ways, met, metToo⟩ := sourcesMet_respelled same kept
  have sorted (p : Path) (tails : List (List String)) :
      (tails.map p.below).mergeSort Path.le = (tails.mergeSort Path.le.compareNames).map p.below :=
    (List.map_mergeSort fun tail _ other _ => (p.le_below tail other).symm).symm
  refine ⟨ways.map (·.mergeSort Path.le.compareNames), ?_, ?_⟩
  · rw [sources, met]
    cases ways with
    | error fault => rfl
    | ok tails => exact congrArg Except.ok (sorted first tails)
  · rw [sources, metToo]
    cases ways with
    | error fault => rfl
    | ok tails => exact congrArg Except.ok (sorted second tails)

end Sources

end FileTree

namespace Scan
open FileTree

/-- Two runs return the same and leave the same in the collector. -/
structure Run.Agrees (run other : Run) : Prop where
  result : run.result = other.result
  collector : run.collector = other.collector

theorem Run.Agrees.andThen {run other : Run} (agrees : run.Agrees other)
    {next nextToo : Collector → Run} (rest : ∀ collector, (next collector).Agrees (nextToo collector)) :
    (run.andThen next).Agrees (other.andThen nextToo) := by
  unfold Run.andThen
  rw [← agrees.result, ← agrees.collector]
  cases run.result with
  | error fault => exact ⟨rfl, rfl⟩
  | ok ds =>
    have behind := rest run.collector
    exact ⟨congrArg (Except.map (ds ++ ·)) behind.result, behind.collector⟩

theorem Run.Agrees.recovered (run : Run) (note other : Event) :
    (run.recovered note).Agrees (run.recovered other) := by
  unfold Run.recovered
  cases run.result <;> exact ⟨rfl, rfl⟩

section Spellings

variable {tree : FileTree} {config : RuleConfig} {first second : Path} {place excluded : List String}
  {isRecursive : Bool}

/-- Files that are read and shown alike are scanned alike, one after the other. -/
theorem files_agree {tails : List (List String)} (each : ∀ tail ∈ tails,
      file tree config (some first) (first.below tail) =
        file tree config (some second) (second.below tail))
    (onError : OnError) (collector : Collector) :
    (files tree config first onError (tails.map first.below) collector).Agrees
      (files tree config second onError (tails.map second.below) collector) := by
  induction tails generalizing collector with
  | nil => exact ⟨rfl, rfl⟩
  | cons tail rest ih =>
    obtain ⟨one, others⟩ := List.forall_mem_cons.mp each
    simp only [List.map_cons, files, one]
    refine Run.Agrees.andThen ?_ (ih others)
    cases onError with
    | raise => exact ⟨rfl, rfl⟩
    | skip => exact Run.Agrees.recovered _ _ _

theorem file_respelled (rooted : tree.Rooted) (config : RuleConfig)
    (same : tree.Respells isRecursive excluded first second place) {tail : List String}
    (isFile : tree.isFile (first.below tail)) (isFileToo : tree.isFile (second.below tail)) :
    file tree config (some first) (first.below tail) =
      file tree config (some second) (second.below tail) := by
  obtain ⟨reached, bytes, found⟩ := isFile_iff.mp isFile
  obtain ⟨other, bytesToo, foundToo⟩ := isFile_iff.mp isFileToo
  obtain ⟨-, ⟨_, _, _, leads, _⟩, -⟩ := (stat_below same.firstLeads).mp found
  obtain ⟨-, ⟨_, _, _, leadsToo, _⟩, -⟩ := (stat_below same.secondLeads).mp foundToo
  obtain rfl := (leads.deterministic leadsToo).2
  have root := (resolve_of_stat rooted same.firstLeads).1
  have rootToo := (resolve_of_stat rooted same.secondLeads).1
  have absolute := (resolve_of_stat rooted found).1
  have absoluteToo := (resolve_of_stat rooted foundToo).1
  simp [file, shownPath, root, rootToo, absolute, absoluteToo]

variable (rooted : tree.Rooted) (kept : tree.WellKept) (config : RuleConfig)
  (same : tree.Respells isRecursive excluded first second place) (collector : Collector)
include rooted kept same

theorem directory_respelled (onError : OnError) :
    (directory tree config ⟨first, ⟨isRecursive, false, excluded⟩, onError⟩ collector).Agrees
      (directory tree config ⟨second, ⟨isRecursive, false, excluded⟩, onError⟩ collector) := by
  obtain ⟨ways, found, foundToo⟩ := sources_respelled same kept
  rw [directory_eq (isDirectory_iff.mpr ⟨place, same.firstLeads⟩),
    directory_eq (isDirectory_iff.mpr ⟨place, same.secondLeads⟩)]
  dsimp only
  rw [found, foundToo]
  cases ways with
  | error fault => exact ⟨rfl, rfl⟩
  | ok tails =>
    refine files_agree (fun tail inside => ?_) onError collector
    have isFile := ((mem_sources found).mp (List.mem_map_of_mem inside)).2
    have isFileToo := ((mem_sources foundToo).mp (List.mem_map_of_mem inside)).2
    exact file_respelled rooted config same isFile isFileToo

/-- The scan of a directory ends in the same way for two spellings of its root, with the same findings,
paths and order or with the same fault, whether a file that fails stops it or not. It returns if
nothing stops the search and failing files are passed over. -/
theorem scan_ignores_spelling :
    (∀ onError,
      (directory tree config ⟨first, ⟨isRecursive, false, excluded⟩, onError⟩ collector).result =
        (directory tree config ⟨second, ⟨isRecursive, false, excluded⟩, onError⟩ collector).result) ∧
    ((∃ ds, (directory tree config ⟨first, ⟨isRecursive, false, excluded⟩, .skip⟩ collector).result =
      .ok ds) ↔ tree.Searchable ⟨isRecursive, false, excluded⟩ first) := by
  refine ⟨fun onError => (directory_respelled rooted kept config same collector onError).result, ?_⟩
  rw [← sources_returns, directory_eq (isDirectory_iff.mpr ⟨place, same.firstLeads⟩)]
  dsimp only
  cases tree.sources ⟨isRecursive, false, excluded⟩ first with
  | error fault => exact iff_of_false (by simp) (by simp)
  | ok ps => exact iff_of_true ⟨_, files_skip tree config first ps collector⟩ ⟨ps, rfl⟩

end Spellings

section Examples

private theorem linkedTree_respells :
    linkedTree.Respells true SearchOptions.standard.excluded ⟨0, ["d"]⟩ ⟨0, ["r"]⟩ ["w", "d"] := by
  have ways : ∀ tail item, linkedTree.item? (["w", "d"] ++ tail) = some item →
      tail = [] ∨ tail = ["l.py"] := by
    intro tail item stands
    have listed := mem_items stands (by simp)
    simp only [linkedTree, FileTree.put, FileTree.empty] at listed
    simp at listed
    rcases listed with ⟨rfl, -⟩ | ⟨rfl, -⟩
    · exact .inl rfl
    · exact .inr rfl
  have placed : ∀ tail item, linkedTree.IsSought true SearchOptions.standard.excluded ["w", "d"] tail
      item → tail = [] ∨ tail = ["l.py"] := by
    intro tail item sought
    cases sought with
    | entered _ _ stands => exact ways _ _ stands
    | asked _ _ _ stands => exact ways _ _ stands
  refine ⟨rfl, rfl, ?_, ?_⟩
  · intro tail item sought
    rcases placed tail item sought with rfl | rfl <;> decide
  · intro tail target sought
    rcases placed tail _ sought with rfl | rfl <;> decide +kernel

theorem linkedTree_respelled :
    linkedTree.Rooted ∧ linkedTree.WellKept ∧
      linkedTree.Respells true SearchOptions.standard.excluded ⟨0, ["d"]⟩ ⟨0, ["r"]⟩ ["w", "d"] ∧
      (directory linkedTree .standard ⟨⟨0, ["d"]⟩, .standard, .skip⟩ .empty).result =
        (directory linkedTree .standard ⟨⟨0, ["r"]⟩, .standard, .skip⟩ .empty).result := by
  have rooted : linkedTree.Rooted :=
    ((((rooted_empty (by decide) (by decide)).put (by decide)).put (by decide)).put (by decide)).put
      (by decide)
  have kept : linkedTree.WellKept :=
    ((((wellKept_empty (by decide)).put (by decide) _).put (by decide) _).put (by decide) _).put
      (by decide) _
  exact ⟨rooted, kept, linkedTree_respells,
    (scan_ignores_spelling rooted kept .standard linkedTree_respells .empty).1 .skip⟩

/-- A directory with an empty source. -/
def plainTree : FileTree :=
  ((FileTree.empty ["w"]).put ["w", "d"] .directory).put ["w", "d", "a.py"] (.file [])

private theorem plainTree_kept : plainTree.Rooted ∧ plainTree.WellKept :=
  ⟨((rooted_empty (by decide) (by decide)).put (by decide)).put (by decide),
    ((wellKept_empty (by decide)).put (by decide) _).put (by decide) _⟩

private theorem plainTree_near (collector : Collector) :
    ∃ ds, (directory plainTree .standard ⟨⟨0, ["d"]⟩, .standard, .skip⟩ collector).result =
      .ok ds := by
  have isDirectory : plainTree.isDirectory ⟨0, ["d"]⟩ := by decide
  have found : plainTree.sources .standard ⟨0, ["d"]⟩ = .ok [⟨0, ["d", "a.py"]⟩] :=
    sources_of_met (by decide +kernel) (by decide)
  rw [directory_eq isDirectory]
  dsimp only
  rw [found]
  exact ⟨_, files_skip _ _ _ _ _⟩

/-- A path may be resolved through what is not there. -/
theorem resolved_missing_shows :
    ¬ ∀ tree : FileTree, tree.Rooted → tree.WellKept → ∀ first second place,
      tree.resolve first = .ok place → tree.resolve second = .ok place → tree.isDirectory place →
      (directory tree .standard ⟨first, .standard, .skip⟩ .empty).result =
        (directory tree .standard ⟨second, .standard, .skip⟩ .empty).result := by
  intro always
  obtain ⟨rooted, kept⟩ := plainTree_kept
  have same := always plainTree rooted kept ⟨0, ["d", "x", ".."]⟩ ⟨0, ["d"]⟩
    ⟨1, ["w", "d"]⟩ (by decide +kernel) (by decide +kernel) (by decide)
  have missing : (directory plainTree .standard
      ⟨⟨0, ["d", "x", ".."]⟩, .standard, .skip⟩ .empty).result =
      .error (.rootMissing ⟨0, ["d", "x", ".."]⟩) := rfl
  obtain ⟨ds, returns⟩ := plainTree_near .empty
  cases missing.symm.trans (same.trans returns)

/-- A number of ways into a directory and up again. -/
def winding (name : String) (n : Nat) : List String := (List.replicate n [name, ".."]).flatten

/-- A directory with a link to a source beside it that is reached over twenty other links. -/
def windingTree : FileTree :=
  ((((FileTree.empty ["w"]).put ["w", "d"] .directory).put ["w", "a"] (.link ⟨0, ["d"]⟩)).put
    ["w", "s.txt"] (.file (Text.Utf8.encode
      "import jdbc\njdbc.Client(connectionPool=dict(maxOpenConnections=0))\n"))).put
    ["w", "d", "x.py"] (.link ⟨0, ".." :: winding "a" 20 ++ ["s.txt"]⟩)

/-- Behind a path over many links a link that is searched for may be out of reach. -/
theorem limit_of_links_shows :
    ¬ ∀ tree : FileTree, tree.Rooted → tree.WellKept → ∀ first second place,
      tree.stat first = .ok (place, .directory) → tree.stat second = .ok (place, .directory) →
      (directory tree .standard ⟨first, .standard, .skip⟩ .empty).result =
        (directory tree .standard ⟨second, .standard, .skip⟩ .empty).result := by
  intro always
  have rooted : windingTree.Rooted := ((((rooted_empty (by decide) (by decide)).put (by decide)).put
    (by decide)).put (by decide)).put (by decide)
  have kept : windingTree.WellKept := ((((wellKept_empty (by decide)).put (by decide) _).put
    (by decide) _).put (by decide) _).put (by decide) _
  have far : windingTree.stat ⟨0, winding "a" 24 ++ ["a"]⟩ = .ok (["w", "d"], .directory) := by
    decide +kernel
  have near : windingTree.stat ⟨0, ["d"]⟩ = .ok (["w", "d"], .directory) := by decide +kernel
  have same := always windingTree rooted kept ⟨0, ["d"]⟩ ⟨0, winding "a" 24 ++ ["a"]⟩ ["w", "d"]
    near far
  have found : windingTree.sources .standard ⟨0, ["d"]⟩ = .ok [⟨0, ["d", "x.py"]⟩] :=
    sources_of_met (by decide +kernel) (by decide)
  have lost : windingTree.sources .standard ⟨0, winding "a" 24 ++ ["a"]⟩ = .ok [] :=
    sources_of_met (by decide +kernel) (by decide)
  have reported : (contribution windingTree .standard
      (some ⟨0, ["d"]⟩, ⟨0, ["d", "x.py"]⟩)).length = 1 := by
    decide +kernel
  rw [directory_eq (isDirectory_iff.mpr ⟨_, near⟩), directory_eq (isDirectory_iff.mpr ⟨_, far⟩)] at same
  dsimp only at same
  rw [found, lost] at same
  dsimp only at same
  rw [files_skip, files_skip] at same
  have none := congrArg List.length (Except.ok.inj same)
  simp [reported] at none

private theorem leads_winding (n : Nat) : Leads plainTree 0 ["w"] (winding "d" n) ["w"] := by
  induction n with
  | zero => exact .here _
  | succ n ih =>
    exact .down _ _ _ _ _ .directory (by decide) rfl (by simp) (.up _ _ _ _ rfl ih)

private theorem size_winding (n : Nat) : Path.namesSize (winding "d" n) = 5 * n := by
  induction n with
  | zero => rfl
  | succ n ih =>
    have sizes : "d".utf8ByteSize = 1 ∧ "..".utf8ByteSize = 2 := by decide
    have split : winding "d" (n + 1) = "d" :: ".." :: winding "d" n := rfl
    rw [split, Path.namesSize, Path.namesSize, ih]
    omega

/-- A path to a directory may be so long that a source there has one that is too long. -/
private theorem exists_long_root : ∃ far : Path,
    plainTree.stat far = .ok (["w", "d"], .directory) ∧ maxPathSize < (far.child "a.py").size := by
  have sizes : "d".utf8ByteSize = 1 ∧ "a.py".utf8ByteSize = 4 := by decide
  let far : Path := ⟨0, winding "d" 818 ++ ["d"]⟩
  have size : far.size = 4092 := by
    unfold far
    rw [Path.size, Path.namesSize_append, size_winding]
    simp [Path.namesSize, sizes.1]
  have leads : plainTree.Passes 0 far ["w", "d"] := (leads_winding 818).append
    (.down _ _ _ _ _ .directory (by decide) rfl (by simp) (.here _))
  refine ⟨far, stat_iff.mpr ⟨?_, ⟨0, by decide, leads⟩, rfl⟩, ?_⟩
  · rw [size]
    decide
  · rw [← Path.below_singleton, Path.size_below, size]
    simp [Path.namesSize, sizes.2, maxPathSize]

theorem length_shows :
    ¬ ∀ tree : FileTree, tree.Rooted → tree.WellKept → (∀ i ∈ tree.items, i.2.isLink = false) →
      ∀ first second place,
      tree.stat first = .ok (place, .directory) → tree.stat second = .ok (place, .directory) →
      (directory tree .standard ⟨first, .standard, .skip⟩ .empty).result =
        (directory tree .standard ⟨second, .standard, .skip⟩ .empty).result := by
  intro always
  obtain ⟨rooted, kept⟩ := plainTree_kept
  obtain ⟨far, found, tooLong⟩ := exists_long_root
  obtain ⟨ds, returns⟩ := plainTree_near .empty
  have same := always plainTree rooted kept (by decide) ⟨0, ["d"]⟩ far ["w", "d"] rfl found
  rw [returns, directory_eq (isDirectory_iff.mpr ⟨_, found⟩)] at same
  dsimp only at same
  cases ends : plainTree.sources .standard far with
  | error fault =>
    rw [ends] at same
    cases same
  | ok ps =>
    -- the search asks for the source, whose path is too long
    have lists := listing_ok_iff.mpr ⟨_, found, rfl, rfl⟩
    have asks : plainTree.Asks .standard far (far.child "a.py") :=
      ⟨0, far, _, .here far, lists, .head _⟩
    have walkable : plainTree.Walkable .standard maxNested far := sources_returns.mp ⟨ps, ends⟩
    obtain ⟨isFile, answer⟩ := walkable.isAnswered _ asks
    rw [askFile, ask, stat, follow, if_pos tooLong] at answer
    cases answer

/-- Neither paths that are resolved to one directory nor paths that lead to one are all scanned
alike, even where there are no links. -/
theorem spellings_show :
    (¬ ∀ tree : FileTree, tree.Rooted → tree.WellKept → ∀ first second place,
      tree.resolve first = .ok place → tree.resolve second = .ok place → tree.isDirectory place →
      (directory tree .standard ⟨first, .standard, .skip⟩ .empty).result =
        (directory tree .standard ⟨second, .standard, .skip⟩ .empty).result) ∧
    (¬ ∀ tree : FileTree, tree.Rooted → tree.WellKept → ∀ first second place,
      tree.stat first = .ok (place, .directory) → tree.stat second = .ok (place, .directory) →
      (directory tree .standard ⟨first, .standard, .skip⟩ .empty).result =
        (directory tree .standard ⟨second, .standard, .skip⟩ .empty).result) ∧
    ¬ ∀ tree : FileTree, tree.Rooted → tree.WellKept → (∀ i ∈ tree.items, i.2.isLink = false) →
      ∀ first second place,
      tree.stat first = .ok (place, .directory) → tree.stat second = .ok (place, .directory) →
      (directory tree .standard ⟨first, .standard, .skip⟩ .empty).result =
        (directory tree .standard ⟨second, .standard, .skip⟩ .empty).result :=
  ⟨resolved_missing_shows, limit_of_links_shows, length_shows⟩

end Examples

end Scan
end PoolLint
