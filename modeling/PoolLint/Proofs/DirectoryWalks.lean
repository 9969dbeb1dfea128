import PoolLint.Files.Discovery
import PoolLint.Proofs.PathResolution

/-! What a search for sources returns, and when it does. A walk stops only where directories lie too
deep in each other, or where it asks for a file and gets no answer. What it returns otherwise are the
files among what it asks for, in the directories that it goes into. -/
namespace PoolLint.FileTree

section Steps

variable {ε α β : Type}

theorem bind_ok {x : Except ε α} {f : α → Except ε β} {b : β} :
    (x >>= f) = .ok b ↔ ∃ a, x = .ok a ∧ f a = .ok b := by
  cases x with
  | error e =>
    refine iff_of_false (fun done => ?_) ?_
    · cases done
    · rintro ⟨a, done, -⟩
      cases done
  | ok a =>
    constructor
    · intro done
      exact ⟨a, rfl, done⟩
    · rintro ⟨_, same, done⟩
      cases same
      exact done

/-- What a step returns, nothing if it stops. -/
def returned (x : Except ε (List β)) : List β := x.toOption.getD []

theorem flatMapM_ok {f : α → Except ε (List β)} {xs : List α} {ys : List β} :
    xs.flatMapM f = .ok ys ↔
      (∀ x ∈ xs, ∃ part, f x = .ok part) ∧ ys = xs.flatMap fun x => returned (f x) := by
  induction xs generalizing ys with
  | nil =>
    rw [List.flatMapM_nil]
    constructor
    · intro done
      cases done
      exact ⟨by simp, rfl⟩
    · rintro ⟨-, rfl⟩
      rfl
  | cons x xs ih =>
    simp only [List.flatMapM_cons, bind_ok, ih, List.forall_mem_cons, List.flatMap_cons]
    constructor
    · rintro ⟨part, first, parts, ⟨others, rfl⟩, done⟩
      cases done
      exact ⟨⟨⟨part, first⟩, others⟩, by simp [first, returned, Except.toOption]⟩
    · rintro ⟨⟨⟨part, first⟩, others⟩, rfl⟩
      refine ⟨part, first, _, ⟨others, rfl⟩, ?_⟩
      simp [first, returned, Except.toOption, pure, Except.pure]

end Steps

section Asked

variable {t : FileTree} {p q : Path} {ps qs : List Path}

theorem isFile_of_askFile {isFile : Bool} (asked : t.askFile p = .ok isFile) :
    t.isFile p = isFile := by
  unfold askFile ask at asked
  unfold FileTree.isFile
  cases found : t.stat p with
  | error fault =>
    rw [found] at asked
    dsimp only at asked
    split at asked
    · exact Except.ok.inj asked
    · cases asked
  | ok reached =>
    obtain ⟨place, item⟩ := reached
    rw [found] at asked
    cases item <;> exact Except.ok.inj asked

theorem filesAmong_ok : t.filesAmong ps = .ok qs ↔
    (∀ p ∈ ps, ∃ isFile, t.askFile p = .ok isFile) ∧ qs = ps.filter t.isFile := by
  induction ps generalizing qs with
  | nil =>
    rw [filesAmong]
    constructor
    · intro done
      cases done
      exact ⟨by simp, rfl⟩
    · rintro ⟨-, rfl⟩
      rfl
  | cons p ps ih =>
    simp only [filesAmong, bind_ok, ih, List.forall_mem_cons]
    constructor
    · rintro ⟨isFile, asked, files, ⟨others, rfl⟩, done⟩
      cases done
      refine ⟨⟨⟨isFile, asked⟩, others⟩, ?_⟩
      rw [List.filter_cons, isFile_of_askFile asked]
    · rintro ⟨⟨⟨isFile, asked⟩, others⟩, rfl⟩
      refine ⟨isFile, asked, _, ⟨others, rfl⟩, ?_⟩
      rw [List.filter_cons, isFile_of_askFile asked]
      rfl

end Asked

theorem listing_ok_iff {t : FileTree} {p : Path} {listed : Listing} : t.listing p = .ok listed ↔
    ∃ place, t.stat p = .ok (place, .directory) ∧ faultAt? t.unreadable place = none ∧
      listed = ⟨place, t.namesIn place⟩ := by
  unfold listing
  cases found : t.stat p with
  | error fault => simp
  | ok reached =>
    obtain ⟨place, item⟩ := reached
    cases item with
    | file bytes => simp
    | link target => simp
    | directory =>
      cases unlisted : faultAt? t.unreadable place <;> simp [unlisted, eq_comm]

section Walks

variable {t : FileTree} {options : SearchOptions} {p q d : Path} {listed : Listing} {n depth : Nat}
  {ps : List Path}

/-- A walk from one directory goes into another, over a number of steps down. -/
inductive Enters (t : FileTree) (options : SearchOptions) : Nat → Path → Path → Prop
  | here (p : Path) : Enters t options 0 p p
  | down (n : Nat) (p d q : Path) (listed : Listing) (lists : t.listing p = .ok listed)
      (isEntered : d ∈ t.entered options p listed) (onward : Enters t options n d q) :
      Enters t options (n + 1) p q

/-- A walk asks whether a path is a file. -/
def Asks (t : FileTree) (options : SearchOptions) (p q : Path) : Prop :=
  ∃ n d listed, t.Enters options n p d ∧ t.listing d = .ok listed ∧ q ∈ t.candidates d listed

theorem asks_unlisted {fault : PathFault} (unlisted : t.listing p = .error fault) :
    ¬ t.Asks options p q := by
  rintro ⟨n, d, listed, enters, lists, -⟩
  cases enters with
  | here => cases unlisted.symm.trans lists
  | down _ _ _ _ _ above => cases unlisted.symm.trans above

theorem asks_listed (lists : t.listing p = .ok listed) : t.Asks options p q ↔
    q ∈ t.candidates p listed ∨ ∃ d ∈ t.entered options p listed, t.Asks options d q := by
  constructor
  · rintro ⟨n, d, other, enters, above, member⟩
    cases enters with
    | here =>
      cases lists.symm.trans above
      exact .inl member
    | down n _ e _ _ aboveToo isEntered onward =>
      cases lists.symm.trans aboveToo
      exact .inr ⟨e, isEntered, n, d, other, onward, above, member⟩
  · rintro (member | ⟨e, isEntered, n, d, other, onward, above, member⟩)
    · exact ⟨0, p, listed, .here p, lists, member⟩
    · exact ⟨n + 1, d, other, .down n p e d listed lists isEntered onward, above, member⟩

/-- A walk comes to its end: it goes into no directory that lies too deep, and whatever it asks for
gives an answer. -/
structure Walkable (t : FileTree) (options : SearchOptions) (depth : Nat) (p : Path) : Prop where
  isShallow : ∀ n q, t.Enters options n p q → n < depth
  isAnswered : ∀ q, t.Asks options p q → ∃ isFile, t.askFile q = .ok isFile

theorem walkable_unlisted {fault : PathFault} (unlisted : t.listing p = .error fault) :
    t.Walkable options (depth + 1) p where
  isShallow := by
    intro n q enters
    cases enters with
    | here => exact Nat.succ_pos depth
    | down _ _ _ _ _ above => cases unlisted.symm.trans above
  isAnswered := fun q asks => absurd asks (asks_unlisted unlisted)

theorem walkable_listed (lists : t.listing p = .ok listed) :
    t.Walkable options (depth + 1) p ↔
      (∀ q ∈ t.candidates p listed, ∃ isFile, t.askFile q = .ok isFile) ∧
        ∀ d ∈ t.entered options p listed, t.Walkable options depth d := by
  constructor
  · intro walkable
    refine ⟨fun q member => walkable.isAnswered q ((asks_listed lists).mpr (.inl member)), ?_⟩
    intro d isEntered
    refine ⟨fun n q enters => ?_, fun q asks => ?_⟩
    · have deeper := walkable.isShallow _ q (.down n p d q listed lists isEntered enters)
      exact Nat.lt_of_succ_lt_succ deeper
    · exact walkable.isAnswered q ((asks_listed lists).mpr (.inr ⟨d, isEntered, asks⟩))
  · rintro ⟨answered, below⟩
    refine ⟨fun n q enters => ?_, fun q asks => ?_⟩
    · cases enters with
      | here => exact Nat.succ_pos depth
      | down n _ d _ _ above isEntered onward =>
        cases lists.symm.trans above
        exact Nat.succ_lt_succ ((below d isEntered).isShallow n q onward)
    · rcases (asks_listed lists).mp asks with member | ⟨d, isEntered, asks⟩
      · exact answered q member
      · exact (below d isEntered).isAnswered q asks

theorem not_walkable_zero : ¬ t.Walkable options 0 p := fun walkable =>
  absurd (walkable.isShallow 0 p (.here p)) (Nat.lt_irrefl 0)

theorem sourcesBelow_listed (lists : t.listing p = .ok listed) :
    t.sourcesBelow options (depth + 1) p = .ok ps ↔
      (∀ q ∈ t.candidates p listed, ∃ isFile, t.askFile q = .ok isFile) ∧
      (∀ d ∈ t.entered options p listed, ∃ below, t.sourcesBelow options depth d = .ok below) ∧
      ps = (t.candidates p listed).filter t.isFile ++
        (t.entered options p listed).flatMap fun d => returned (t.sourcesBelow options depth d) := by
  simp only [sourcesBelow, lists, bind_ok, filesAmong_ok, flatMapM_ok]
  constructor
  · rintro ⟨here, ⟨answered, rfl⟩, below, ⟨all, rfl⟩, done⟩
    cases done
    exact ⟨answered, all, rfl⟩
  · rintro ⟨answered, all, rfl⟩
    exact ⟨_, ⟨answered, rfl⟩, _, ⟨all, rfl⟩, rfl⟩

theorem sourcesBelow_unlisted {fault : PathFault} (unlisted : t.listing p = .error fault) :
    t.sourcesBelow options (depth + 1) p = .ok [] := by
  rw [sourcesBelow, unlisted]

/-- A walk returns exactly if nothing stops it. -/
theorem sourcesBelow_returns :
    (∃ ps, t.sourcesBelow options depth p = .ok ps) ↔ t.Walkable options depth p := by
  induction depth generalizing p with
  | zero =>
    refine iff_of_false ?_ not_walkable_zero
    rintro ⟨ps, done⟩
    cases done
  | succ depth ih =>
    cases lists : t.listing p with
    | error fault => exact iff_of_true ⟨[], sourcesBelow_unlisted lists⟩ (walkable_unlisted lists)
    | ok listed =>
      simp only [sourcesBelow_listed lists, walkable_listed lists, ih]
      constructor
      · rintro ⟨_, answered, below, -⟩
        exact ⟨answered, below⟩
      · rintro ⟨answered, below⟩
        exact ⟨_, answered, below, rfl⟩

/-- What a walk returns are the files among what it asks for. -/
theorem mem_sourcesBelow (done : t.sourcesBelow options depth p = .ok ps) :
    q ∈ ps ↔ t.Asks options p q ∧ t.isFile q := by
  induction depth generalizing p ps with
  | zero => cases done
  | succ depth ih =>
    cases lists : t.listing p with
    | error fault =>
      cases done.symm.trans (sourcesBelow_unlisted lists)
      simp [asks_unlisted lists]
    | ok listed =>
      obtain ⟨-, all, rfl⟩ := (sourcesBelow_listed lists).mp done
      have below : ∀ d ∈ t.entered options p listed,
          (q ∈ returned (t.sourcesBelow options depth d) ↔ t.Asks options d q ∧ t.isFile q) := by
        intro d isEntered
        obtain ⟨found, ends⟩ := all d isEntered
        rw [← ih ends, ends]
        rfl
      rw [asks_listed lists, or_and_right, List.mem_append, List.mem_filter, List.mem_flatMap]
      refine or_congr_right ?_
      constructor
      · rintro ⟨d, isEntered, inside⟩
        obtain ⟨asks, isFile⟩ := (below d isEntered).mp inside
        exact ⟨⟨d, isEntered, asks⟩, isFile⟩
      · rintro ⟨⟨d, isEntered, asks⟩, isFile⟩
        exact ⟨d, isEntered, (below d isEntered).mpr ⟨asks, isFile⟩⟩

end Walks

section Searches

variable {t : FileTree} {options : SearchOptions} {root q : Path} {ps : List Path}

/-- Nothing stops a search. One that stays in its directory has to list it, and asks for all that is
in it. -/
def Searchable (t : FileTree) (options : SearchOptions) (root : Path) : Prop :=
  if options.isRecursive then t.Walkable options maxNested root
  else ∃ listed, t.listing root = .ok listed ∧
    ∀ name ∈ listed.names, ∃ isFile, t.askFile (root.child name) = .ok isFile

/-- A search comes upon a path that is named like a source. -/
def ComesUpon (t : FileTree) (options : SearchOptions) (root q : Path) : Prop :=
  if options.isRecursive then t.Asks options root q
  else ∃ listed name, t.listing root = .ok listed ∧ name ∈ listed.names ∧ isSourceName name ∧
    q = root.child name

theorem sourcesIn_ok : t.sourcesIn root = .ok ps ↔ ∃ listed, t.listing root = .ok listed ∧
    (∀ name ∈ listed.names, ∃ isFile, t.askFile (root.child name) = .ok isFile) ∧
    ps = ((listed.names.map root.child).filter t.isFile).filter
      fun q => q.names.getLast?.any isSourceName := by
  simp only [sourcesIn, bind_ok, filesAmong_ok, List.forall_mem_map]
  refine exists_congr fun listed => and_congr_right fun _ => ?_
  constructor
  · rintro ⟨files, ⟨answered, rfl⟩, done⟩
    cases done
    exact ⟨answered, rfl⟩
  · rintro ⟨answered, rfl⟩
    exact ⟨_, ⟨answered, rfl⟩, rfl⟩

theorem sourcesMet_returns :
    (∃ ps, t.sourcesMet options root = .ok ps) ↔ t.Searchable options root := by
  unfold sourcesMet Searchable
  split
  · exact sourcesBelow_returns
  · simp only [sourcesIn_ok]
    rw [exists_comm]
    simp

theorem mem_sourcesMet (done : t.sourcesMet options root = .ok ps) :
    q ∈ ps ↔ t.ComesUpon options root q ∧ t.isFile q := by
  unfold ComesUpon
  unfold sourcesMet at done
  split at done
  · rename_i deep
    rw [if_pos deep]
    exact mem_sourcesBelow done
  · rename_i flat
    obtain ⟨listed, lists, -, rfl⟩ := sourcesIn_ok.mp done
    rw [if_neg flat]
    simp only [List.mem_filter, List.mem_map]
    constructor
    · rintro ⟨⟨⟨name, inside, rfl⟩, isFile⟩, isNamed⟩
      exact ⟨⟨listed, name, lists, inside, by simpa [Path.child] using isNamed, rfl⟩, isFile⟩
    · rintro ⟨⟨other, name, listsToo, inside, isNamed, rfl⟩, isFile⟩
      cases lists.symm.trans listsToo
      exact ⟨⟨⟨name, inside, rfl⟩, isFile⟩, by simpa [Path.child] using isNamed⟩

theorem sources_ok : t.sources options root = .ok ps ↔
    ∃ met, t.sourcesMet options root = .ok met ∧ ps = met.mergeSort Path.le := by
  unfold sources
  cases t.sourcesMet options root <;> simp [Except.map, eq_comm]

/-- A search returns exactly if nothing stops it. -/
theorem sources_returns :
    (∃ ps, t.sources options root = .ok ps) ↔ t.Searchable options root := by
  rw [← sourcesMet_returns]
  simp only [sources_ok]
  rw [exists_comm]
  simp

/-- What a search returns are the files among what it comes upon. -/
theorem mem_sources (done : t.sources options root = .ok ps) :
    q ∈ ps ↔ t.ComesUpon options root q ∧ t.isFile q := by
  obtain ⟨met, ends, rfl⟩ := sources_ok.mp done
  rw [List.mem_mergeSort, mem_sourcesMet ends]

end Searches

end PoolLint.FileTree
