import Mathlib.Data.List.Nodup
import Mathlib.Data.List.Perm.Basic
import PoolLint.Proofs.DirectoryWalks
import PoolLint.Proofs.RootedTrees

/-! Trees that hold the same items, listed in any order and with any bytes in their files. Paths lead
to the same places in them, links are resolved alike, and searches come upon the same paths and stop
in the same cases. -/
namespace PoolLint

namespace Path

theorem lt_or_gt_of_ne {a b : String} (differ : a ≠ b) : a < b ∨ b < a := by
  by_cases less : a < b
  · exact .inl less
  · by_cases more : b < a
    · exact .inr more
    · exact absurd (String.le_antisymm (String.not_lt.mp more) (String.not_lt.mp less)) differ

theorem compareNames_total (as bs : List String) :
    le.compareNames as bs = true ∨ le.compareNames bs as = true := by
  induction as generalizing bs with
  | nil => exact .inl (by cases bs <;> rfl)
  | cons a as ih =>
    cases bs with
    | nil => exact .inr rfl
    | cons b bs =>
      by_cases same : a = b
      · simpa [le.compareNames, same] using ih bs
      · simpa [le.compareNames, same, Ne.symm same] using lt_or_gt_of_ne same

theorem compareNames_trans {as bs cs : List String} (first : le.compareNames as bs = true)
    (second : le.compareNames bs cs = true) : le.compareNames as cs = true := by
  induction as generalizing bs cs with
  | nil => cases cs <;> rfl
  | cons a as ih =>
    cases bs with
    | nil => cases first
    | cons b bs =>
      cases cs with
      | nil => cases second
      | cons c cs =>
        simp only [le.compareNames, beq_iff_eq] at first second ⊢
        split at first
        · rename_i same
          subst same
          split at second
          · rename_i same
            rw [if_pos same]
            exact ih first second
          · rename_i differ
            rw [if_neg differ]
            exact second
        · split at second
          · rename_i differ same
            subst same
            rw [if_neg differ]
            exact first
          · have less : a < c := String.lt_trans (of_decide_eq_true first) (of_decide_eq_true second)
            have apart : a ≠ c := fun same => String.lt_irrefl c (same ▸ less)
            rw [if_neg apart]
            exact decide_eq_true less

theorem compareNames_antisymm {as bs : List String} (first : le.compareNames as bs = true)
    (second : le.compareNames bs as = true) : as = bs := by
  induction as generalizing bs with
  | nil =>
    cases bs with
    | nil => rfl
    | cons b bs => cases second
  | cons a as ih =>
    cases bs with
    | nil => cases first
    | cons b bs =>
      simp only [le.compareNames, beq_iff_eq] at first second
      by_cases same : a = b
      · rw [if_pos same] at first
        rw [if_pos same.symm] at second
        rw [same, ih first second]
      · rw [if_neg same] at first
        rw [if_neg (Ne.symm same)] at second
        exact absurd (of_decide_eq_true second) (String.lt_asymm (of_decide_eq_true first))

theorem le_iff (p q : Path) : p.le q = true ↔
    p.slashes < q.slashes ∨ p.slashes = q.slashes ∧ le.compareNames p.names q.names = true := by
  unfold le
  by_cases same : p.slashes = q.slashes
  · simp [same]
  · simp [same]

theorem le_total (p q : Path) : (p.le q || q.le p) = true := by
  rw [Bool.or_eq_true, le_iff, le_iff]
  rcases Nat.lt_trichotomy p.slashes q.slashes with less | same | more
  · exact .inl (.inl less)
  · rcases compareNames_total p.names q.names with forward | back
    · exact .inl (.inr ⟨same, forward⟩)
    · exact .inr (.inr ⟨same.symm, back⟩)
  · exact .inr (.inl more)

theorem le_trans (p q r : Path) (first : p.le q = true) (second : q.le r = true) :
    p.le r = true := by
  rw [le_iff] at first second ⊢
  rcases first with less | ⟨same, names⟩
  · left
    omega
  · rcases second with less | ⟨sameToo, namesToo⟩
    · left
      omega
    · right
      exact ⟨same.trans sameToo, compareNames_trans names namesToo⟩

theorem le_antisymm {p q : Path} (first : p.le q = true) (second : q.le p = true) : p = q := by
  rw [le_iff] at first second
  obtain ⟨slashes, names⟩ := p
  obtain ⟨slashes', names'⟩ := q
  rcases first with less | ⟨same, forward⟩
  · rcases second with more | ⟨same, -⟩ <;> dsimp only at * <;> omega
  · rcases second with more | ⟨-, back⟩
    · dsimp only at *
      omega
    · cases same
      exact congrArg (Path.mk slashes) (compareNames_antisymm forward back)

end Path

/-- An item without what a file holds. -/
def Item.shape : Item → Item
  | .file _ => .file []
  | item => item

namespace FileTree

def Reach.shape : Reach → Reach
  | .found names item => .found names item.shape
  | reached => reached

/-- Two trees hold the same items, in any order and with any bytes in the files. -/
structure Alike (t other : FileTree) : Prop where
  places : (t.items.map (·.1)).Perm (other.items.map (·.1))
  shapes : ∀ names, (t.item? names).map Item.shape = (other.item? names).map Item.shape
  linkSize : t.linkSize = other.linkSize
  workingDirectory : t.workingDirectory = other.workingDirectory
  unreadable : t.unreadable = other.unreadable
  barred : t.barred = other.barred

namespace Alike

variable {t other : FileTree} (alike : t.Alike other)
include alike

theorem symm : other.Alike t where
  places := alike.places.symm
  shapes := fun names => (alike.shapes names).symm
  linkSize := alike.linkSize.symm
  workingDirectory := alike.workingDirectory.symm
  unreadable := alike.unreadable.symm
  barred := alike.barred.symm

theorem item? (names : List String) :
    (∃ bytes bytes', t.item? names = some (.file bytes) ∧ other.item? names = some (.file bytes')) ∨
      t.item? names = other.item? names ∧ ∀ bytes, t.item? names ≠ some (.file bytes) := by
  have same := alike.shapes names
  cases here : t.item? names with
  | none =>
    rw [here] at same
    right
    refine ⟨?_, by simp⟩
    cases there : other.item? names with
    | none => rfl
    | some item => simp [there] at same
  | some item =>
    rw [here] at same
    cases there : other.item? names with
    | none => simp [there] at same
    | some item' =>
      rw [there] at same
      have shapes : item.shape = item'.shape := Option.some.inj same
      cases item <;> cases item' <;> simp_all [Item.shape]

theorem opened (names : List String) : t.opened names = other.opened names := by
  unfold FileTree.opened
  rw [alike.barred]
  rcases alike.item? names with ⟨bytes, bytes', here, there⟩ | ⟨same, -⟩
  · rw [here, there]
  · rw [same]

theorem lookUp (directory : List String) (name : String) :
    (∃ bytes bytes', t.lookUp directory name = .ok (some (.file bytes)) ∧
      other.lookUp directory name = .ok (some (.file bytes'))) ∨
      t.lookUp directory name = other.lookUp directory name := by
  unfold FileTree.lookUp
  rw [alike.opened]
  cases other.opened directory with
  | error fault => exact .inr rfl
  | ok _ =>
    by_cases long : maxNameSize < name.utf8ByteSize
    · simp [long]
    · rcases alike.item? (directory ++ [name]) with ⟨bytes, bytes', here, there⟩ | ⟨same, -⟩
      · exact .inl ⟨bytes, bytes', by simp [long, here], by simp [long, there]⟩
      · exact .inr (by simp [same])

theorem reach (current names : List String) :
    (t.reach current names).shape = (other.reach current names).shape := by
  induction names generalizing current with
  | nil =>
    unfold FileTree.reach
    rcases alike.item? current with ⟨bytes, bytes', here, there⟩ | ⟨same, -⟩
    · simp [here, there, Reach.shape, Item.shape]
    · rw [same]
  | cons name rest ih =>
    unfold FileTree.reach
    by_cases up : name = ".."
    · rw [alike.opened]
      cases other.opened current with
      | error fault => simp [up]
      | ok _ => simpa [up] using ih current.dropLast
    · have onward := ih (current ++ [name])
      rcases alike.lookUp current name with ⟨bytes, bytes', here, there⟩ | same
      · simpa [up, here, there] using onward
      · rw [same]
        cases other.lookUp current name with
        | error fault => simp [up]
        | ok held =>
          cases held with
          | none => simp [up]
          | some item => cases item <;> simp [up, onward]

theorem followFrom (links : Nat) (current names : List String) :
    (t.followFrom links current names).shape = (other.followFrom links current names).shape := by
  induction links generalizing current names with
  | zero => rfl
  | succ links ih =>
    have step := alike.reach current names
    unfold FileTree.followFrom
    cases here : t.reach current names <;> cases there : other.reach current names <;>
      simp_all [Reach.shape]

theorem follow (p : Path) : (t.follow p).shape = (other.follow p).shape := by
  have start : other.startOf p = t.startOf p := by simp [startOf, alike.workingDirectory]
  unfold FileTree.follow
  rw [start]
  split
  · rfl
  · exact alike.followFrom (maxLinks + 1) (t.startOf p) p.names

theorem stat (p : Path) :
    (t.stat p).map (fun r => (r.1, r.2.shape)) = (other.stat p).map fun r => (r.1, r.2.shape) := by
  have reached := alike.follow p
  unfold FileTree.stat
  cases here : t.follow p <;> cases there : other.follow p <;>
    simp_all [Reach.shape, Except.map]

theorem stat_ok {p : Path} {names : List String} {item : Item}
    (found : t.stat p = .ok (names, item)) :
    ∃ item', other.stat p = .ok (names, item') ∧ item.shape = item'.shape := by
  have same := alike.stat p
  rw [found] at same
  cases there : other.stat p with
  | error fault =>
    rw [there] at same
    cases same
  | ok reached =>
    rw [there] at same
    obtain ⟨names', item'⟩ := reached
    obtain ⟨rfl, shapes⟩ := Prod.mk.inj (Except.ok.inj same)
    exact ⟨item', rfl, shapes⟩

theorem stat_error {p : Path} {fault : PathFault} (failed : t.stat p = .error fault) :
    other.stat p = .error fault := by
  have same := alike.stat p
  rw [failed] at same
  cases there : other.stat p with
  | error fault' =>
    rw [there] at same
    cases same
    rfl
  | ok reached =>
    rw [there] at same
    cases same

theorem isDirectory (p : Path) : t.isDirectory p = other.isDirectory p := by
  unfold FileTree.isDirectory
  cases found : t.stat p with
  | error fault => rw [alike.stat_error found]
  | ok reached =>
    obtain ⟨names, item⟩ := reached
    obtain ⟨item', there, shapes⟩ := alike.stat_ok found
    rw [there]
    cases item <;> cases item' <;> simp_all [Item.shape]

theorem isFile (p : Path) : t.isFile p = other.isFile p := by
  unfold FileTree.isFile
  cases found : t.stat p with
  | error fault => rw [alike.stat_error found]
  | ok reached =>
    obtain ⟨names, item⟩ := reached
    obtain ⟨item', there, shapes⟩ := alike.stat_ok found
    rw [there]
    cases item <;> cases item' <;> simp_all [Item.shape]

/-- A question that does not look at what files hold has the same answer. -/
theorem ask {holds : Item → Bool} (isBlind : ∀ item : Item, holds item.shape = holds item)
    (p : Path) : t.ask holds p = other.ask holds p := by
  unfold FileTree.ask
  cases found : t.stat p with
  | error fault => rw [alike.stat_error found]
  | ok reached =>
    obtain ⟨names, item⟩ := reached
    obtain ⟨item', there, shapes⟩ := alike.stat_ok found
    rw [there]
    dsimp only
    rw [← isBlind item, shapes, isBlind]

theorem askFile (p : Path) : t.askFile p = other.askFile p :=
  alike.ask (fun item => by cases item <;> rfl) p

theorem linkAt? (names : List String) : t.linkAt? names = other.linkAt? names := by
  have reached := alike.reach [] names
  unfold FileTree.linkAt?
  cases here : t.reach [] names <;> cases there : other.reach [] names <;>
    simp_all [Reach.shape]

theorem unlinkFrom (fuel : Nat) (open_ : List (List String)) (current names : List String) :
    t.unlinkFrom fuel open_ current names = other.unlinkFrom fuel open_ current names := by
  induction fuel generalizing open_ current names with
  | zero => rfl
  | succ fuel ih =>
    cases names with
    | nil => rfl
    | cons name rest => simp only [FileTree.unlinkFrom, ih, alike.linkAt?]

theorem resolve (p : Path) : t.resolve p = other.resolve p := by
  unfold FileTree.resolve
  rw [alike.unlinkFrom, alike.linkSize, startOf, startOf, alike.workingDirectory]
  dsimp only
  cases found : t.stat _ with
  | error fault => rw [alike.stat_error found]
  | ok reached =>
    obtain ⟨item', there, -⟩ := alike.stat_ok found
    rw [there]

theorem namesIn (directory : List String) :
    (t.namesIn directory).Perm (other.namesIn directory) := by
  have kept := alike.places.filterMap
    fun place => if place.dropLast == directory then place.getLast? else none
  simpa [FileTree.namesIn, List.filterMap_map, Function.comp_def] using kept

theorem listing_ok {p : Path} {listed : Listing} (lists : t.listing p = .ok listed) :
    ∃ names, other.listing p = .ok ⟨listed.place, names⟩ ∧ listed.names.Perm names := by
  obtain ⟨place, found, readable, rfl⟩ := listing_ok_iff.mp lists
  obtain ⟨item', there, shapes⟩ := alike.stat_ok found
  cases item' <;> cases shapes
  rw [alike.unreadable] at readable
  exact ⟨_, listing_ok_iff.mpr ⟨place, there, readable, rfl⟩, alike.namesIn place⟩

theorem leadsOn (p : Path) (place : List String) (name : String) :
    t.leadsOn p place name = other.leadsOn p place name := by
  unfold FileTree.leadsOn
  rw [alike.isDirectory]
  rcases alike.item? (place ++ [name]) with ⟨bytes, bytes', here, there⟩ | ⟨same, -⟩
  · rw [here, there]
  · rw [same]

theorem isLinked (place : List String) (name : String) :
    t.isLinked place name = other.isLinked place name := by
  unfold FileTree.isLinked
  rcases alike.item? (place ++ [name]) with ⟨bytes, bytes', here, there⟩ | ⟨same, -⟩
  · rw [here, there]
    rfl
  · rw [same]

section Walks

variable {options : SearchOptions} {p q : Path} {n : Nat}

theorem entered {listed : Listing} {names : List String} (order : listed.names.Perm names)
    (isEntered : q ∈ t.entered options p listed) :
    q ∈ other.entered options p ⟨listed.place, names⟩ := by
  unfold FileTree.entered at isEntered ⊢
  simp only [← alike.leadsOn, ← alike.isLinked]
  exact (((order.filter _).map _).mem_iff).mp isEntered

theorem candidates {listed : Listing} {names : List String} (order : listed.names.Perm names)
    (isAsked : q ∈ t.candidates p listed) : q ∈ other.candidates p ⟨listed.place, names⟩ := by
  unfold FileTree.candidates at isAsked ⊢
  simp only [← alike.leadsOn]
  exact (((order.filter _).map _).mem_iff).mp isAsked

theorem enters (enters : t.Enters options n p q) : other.Enters options n p q := by
  induction enters with
  | here => exact .here _
  | down n p d q listed lists isEntered _ ih =>
    obtain ⟨names, there, order⟩ := alike.listing_ok lists
    exact .down n p d q _ there (alike.entered order isEntered) ih

theorem asks (asks : t.Asks options p q) : other.Asks options p q := by
  obtain ⟨n, d, listed, enters, lists, isAsked⟩ := asks
  obtain ⟨names, there, order⟩ := alike.listing_ok lists
  exact ⟨n, d, _, alike.enters enters, there, alike.candidates order isAsked⟩

theorem comesUpon (comes : t.ComesUpon options p q) : other.ComesUpon options p q := by
  unfold ComesUpon at comes ⊢
  split at comes
  · rename_i deep
    rw [if_pos deep]
    exact alike.asks comes
  · rename_i flat
    rw [if_neg flat]
    obtain ⟨listed, name, lists, inside, isNamed, rfl⟩ := comes
    obtain ⟨names, there, order⟩ := alike.listing_ok lists
    exact ⟨_, name, there, order.mem_iff.mp inside, isNamed, rfl⟩

theorem searchable (searchable : t.Searchable options p) : other.Searchable options p := by
  unfold Searchable at searchable ⊢
  split at searchable
  · rename_i deep
    rw [if_pos deep]
    refine ⟨fun n q enters => searchable.isShallow n q (alike.symm.enters enters), ?_⟩
    intro q asks
    rw [← alike.askFile]
    exact searchable.isAnswered q (alike.symm.asks asks)
  · rename_i flat
    rw [if_neg flat]
    obtain ⟨listed, lists, answered⟩ := searchable
    obtain ⟨names, there, order⟩ := alike.listing_ok lists
    refine ⟨_, there, ?_⟩
    intro name inside
    rw [← alike.askFile]
    exact answered name (order.mem_iff.mpr inside)

end Walks

end Alike

/-- No two items have the same place. -/
def Distinct (t : FileTree) : Prop := (t.items.map (·.1)).Nodup

theorem distinct_empty (names : List String) : (empty names).Distinct := by
  unfold Distinct empty
  simp only [List.map_map, Function.comp_def]
  refine List.nodup_range.map_on ?_
  intro n inside m insideToo same
  have lengths := congrArg List.length same
  simp only [List.length_take, List.mem_range] at lengths inside insideToo
  omega

theorem places_put (t : FileTree) (names : List String) (item : Item) :
    (t.put names item).items.map (·.1) = (t.items.map (·.1)).filter (· != names) ++ [names] := by
  simp [put, List.filter_map, Function.comp_def]

theorem mem_items {t : FileTree} {names : List String} {item : Item}
    (found : t.item? names = some item) (below : names ≠ []) : (names, item) ∈ t.items := by
  have looked : (t.items.find? (·.1 == names)).map (·.2) = some item := by
    simpa only [FileTree.item?, List.isEmpty_iff, below, if_false] using found
  obtain ⟨⟨place, item'⟩, first, rfl⟩ := Option.map_eq_some_iff.mp looked
  obtain rfl : place = names := by simpa using List.find?_some first
  exact List.mem_of_find?_eq_some first

namespace Distinct

variable {t : FileTree} (distinct : t.Distinct)
include distinct

theorem put (names : List String) (item : Item) : (t.put names item).Distinct := by
  unfold Distinct
  rw [places_put]
  refine List.Nodup.append (List.Nodup.filter _ distinct) (List.nodup_singleton names) ?_
  simp

theorem item?_eq {names : List String} {item : Item} (member : (names, item) ∈ t.items)
    (below : names ≠ []) : t.item? names = some item := by
  have first : t.items.find? (·.1 == names) = some (names, item) := by
    obtain ⟨before, after, split⟩ := List.append_of_mem member
    refine List.find?_eq_some_iff_append.mpr ⟨by simp, before, after, split, ?_⟩
    intro i inside
    have apart := distinct
    unfold Distinct at apart
    rw [split, List.map_append, List.map_cons, List.nodup_append] at apart
    have differ := apart.2.2 i.1 (List.mem_map_of_mem inside) names (by simp)
    simpa using differ
  simp [FileTree.item?, below, first]

/-- The order in which items are listed does not show. -/
theorem item?_perm {other : FileTree} (order : t.items.Perm other.items) (names : List String) :
    t.item? names = other.item? names := by
  have distinctToo : other.Distinct := (order.map _).nodup_iff.mp distinct
  by_cases top : names = []
  · simp [FileTree.item?, top]
  · cases here : t.item? names with
    | some item =>
      have member := order.mem_iff.mp (mem_items here top)
      exact (distinctToo.item?_eq member top).symm
    | none =>
      cases there : other.item? names with
      | none => rfl
      | some item =>
        have member := order.mem_iff.mpr (mem_items there top)
        rw [distinct.item?_eq member top] at here
        cases here

end Distinct

theorem closedSize_perm {items others : List (List String × Item)} (order : items.Perm others)
    (open_ : List (List String)) : closedSize open_ items = closedSize open_ others := by
  induction order with
  | nil => rfl
  | cons i _ ih => rw [closedSize, closedSize, ih]
  | swap i j items =>
    simp only [closedSize]
    omega
  | trans _ _ first second => exact first.trans second

/-- The same tree with its items in another order. -/
structure Reorders (other t : FileTree) : Prop where
  order : t.items.Perm other.items
  workingDirectory : t.workingDirectory = other.workingDirectory
  unreadable : t.unreadable = other.unreadable
  barred : t.barred = other.barred

theorem Reorders.alike {t other : FileTree} (reorders : other.Reorders t) (distinct : t.Distinct) :
    t.Alike other where
  places := reorders.order.map _
  shapes := by
    intro names
    rw [distinct.item?_perm reorders.order]
  linkSize := by
    rw [linkSize_eq, linkSize_eq]
    exact closedSize_perm reorders.order []
  workingDirectory := reorders.workingDirectory
  unreadable := reorders.unreadable
  barred := reorders.barred

/-- What a file holds does not show in the shape of a tree. -/
theorem alike_put {t : FileTree} (distinct : t.Distinct) {names : List String} {old : List Nat}
    (found : t.item? names = some (.file old)) (bytes : List Nat) :
    t.Alike (t.put names (.file bytes)) := by
  have below : names ≠ [] := by
    rintro rfl
    cases found
  obtain ⟨before, after, split⟩ := List.append_of_mem (mem_items found below)
  have apart := distinct
  unfold Distinct at apart
  rw [split, List.map_append, List.map_cons, List.nodup_middle, List.nodup_cons,
    ← List.map_append] at apart
  have others : t.items.filter (·.1 != names) = before ++ after := by
    have kept : (before ++ after).filter (·.1 != names) = before ++ after := by
      refine List.filter_eq_self.mpr ?_
      intro i member
      have differ : i.1 ≠ names := by
        intro same
        have listed := List.mem_map_of_mem (f := (·.1)) member
        rw [same] at listed
        exact apart.1 listed
      simpa using differ
    rw [split, ← kept]
    simp [List.filter_append]
  have items : (t.put names (.file bytes)).items = before ++ after ++ [(names, .file bytes)] := by
    rw [FileTree.put, others]
  refine ⟨?_, ?_, ?_, rfl, rfl, rfl⟩
  · rw [items, split]
    simp only [List.map_append, List.map_cons, List.map_nil]
    rw [List.append_assoc]
    exact List.Perm.append_left _ (List.perm_append_singleton names _).symm
  · intro place
    by_cases here : place = names
    · rw [here, found, item?_put_self t below]
      rfl
    · rw [item?_put here]
  · rw [linkSize_eq, linkSize_eq, items, split]
    simp [closedSize_append, closedSize, linkCost]

end FileTree
end PoolLint
