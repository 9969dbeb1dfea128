import PoolLint.Files.Resolve

/-! Following a path and replacing its links come to the same place. Both are compared with a
relation that says where names lead and counts the links on the way. A link that is met while it is
being replaced would have to be passed more often than itself, so on a path that leads somewhere no
link is left standing. -/
namespace PoolLint.FileTree

section LookingUp

variable {t : FileTree} {names : List String} {name : String} {item : Item}

theorem directory_of_opened (opened : t.opened names = .ok ()) : t.item? names = some .directory := by
  unfold FileTree.opened at opened
  split at opened
  · cases opened
  · assumption
  · cases opened

theorem lookUp_ok {held : Option Item} : t.lookUp names name = .ok held ↔
    t.opened names = .ok () ∧ name.utf8ByteSize ≤ maxNameSize ∧ t.item? (names ++ [name]) = held := by
  unfold lookUp
  cases t.opened names with
  | error fault => simp
  | ok _ =>
    by_cases long : maxNameSize < name.utf8ByteSize
    · simp [long, Nat.not_le_of_lt long]
    · simp [long, Nat.le_of_not_lt long]

theorem item?_of_lookUp (found : t.lookUp names name = .ok (some item)) :
    t.item? (names ++ [name]) = some item := (lookUp_ok.mp found).2.2

theorem lookUp_of_item (opened : t.opened names = .ok ())
    (short : name.utf8ByteSize ≤ maxNameSize) :
    t.lookUp names name = .ok (t.item? (names ++ [name])) :=
  lookUp_ok.mpr ⟨opened, short, rfl⟩

end LookingUp

/-- Names are the place of something: none goes up or is too long to be looked up, above stand
directories that can be gone through, and the last of them is no link. -/
structure Place (t : FileTree) (names : List String) : Prop where
  noUp : ".." ∉ names
  short : ∀ name ∈ names, name.utf8ByteSize ≤ maxNameSize
  above : ∀ before after, names = before ++ after → after ≠ [] → t.opened before = .ok ()
  noLink : ∀ target, t.item? names ≠ some (.link target)

/-- The working directory is a directory, told by its own place. -/
structure Rooted (t : FileTree) : Prop where
  place : t.Place t.workingDirectory
  isDirectory : t.item? t.workingDirectory = some .directory

theorem place_top (t : FileTree) : t.Place [] where
  noUp := by simp
  short := by simp
  above := by
    intro before after same rest
    obtain ⟨rfl, rfl⟩ := List.append_eq_nil_iff.mp same.symm
    exact absurd rfl rest
  noLink := by
    intro target found
    cases found

namespace Place

variable {t : FileTree} {names : List String}

theorem dropLast (place : t.Place names) : t.Place names.dropLast := by
  rcases List.eq_nil_or_concat names with rfl | ⟨before, name, rfl⟩
  · exact t.place_top
  · rw [List.concat_eq_append] at place ⊢
    rw [List.dropLast_concat]
    have directory := directory_of_opened (place.above before [name] rfl (by simp))
    refine ⟨?_, ?_, ?_, ?_⟩
    · intro up
      exact place.noUp (List.mem_append_left _ up)
    · intro other inside
      exact place.short other (List.mem_append_left _ inside)
    · intro first rest same _
      exact place.above first (rest ++ [name]) (by rw [same, List.append_assoc]) (by simp)
    · intro target link
      rw [directory] at link
      cases link

theorem child (place : t.Place names) {name : String} {item : Item} (down : name ≠ "..")
    (found : t.lookUp names name = .ok (some item)) (noLink : ∀ target, item ≠ .link target) :
    t.Place (names ++ [name]) := by
  obtain ⟨opened, short, here⟩ := lookUp_ok.mp found
  refine ⟨?_, ?_, ?_, ?_⟩
  · intro up
    rcases List.mem_append.mp up with inside | last
    · exact place.noUp inside
    · exact down (List.mem_singleton.mp last).symm
  · intro other inside
    rcases List.mem_append.mp inside with above | last
    · exact place.short other above
    · rwa [List.mem_singleton.mp last]
  · intro before after same nonempty
    rcases List.eq_nil_or_concat after with rfl | ⟨rest, last, rfl⟩
    · exact absurd rfl nonempty
    · rw [List.concat_eq_append, ← List.append_assoc] at same
      obtain ⟨rfl, -⟩ := List.append_inj' same rfl
      rcases List.eq_nil_or_concat rest with rfl | ⟨_, _, rfl⟩
      · rw [List.append_nil] at opened
        exact opened
      · exact place.above before _ rfl (by simp [List.concat_eq_append])
  · intro target link
    rw [here] at link
    exact noLink target (Option.some.inj link)

end Place

theorem Rooted.start {t : FileTree} (rooted : t.Rooted) (p : Path) : t.Place (t.startOf p) := by
  unfold startOf
  split
  · exact t.place_top
  · exact rooted.place

def linkStart (base : List String) (target : Path) : List String :=
  if target.isAbsolute then [] else base

theorem Place.linkStart {t : FileTree} {base : List String} (place : t.Place base)
    (target : Path) : t.Place (FileTree.linkStart base target) := by
  unfold FileTree.linkStart
  split
  · exact t.place_top
  · exact place

/-- Names lead from one place to another, over a number of links. -/
inductive Leads (t : FileTree) : Nat → List String → List String → List String → Prop
  | here (current : List String) : Leads t 0 current [] current
  | up (n : Nat) (current rest reached : List String) (opened : t.opened current = .ok ())
      (onward : Leads t n current.dropLast rest reached) :
      Leads t n current (".." :: rest) reached
  | down (n : Nat) (current rest reached : List String) (name : String) (item : Item)
      (isDown : name ≠ "..") (found : t.lookUp current name = .ok (some item))
      (noLink : ∀ target, item ≠ .link target)
      (onward : Leads t n (current ++ [name]) rest reached) :
      Leads t n current (name :: rest) reached
  | link (n m : Nat) (current rest middle reached : List String) (name : String) (target : Path)
      (isDown : name ≠ "..") (found : t.lookUp current name = .ok (some (.link target)))
      (inside : Leads t n (linkStart current target) target.names middle)
      (onward : Leads t m middle rest reached) :
      Leads t (n + 1 + m) current (name :: rest) reached

namespace Leads

variable {t : FileTree}

theorem deterministic {n m : Nat} {current names reached other : List String}
    (first : Leads t n current names reached) (second : Leads t m current names other) :
    n = m ∧ reached = other := by
  induction first generalizing m other with
  | here =>
    cases second
    exact ⟨rfl, rfl⟩
  | up n current rest reached _ _ ih =>
    cases second with
    | up _ _ _ _ _ onward => exact ih onward
    | down _ _ _ _ _ _ isDown => exact absurd rfl isDown
    | link _ _ _ _ _ _ _ _ isDown => exact absurd rfl isDown
  | down n current rest reached name item isDown found noLink _ ih =>
    cases second with
    | up => exact absurd rfl isDown
    | down _ _ _ _ _ _ _ _ _ onward => exact ih onward
    | link _ _ _ _ _ _ _ target _ isLink =>
      rw [found] at isLink
      exact absurd (Option.some.inj (Except.ok.inj isLink)) (noLink target)
  | link n m current rest middle reached name target isDown found _ _ inner outer =>
    cases second with
    | up => exact absurd rfl isDown
    | down _ _ _ _ _ _ _ isItem noLink _ =>
      rw [found] at isItem
      exact absurd (Option.some.inj (Except.ok.inj isItem)).symm (noLink target)
    | link _ _ _ _ _ _ _ target' _ isLink inside onward =>
      rw [found] at isLink
      cases isLink
      obtain ⟨rfl, rfl⟩ := inner inside
      obtain ⟨rfl, rfl⟩ := outer onward
      exact ⟨rfl, rfl⟩

theorem append {n m : Nat} {current first middle second reached : List String}
    (before : Leads t n current first middle) (after : Leads t m middle second reached) :
    Leads t (n + m) current (first ++ second) reached := by
  induction before with
  | here => simpa using after
  | up n current rest middle directory _ ih => exact .up _ _ _ _ directory (ih after)
  | down n current rest middle name item isDown found noLink _ ih =>
    exact .down _ _ _ _ _ _ isDown found noLink (ih after)
  | link n k current rest inner middle name target isDown found inside _ _ ih =>
    rw [Nat.add_assoc]
    exact .link _ _ _ _ _ _ _ _ isDown found inside (ih after)

theorem split {n : Nat} {current first second reached : List String}
    (whole : Leads t n current (first ++ second) reached) :
    ∃ k m middle, n = k + m ∧ Leads t k current first middle ∧
      Leads t m middle second reached := by
  generalize joined : first ++ second = names at whole
  induction whole generalizing first with
  | here current =>
    obtain ⟨rfl, rfl⟩ := List.append_eq_nil_iff.mp joined
    exact ⟨0, 0, current, rfl, .here current, .here current⟩
  | up n current rest reached directory onward ih =>
    cases first with
    | nil =>
      cases joined
      exact ⟨0, n, current, by omega, .here current, .up _ _ _ _ directory onward⟩
    | cons name first =>
      cases joined
      obtain ⟨k, m, middle, sum, before, after⟩ := ih rfl
      exact ⟨k, m, middle, sum, .up _ _ _ _ directory before, after⟩
  | down n current rest reached name item isDown found noLink onward ih =>
    cases first with
    | nil =>
      cases joined
      exact ⟨0, n, current, by omega, .here current,
        .down _ _ _ _ _ _ isDown found noLink onward⟩
    | cons name first =>
      cases joined
      obtain ⟨k, m, middle, sum, before, after⟩ := ih rfl
      exact ⟨k, m, middle, sum, .down _ _ _ _ _ _ isDown found noLink before, after⟩
  | link n j current rest inner reached name target isDown found inside onward _ ih =>
    cases first with
    | nil =>
      cases joined
      exact ⟨0, n + 1 + j, current, by omega, .here current,
        .link _ _ _ _ _ _ _ _ isDown found inside onward⟩
    | cons name first =>
      cases joined
      obtain ⟨k, m, middle, sum, before, after⟩ := ih rfl
      exact ⟨n + 1 + k, m, middle, by omega,
        .link _ _ _ _ _ _ _ _ isDown found inside before, after⟩

theorem place {n : Nat} {current names reached : List String}
    (leads : Leads t n current names reached) (start : t.Place current) : t.Place reached := by
  induction leads with
  | here => exact start
  | up n current rest reached _ _ ih => exact ih start.dropLast
  | down n current rest reached name item isDown found noLink _ ih =>
    exact ih (start.child isDown found noLink)
  | link n m current rest middle reached name target _ _ _ _ inner outer =>
    exact outer (inner (start.linkStart target))

end Leads

section Following

variable {t : FileTree}

section Steps

variable {current : List String} {name : String} (rest : List String)

theorem reach_up (opened : t.opened current = .ok ()) :
    t.reach current (".." :: rest) = t.reach current.dropLast rest := by
  simp [reach, opened]

theorem reach_down {item : Item} (isDown : name ≠ "..")
    (found : t.lookUp current name = .ok (some item)) (noLink : ∀ target, item ≠ .link target) :
    t.reach current (name :: rest) = t.reach (current ++ [name]) rest := by
  cases item with
  | link target => exact absurd rfl (noLink target)
  | file bytes => simp [reach, isDown, found]
  | directory => simp [reach, isDown, found]

theorem reach_met {target : Path} (isDown : name ≠ "..")
    (found : t.lookUp current name = .ok (some (.link target))) :
    t.reach current (name :: rest) = .link current target rest := by
  simp [reach, isDown, found]

theorem reach_nothing (nothing : t.item? current = none) : t.reach current rest =
    if rest.isEmpty then .absent current else .fault .missing := by
  cases rest with
  | nil => simp [reach, nothing]
  | cons name rest => simp [reach, lookUp, FileTree.opened, nothing]

end Steps

theorem reach_found {current names reached : List String} {item : Item}
    (found : t.reach current names = .found reached item) :
    Leads t 0 current names reached ∧ t.item? reached = some item := by
  induction names generalizing current with
  | nil =>
    unfold reach at found
    split at found
    · rename_i here
      cases found
      exact ⟨.here _, here⟩
    · cases found
  | cons name rest ih =>
    unfold reach at found
    split at found
    · rename_i up
      split at found
      · cases found
      · rename_i opened
        obtain ⟨onward, last⟩ := ih found
        rw [beq_iff_eq.mp up]
        exact ⟨.up _ _ _ _ opened onward, last⟩
    · rename_i isDown
      have down : name ≠ ".." := fun same => isDown (beq_iff_eq.mpr same)
      split at found
      · cases found
      · split at found <;> cases found
      · cases found
      · rename_i noLink below
        obtain ⟨onward, last⟩ := ih found
        exact ⟨.down _ _ _ _ _ _ down below noLink onward, last⟩

/-- The first link on the way stands in a directory that is reached without links. -/
theorem reach_link {current names base rest : List String} {target : Path}
    (met : t.reach current names = .link base target rest) :
    ∃ before name, names = before ++ name :: rest ∧ Leads t 0 current before base ∧
      name ≠ ".." ∧ t.lookUp base name = .ok (some (.link target)) := by
  induction names generalizing current with
  | nil =>
    unfold reach at met
    split at met <;> cases met
  | cons name names ih =>
    unfold reach at met
    split at met
    · rename_i up
      split at met
      · cases met
      · rename_i opened
        obtain ⟨before, next, same, leads, link⟩ := ih met
        rw [beq_iff_eq.mp up, same]
        exact ⟨".." :: before, next, rfl, .up _ _ _ _ opened leads, link⟩
    · rename_i isDown
      have down : name ≠ ".." := fun same => isDown (beq_iff_eq.mpr same)
      split at met
      · cases met
      · split at met <;> cases met
      · rename_i link
        cases met
        exact ⟨[], name, rfl, .here _, down, link⟩
      · rename_i noLink below
        obtain ⟨before, next, same, leads, link⟩ := ih met
        rw [same]
        exact ⟨name :: before, next, rfl, .down _ _ _ _ _ _ down below noLink leads, link⟩

theorem leads_of_follow {links : Nat} {current names reached : List String} {item : Item}
    (found : t.followFrom links current names = .found reached item) :
    (∃ n < links, Leads t n current names reached) ∧ t.item? reached = some item := by
  induction links generalizing current names with
  | zero => cases found
  | succ links ih =>
    unfold followFrom at found
    split at found
    · rename_i base target rest met
      obtain ⟨before, name, rfl, leads, down, link⟩ := reach_link met
      obtain ⟨⟨n, few, onward⟩, last⟩ := ih found
      obtain ⟨k, m, middle, sum, inside, behind⟩ := onward.split
      have passed := leads.append (.link _ _ _ _ _ _ _ _ down link inside behind)
      exact ⟨⟨_, by omega, passed⟩, last⟩
    · obtain ⟨leads, last⟩ := reach_found found
      exact ⟨⟨0, Nat.succ_pos links, leads⟩, last⟩

theorem follow_eq {p : Path} (fits : p.size ≤ maxPathSize) :
    t.follow p = t.followFrom (maxLinks + 1) (t.startOf p) p.names := by
  rw [follow, if_neg (Nat.not_lt.mpr fits)]

theorem stat_ok {p : Path} {reached : List String} {item : Item} :
    t.stat p = .ok (reached, item) ↔ t.follow p = .found reached item := by
  unfold stat
  cases t.follow p <;> simp

theorem stat_ok_iff {p : Path} {reached : List String} {item : Item} :
    t.stat p = .ok (reached, item) ↔ p.size ≤ maxPathSize ∧
      t.followFrom (maxLinks + 1) (t.startOf p) p.names = .found reached item := by
  rw [stat_ok, follow]
  split
  · rename_i long
    simp [Nat.not_le_of_lt long]
  · rename_i fits
    simp [Nat.le_of_not_lt fits]

/-- Names behind a place, looked up from above it, are looked up there. -/
theorem reach_of_place {current rest : List String} (place : t.Place (current ++ rest))
    (behind : List String) : t.reach current (rest ++ behind) = t.reach (current ++ rest) behind := by
  induction rest generalizing current with
  | nil => rw [List.append_nil, List.nil_append]
  | cons name rest ih =>
    have opened := place.above current (name :: rest) rfl (by simp)
    have down : name ≠ ".." := fun up => place.noUp (by simp [up])
    have found := lookUp_of_item opened (place.short name (by simp))
    rw [List.append_cons] at place ⊢
    rw [← ih place, List.cons_append]
    cases held : t.item? (current ++ [name]) with
    | none =>
      -- nothing stands there, so the names behind are looked for in nothing
      cases rest with
      | nil =>
        rw [List.nil_append, reach_nothing _ held]
        simp [reach, down, found, held]
      | cons next rest =>
        have directory := directory_of_opened (place.above (current ++ [name]) _ rfl (by simp))
        cases held.symm.trans directory
    | some item =>
      refine reach_down _ down (by rw [found, held]) ?_
      rintro target rfl
      cases rest with
      | nil =>
        rw [List.append_nil] at place
        exact place.noLink target held
      | cons next rest =>
        have directory := directory_of_opened (place.above (current ++ [name]) _ rfl (by simp))
        cases held.symm.trans directory

theorem reach_place {names : List String} (place : t.Place names) (behind : List String) :
    t.reach [] (names ++ behind) = t.reach names behind := reach_of_place place behind

/-- A place that is short enough to be asked for as a path leads to itself. -/
theorem stat_place {names : List String} {item : Item} (place : t.Place names)
    (found : t.item? names = some item) (fits : (Path.mk 1 names).size ≤ maxPathSize) :
    t.stat ⟨1, names⟩ = .ok (names, item) := by
  have reached : t.reach [] names = .found names item := by
    have whole := reach_place place []
    rw [List.append_nil] at whole
    rw [whole, reach, found]
  rw [stat_ok_iff]
  simp [fits, startOf, Path.isAbsolute, followFrom, reached]

theorem linkAt?_child {current : List String} {name : String} {item : Item}
    (place : t.Place current) (isDown : name ≠ "..")
    (found : t.lookUp current name = .ok (some item)) :
    t.linkAt? (current ++ [name]) = match item with
      | .link target => some target
      | _ => none := by
  have here := item?_of_lookUp found
  unfold linkAt?
  rw [reach_place place]
  cases item with
  | link target => rw [reach_met [] isDown found]
  | file bytes => rw [reach_down [] isDown found (by simp), reach, here]
  | directory => rw [reach_down [] isDown found (by simp), reach, here]

end Following

section Unlinking

variable {t : FileTree}

def linkCost : Item → Nat
  | .link target => target.names.length + 1
  | _ => 0

/-- What items can still add to a path when some links are being replaced. -/
def closedSize (open_ : List (List String)) : List (List String × Item) → Nat
  | [] => 0
  | i :: rest => (if i.1 ∈ open_ then 0 else linkCost i.2) + closedSize open_ rest

theorem closedSize_append (open_ : List (List String)) (first second : List (List String × Item)) :
    closedSize open_ (first ++ second) = closedSize open_ first + closedSize open_ second := by
  induction first with
  | nil => simp [closedSize]
  | cons i first ih => simp [closedSize, ih, Nat.add_assoc]

theorem linkSize_eq (t : FileTree) : t.linkSize = closedSize [] t.items := by
  have folded : ∀ (items : List (List String × Item)) (start : Nat),
      items.foldl (fun n i => match i.2 with
        | .link target => n + target.names.length + 1
        | _ => n) start = start + closedSize [] items := by
    intro items
    induction items with
    | nil => simp [closedSize]
    | cons i items ih =>
      intro start
      rw [List.foldl_cons, ih]
      obtain ⟨names, item⟩ := i
      cases item <;> simp [closedSize, linkCost, Nat.add_assoc]
  exact (folded t.items 0).trans (Nat.zero_add _)

theorem item?_mem {names : List String} {target : Path}
    (found : t.item? names = some (.link target)) : (names, .link target) ∈ t.items := by
  unfold item? at found
  split at found
  · cases found
  · obtain ⟨⟨place, item⟩, isFirst, rfl⟩ := Option.map_eq_some_iff.mp found
    have same : place = names := by simpa using List.find?_some isFirst
    rw [← same]
    exact List.mem_of_find?_eq_some isFirst

theorem closedSize_le (open_ : List (List String)) (names : List String)
    (items : List (List String × Item)) :
    closedSize (names :: open_) items ≤ closedSize open_ items := by
  induction items with
  | nil => exact Nat.le_refl 0
  | cons i items ih =>
    simp only [closedSize, List.mem_cons]
    by_cases isOpen : i.1 ∈ open_
    · simpa [isOpen] using ih
    · by_cases same : i.1 = names <;> simp [isOpen, same] <;> omega

theorem closedSize_open {open_ : List (List String)} {names : List String} {target : Path}
    (found : t.item? names = some (.link target)) (closed : names ∉ open_) :
    closedSize (names :: open_) t.items + (target.names.length + 1) ≤
      closedSize open_ t.items := by
  obtain ⟨before, after, listed⟩ := List.append_of_mem (item?_mem found)
  have first := closedSize_le open_ names before
  have last := closedSize_le open_ names after
  rw [listed]
  simp only [closedSize_append, closedSize, List.mem_cons, true_or, if_true, closed, if_false,
    linkCost]
  omega

/-- Whichever link is being replaced, to pass it takes at least a number of links. -/
def Outlasts (t : FileTree) (open_ : List (List String)) (n : Nat) : Prop :=
  ∀ base name target, base ++ [name] ∈ open_ → t.item? (base ++ [name]) = some (.link target) →
    ∀ m middle, Leads t m (linkStart base target) target.names middle → n ≤ m

namespace Outlasts

variable {open_ : List (List String)} {n k : Nat} {current middle : List String} {name : String}
  {target : Path}

theorem mono (outlasts : Outlasts t open_ n) (less : k ≤ n) : Outlasts t open_ k := by
  intro base last other isOpen link m end_ passed
  exact Nat.le_trans less (outlasts base last other isOpen link m end_ passed)

theorem closed (outlasts : Outlasts t open_ n)
    (found : t.item? (current ++ [name]) = some (.link target))
    (inside : Leads t k (linkStart current target) target.names middle) (less : k < n) :
    current ++ [name] ∉ open_ := by
  intro isOpen
  have again := outlasts current name target isOpen found k middle inside
  omega

theorem enter (outlasts : Outlasts t open_ n)
    (found : t.item? (current ++ [name]) = some (.link target))
    (inside : Leads t k (linkStart current target) target.names middle) (less : k < n) :
    Outlasts t ((current ++ [name]) :: open_) k := by
  intro base last other isOpen link m end_ passed
  rcases List.mem_cons.mp isOpen with same | older
  · obtain ⟨rfl, lasts⟩ := List.append_inj' same rfl
    obtain rfl := List.singleton_inj.mp lasts
    rw [found] at link
    cases link
    have count := (inside.deterministic passed).1
    omega
  · have bound := outlasts base last other older link m end_ passed
    omega

end Outlasts

/-- Along names that lead somewhere every link is replaced. A link that is met while it is being
replaced would take fewer links to pass than it takes. -/
theorem unlinkFrom_of_leads {n : Nat} {current names reached : List String}
    (leads : Leads t n current names reached) :
    ∀ (fuel : Nat) (open_ : List (List String)), t.Place current →
      names.length + closedSize open_ t.items < fuel → Outlasts t open_ n →
      t.unlinkFrom fuel open_ current names = (reached, true) := by
  induction leads with
  | here current =>
    intro fuel open_ _ enough _
    obtain ⟨fuel, rfl⟩ : ∃ k, fuel = k + 1 := ⟨fuel - 1, by omega⟩
    rfl
  | up n current rest reached _ _ ih =>
    intro fuel open_ place enough outlasts
    rw [List.length_cons] at enough
    obtain ⟨fuel, rfl⟩ : ∃ k, fuel = k + 1 := ⟨fuel - 1, by omega⟩
    exact ih fuel open_ place.dropLast (by omega) outlasts
  | down n current rest reached name item isDown found noLink _ ih =>
    intro fuel open_ place enough outlasts
    rw [List.length_cons] at enough
    obtain ⟨fuel, rfl⟩ : ∃ k, fuel = k + 1 := ⟨fuel - 1, by omega⟩
    have onward := ih fuel open_ (place.child isDown found noLink) (by omega) outlasts
    have noTarget : t.linkAt? (current ++ [name]) = none := by
      rw [linkAt?_child place isDown found]
      cases item with
      | link target => exact absurd rfl (noLink target)
      | _ => rfl
    simpa [unlinkFrom, isDown, noTarget] using onward
  | link n m current rest middle reached name target isDown found inside _ inner outer =>
    intro fuel open_ place enough outlasts
    rw [List.length_cons] at enough
    obtain ⟨fuel, rfl⟩ : ∃ k, fuel = k + 1 := ⟨fuel - 1, by omega⟩
    -- the link is entered once on the way down, so what it adds is still in the fuel
    have here := item?_of_lookUp found
    have closed := outlasts.closed here inside (by omega)
    have paid := closedSize_open here closed
    have start := place.linkStart target
    have replaced := inner fuel ((current ++ [name]) :: open_) start (by omega)
      (outlasts.enter here inside (by omega))
    have onward := outer fuel open_ (inside.place start) (by omega) (outlasts.mono (by omega))
    rw [linkStart] at replaced
    simp only [unlinkFrom, beq_iff_eq, isDown, if_false, linkAt?_child place isDown found,
      List.contains_iff_mem, closed, replaced]
    exact onward

theorem collapse_of_noUp {names : List String} (noUp : ".." ∉ names) : collapse names = names := by
  have piled : ∀ done : List String,
      names.foldl (fun done name => if name == ".." then done.tail else name :: done) done =
        names.reverse ++ done := by
    induction names with
    | nil => simp
    | cons name names ih =>
      intro done
      have down : name ≠ ".." := fun same => noUp (by simp [same])
      have others : ".." ∉ names := fun up => noUp (List.mem_cons_of_mem _ up)
      rw [List.foldl_cons, if_neg (mt beq_iff_eq.mp down), ih others]
      simp
  rw [collapse, piled]
  simp

/-- A path that leads somewhere is resolved to the place that it leads to. That place, taken as a
path, leads to itself, if it is not too long for a path. -/
theorem resolve_of_stat (rooted : t.Rooted) {p : Path} {names : List String} {item : Item}
    (found : t.stat p = .ok (names, item)) :
    t.resolve p = .ok ⟨1, names⟩ ∧ t.stat ⟨1, names⟩ =
      if (Path.mk 1 names).size ≤ maxPathSize then .ok (names, item) else .error .tooLong := by
  obtain ⟨⟨n, -, leads⟩, last⟩ := leads_of_follow (stat_ok_iff.mp found).2
  -- a place has no name that goes up, so collapsing the unlinked names changes nothing
  have start := rooted.start p
  have place := leads.place start
  have unlinked := unlinkFrom_of_leads leads (p.names.length + t.linkSize + 1) [] start
    (by rw [linkSize_eq]; omega) (by simp [Outlasts])
  have itself : t.stat ⟨1, names⟩ =
      if (Path.mk 1 names).size ≤ maxPathSize then .ok (names, item) else .error .tooLong := by
    split
    · rename_i fits
      exact stat_place place last fits
    · rename_i long
      rw [stat, follow, if_pos (Nat.lt_of_not_le long)]
  have noLoop : t.stat ⟨1, names⟩ ≠ .error .loop := by
    rw [itself]
    split <;> simp
  refine ⟨?_, itself⟩
  simp only [resolve, unlinked, collapse_of_noUp place.noUp]

end Unlinking

section Asking

variable {t : FileTree} {p : Path}

/-- Whether a path leads to a file. -/
def isFile (t : FileTree) (p : Path) : Bool :=
  match t.stat p with
  | .ok (_, .file _) => true
  | _ => false

theorem item?_of_stat {place : List String} {item : Item} (found : t.stat p = .ok (place, item)) :
    t.item? place = some item := (leads_of_follow (stat_ok_iff.mp found).2).2

theorem isFile_iff : t.isFile p ↔ ∃ place bytes, t.stat p = .ok (place, .file bytes) := by
  unfold FileTree.isFile
  split
  · rename_i found
    simp [found]
  · rename_i other
    simpa using other

theorem isDirectory_iff : t.isDirectory p ↔ ∃ place, t.stat p = .ok (place, .directory) := by
  unfold FileTree.isDirectory
  split
  · rename_i found
    simp [found]
  · rename_i other
    simpa using other

theorem not_isDirectory (isFile : t.isFile p) : t.isDirectory p = false := by
  unfold FileTree.isFile at isFile
  unfold FileTree.isDirectory
  split at isFile
  · rename_i found
    rw [found]
  · cases isFile

theorem isThere_iff (rooted : t.Rooted) (p : Path) :
    t.isThere p ↔ t.isFile p ∨ t.isDirectory p := by
  unfold isThere isFile isDirectory
  cases found : t.stat p with
  | error fault => simp
  | ok reached =>
    obtain ⟨names, item⟩ := reached
    cases item with
    | file bytes => simp
    | directory => simp
    | link target =>
      obtain ⟨⟨n, -, leads⟩, last⟩ := leads_of_follow (stat_ok_iff.mp found).2
      exact absurd last ((leads.place (rooted.start p)).noLink target)

theorem ask_of_stat {holds : Item → Bool} {place : List String} {item : Item}
    (found : t.stat p = .ok (place, item)) : t.ask holds p = .ok (holds item) := by
  rw [ask, found]

end Asking

end PoolLint.FileTree
