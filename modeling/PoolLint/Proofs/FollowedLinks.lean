import PoolLint.Proofs.PathResolution

/-! A path leads to what its names lead to, if they pass no more links than are followed. So what
stands below a path is told by the place that the path leads to, and by the number of links that are
left. -/
namespace PoolLint

namespace Path

def below (p : Path) (tail : List String) : Path := ⟨p.slashes, p.names ++ tail⟩

@[simp]
theorem below_nil (p : Path) : p.below [] = p := by
  simp [below]

theorem below_cons (p : Path) (name : String) (tail : List String) :
    p.below (name :: tail) = (p.child name).below tail := by
  simp [below, child]

theorem below_singleton (p : Path) (name : String) : p.below [name] = p.child name := rfl

@[simp]
theorem parent_child (p : Path) (name : String) : (p.child name).parent = p := by
  simp [child, parent]

theorem getLast?_child (p : Path) (name : String) : (p.child name).names.getLast? = some name := by
  simp [child]

theorem below_concat (p : Path) (tail : List String) (name : String) :
    p.below (tail ++ [name]) = (p.below tail).child name := by
  simp [below, child]

theorem below_inj {p : Path} {tail other : List String} : p.below tail = p.below other ↔
    tail = other := by
  simp [below]

theorem below_eq_self {p : Path} {tail : List String} : p.below tail = p ↔ tail = [] := by
  have empty := @below_inj p tail []
  rwa [below_nil] at empty

theorem namesSize_append (names tail : List String) :
    namesSize (names ++ tail) = namesSize names + namesSize tail := by
  induction names with
  | nil => simp [namesSize]
  | cons name names ih => simp [namesSize, ih, Nat.add_assoc]

theorem size_below (p : Path) (tail : List String) :
    (p.below tail).size = p.size + namesSize tail := by
  simp [below, size, namesSize_append, Nat.add_assoc]

theorem size_le_below (p : Path) (tail : List String) : p.size ≤ (p.below tail).size := by
  rw [size_below]
  omega

theorem size_le_child (p : Path) (name : String) : p.size ≤ (p.child name).size :=
  p.size_le_below [name]

theorem size_parent_le (p : Path) : p.parent.size ≤ p.size := by
  rcases List.eq_nil_or_concat p.names with none | ⟨names, name, split⟩
  · simp [parent, size, none]
  · simp [parent, size, split, namesSize_append]

theorem parent_below (p : Path) {tail : List String} (nonempty : tail ≠ []) :
    (p.below tail).parent = p.below tail.dropLast := by
  simp [below, parent, List.dropLast_append_of_ne_nil nonempty]

end Path

namespace FileTree

variable {t : FileTree}

theorem reach_append {current names reached : List String}
    (leads : Leads t 0 current names reached) (behind : List String) :
    t.reach current (names ++ behind) = t.reach reached behind := by
  generalize none : 0 = n at leads
  induction leads with
  | here => rfl
  | up n current rest reached opened _ ih => exact (reach_up _ opened).trans (ih none)
  | down n current rest reached name other isDown here noLink _ ih =>
    exact (reach_down _ isDown here noLink).trans (ih none)
  | link => omega

/-- Names that pass a link come to the first one, and what it stands for passes the others. -/
theorem reach_first_link {n : Nat} {current names reached : List String}
    (leads : Leads t (n + 1) current names reached) (behind : List String) :
    ∃ base target rest, t.reach current (names ++ behind) = .link base target (rest ++ behind) ∧
      Leads t n (linkStart base target) (target.names ++ rest) reached := by
  generalize passes : n + 1 = m at leads
  induction leads with
  | here => omega
  | up m current rest reached opened _ ih =>
    obtain ⟨base, target, others, met, onward⟩ := ih passes
    exact ⟨base, target, others, (reach_up _ opened).trans met, onward⟩
  | down m current rest reached name item isDown here noLink _ ih =>
    obtain ⟨base, target, others, met, onward⟩ := ih passes
    exact ⟨base, target, others, (reach_down _ isDown here noLink).trans met, onward⟩
  | link k m current rest middle reached name target isDown here inside onward =>
    obtain rfl : n = k + m := by omega
    exact ⟨current, target, rest, reach_met _ isDown here, inside.append onward⟩

/-- Names behind ones that lead somewhere are followed from there with the links that are left. -/
theorem followFrom_append {n links : Nat} {current names reached : List String}
    (leads : Leads t n current names reached) (few : n < links) (behind : List String) :
    t.followFrom links current (names ++ behind) = t.followFrom (links - n) reached behind := by
  induction links generalizing n current names behind with
  | zero => omega
  | succ links ih =>
    cases n with
    | zero => simp only [followFrom, reach_append leads, Nat.sub_zero]
    | succ n =>
      obtain ⟨base, target, rest, met, onward⟩ := reach_first_link leads behind
      simp only [Nat.succ_sub_succ, followFrom, met, ← List.append_assoc]
      exact ih onward (by omega) behind

theorem follow_of_leads {n links : Nat} {current names reached : List String} {item : Item}
    (leads : Leads t n current names reached) (found : t.item? reached = some item)
    (few : n < links) : t.followFrom links current names = .found reached item := by
  have left : links - n = links - n - 1 + 1 := by omega
  have whole := followFrom_append leads few []
  rw [List.append_nil] at whole
  rw [whole, left, followFrom, reach, found]

/-- Names behind others, unless they come to a fault, are looked for in a directory that the others
lead to, or the others pass a link first. -/
theorem reach_above {current before after : List String} {name : String}
    (noFault : ∀ fault, t.reach current (before ++ name :: after) ≠ .fault fault) :
    (∃ base, Leads t 0 current before base ∧ t.item? base = some .directory) ∨
      ∃ passed link rest base target, before = passed ++ link :: rest ∧
        Leads t 0 current passed base ∧ link ≠ ".." ∧
          t.lookUp base link = .ok (some (.link target)) := by
  induction before generalizing current with
  | nil =>
    refine .inl ⟨current, .here current, ?_⟩
    cases opened : t.opened current with
    | ok _ => exact directory_of_opened opened
    | error fault =>
      have stopped : t.reach current (name :: after) = .fault fault := by
        simp [reach, lookUp, opened]
      exact absurd stopped (noFault fault)
  | cons first before ih =>
    rw [List.cons_append, reach] at noFault
    split at noFault
    · rename_i up
      rw [beq_iff_eq.mp up]
      split at noFault
      · exact absurd rfl (noFault _)
      · rename_i opened
        rcases ih noFault with
          ⟨base, leads, last⟩ | ⟨passed, link, rest, base, target, same, leads, met⟩
        · exact .inl ⟨base, .up _ _ _ _ opened leads, last⟩
        · exact .inr ⟨".." :: passed, link, rest, base, target, by rw [same]; rfl,
            .up _ _ _ _ opened leads, met⟩
    · rename_i isDown
      have down : first ≠ ".." := fun same => isDown (beq_iff_eq.mpr same)
      split at noFault
      · exact absurd rfl (noFault _)
      · rw [if_neg (by simp)] at noFault
        exact absurd rfl (noFault _)
      · rename_i target isLink
        exact .inr ⟨[], first, before, current, target, rfl, .here current, down, isLink⟩
      · rename_i noLink below
        rcases ih noFault with
          ⟨base, leads, last⟩ | ⟨passed, link, rest, base, target, same, leads, met⟩
        · exact .inl ⟨base, .down _ _ _ _ _ _ down below noLink leads, last⟩
        · exact .inr ⟨first :: passed, link, rest, base, target, by rw [same]; rfl,
            .down _ _ _ _ _ _ down below noLink leads, met⟩

/-- Names that are followed without a fault go through directories all the way. -/
theorem followFrom_above {links : Nat} {current before after : List String} {name : String}
    (noFault : ∀ fault, t.followFrom links current (before ++ name :: after) ≠ .fault fault) :
    ∃ n < links, ∃ base, Leads t n current before base ∧ t.item? base = some .directory := by
  induction links generalizing current before with
  | zero => exact absurd rfl (noFault _)
  | succ links ih =>
    have reached : ∀ fault, t.reach current (before ++ name :: after) ≠ .fault fault := by
      intro fault met
      rw [followFrom, met] at noFault
      exact noFault fault rfl
    rcases reach_above reached with
      ⟨base, leads, last⟩ | ⟨passed, link, rest, base, target, rfl, leads, down, isLink⟩
    · exact ⟨0, Nat.succ_pos links, base, leads, last⟩
    · -- the link is replaced, and what it stands for is followed with one link less
      have met : t.reach current (passed ++ link :: rest ++ name :: after) =
          .link base target (rest ++ name :: after) := by
        rw [List.append_assoc, reach_append leads]
        exact reach_met _ down isLink
      simp only [followFrom, met, ← List.append_assoc] at noFault
      obtain ⟨n, few, end_, onward, directory⟩ := ih noFault
      obtain ⟨k, m, middle, sum, inside, behind⟩ := onward.split
      refine ⟨0 + (k + 1 + m), by omega, end_, ?_, directory⟩
      exact leads.append (.link _ _ _ _ _ _ _ _ down isLink inside behind)

/-- A path leads to a place over a number of links. -/
def Passes (t : FileTree) (n : Nat) (p : Path) (place : List String) : Prop :=
  Leads t n (t.startOf p) p.names place

theorem stat_iff {p : Path} {place : List String} {item : Item} :
    t.stat p = .ok (place, item) ↔ p.size ≤ maxPathSize ∧
      (∃ n ≤ maxLinks, t.Passes n p place) ∧ t.item? place = some item := by
  rw [stat_ok_iff]
  refine and_congr_right fun _ => ?_
  constructor
  · intro found
    obtain ⟨⟨n, few, leads⟩, last⟩ := leads_of_follow found
    exact ⟨⟨n, by omega, leads⟩, last⟩
  · rintro ⟨⟨n, few, leads⟩, last⟩
    exact follow_of_leads leads last (by omega)

theorem passes_below {n : Nat} {p : Path} {tail place : List String} :
    t.Passes n (p.below tail) place ↔
      ∃ k m base, n = k + m ∧ t.Passes k p base ∧ Leads t m base tail place := by
  have start : t.startOf (p.below tail) = t.startOf p := rfl
  unfold Passes
  rw [start]
  constructor
  · intro whole
    exact whole.split
  · rintro ⟨k, m, base, rfl, first, second⟩
    exact first.append second

/-- What leads somewhere below a path goes through the place that the path leads to. -/
theorem stat_below {p : Path} {tail base place : List String} {above item : Item}
    (here : t.stat p = .ok (base, above)) : t.stat (p.below tail) = .ok (place, item) ↔
      (p.below tail).size ≤ maxPathSize ∧
      (∃ k m, t.Passes k p base ∧ Leads t m base tail place ∧ k + m ≤ maxLinks) ∧
        t.item? place = some item := by
  obtain ⟨-, ⟨k, -, passes⟩, -⟩ := stat_iff.mp here
  rw [stat_iff]
  refine and_congr_right fun _ => and_congr_left fun _ => ?_
  constructor
  · rintro ⟨n, few, whole⟩
    obtain ⟨j, m, middle, rfl, first, second⟩ := passes_below.mp whole
    obtain ⟨rfl, rfl⟩ := Leads.deterministic passes first
    exact ⟨_, m, passes, second, few⟩
  · rintro ⟨j, m, first, second, few⟩
    exact ⟨j + m, few, passes_below.mpr ⟨j, m, base, rfl, first, second⟩⟩

theorem follow_above {p : Path} {name : String} {tail : List String}
    (noFault : ∀ fault, t.follow (p.below (name :: tail)) ≠ .fault fault) :
    ∃ base, t.stat p = .ok (base, .directory) := by
  have fits : (p.below (name :: tail)).size ≤ maxPathSize :=
    Nat.le_of_not_lt fun long => noFault _ (by rw [follow, if_pos long])
  simp only [follow_eq fits] at noFault
  obtain ⟨n, few, base, leads, directory⟩ := followFrom_above noFault
  have fitsAbove := Nat.le_trans (p.size_le_below _) fits
  exact ⟨base, stat_iff.mpr ⟨fitsAbove, ⟨n, Nat.le_of_lt_succ few, leads⟩, directory⟩⟩

/-- Above something that a path leads to stands a directory. -/
theorem stat_above {p : Path} {name : String} {tail place : List String} {item : Item}
    (found : t.stat (p.below (name :: tail)) = .ok (place, item)) :
    ∃ base, t.stat p = .ok (base, .directory) := by
  refine @follow_above t p name tail fun fault isFault => ?_
  rw [stat_ok, isFault] at found
  cases found

section Below

variable {p : Path} {name : String} {tail place : List String}
  (fits : (p.below tail).size ≤ maxPathSize)
include fits

/-- Names below what a path leads to are followed from there with the links that are left. -/
theorem follow_below_from {n : Nat} (few : n ≤ maxLinks) (passes : t.Passes n p place) :
    t.follow (p.below tail) = t.followFrom (maxLinks + 1 - n) place tail := by
  rw [follow_eq fits]
  exact followFrom_append passes (Nat.lt_succ_of_le few) tail

/-- If no link is met, the links that are left do not matter. -/
theorem follow_below {item : Item} (here : t.stat p = .ok (place, item))
    (noLink : ∀ base target rest, t.reach place tail ≠ .link base target rest) :
    t.follow (p.below tail) = t.reach place tail := by
  obtain ⟨-, ⟨n, few, passes⟩, -⟩ := stat_iff.mp here
  have left : maxLinks + 1 - n = maxLinks - n + 1 := by omega
  rw [follow_below_from fits few passes, left, followFrom]
  split
  · rename_i met
    exact absurd met (noLink _ _ _)
  · rfl

end Below

/-- With more links left the same is found, unless the limit is met. -/
theorem followFrom_alike (t : FileTree) (links more : Nat) (current names : List String) :
    t.followFrom links current names = .fault .loop ∨ t.followFrom more current names = .fault .loop ∨
      t.followFrom links current names = t.followFrom more current names := by
  induction links generalizing more current names with
  | zero => exact .inl rfl
  | succ links ih =>
    cases more with
    | zero => exact .inr (.inl rfl)
    | succ more =>
      unfold followFrom
      cases t.reach current names with
      | link base target rest => exact ih more _ _
      | found | absent | fault => exact .inr (.inr rfl)

section Alike

variable {p q : Path} {base : List String} {item other : Item} {tail : List String}
  (here : t.stat p = .ok (base, item)) (there : t.stat q = .ok (base, other))
  (fits : (p.below tail).size ≤ maxPathSize ↔ (q.below tail).size ≤ maxPathSize)
include here there fits

/-- Below two paths that lead to one place the same is found, unless the limit of links is met. -/
theorem stat_alike : t.stat (p.below tail) = .error .loop ∨ t.stat (q.below tail) = .error .loop ∨
    t.stat (p.below tail) = t.stat (q.below tail) := by
  obtain ⟨-, ⟨n, few, passes⟩, -⟩ := stat_iff.mp here
  obtain ⟨-, ⟨m, fewToo, passesToo⟩, -⟩ := stat_iff.mp there
  unfold stat
  by_cases short : (p.below tail).size ≤ maxPathSize
  · rw [follow_below_from short few passes, follow_below_from (fits.mp short) fewToo passesToo]
    rcases t.followFrom_alike (maxLinks + 1 - n) (maxLinks + 1 - m) base tail with
      first | second | same
    · rw [first]
      exact .inl rfl
    · rw [second]
      exact .inr (.inl rfl)
    · rw [same]
      exact .inr (.inr rfl)
  · have long := Nat.lt_of_not_le short
    have longToo := Nat.lt_of_not_le (mt fits.mpr short)
    rw [follow, follow, if_pos long, if_pos longToo]
    exact .inr (.inr rfl)

theorem stat_alike_of_noLink
    (noLink : ∀ base' target rest, t.reach base tail ≠ .link base' target rest) :
    t.stat (p.below tail) = t.stat (q.below tail) := by
  unfold stat
  by_cases short : (p.below tail).size ≤ maxPathSize
  · rw [follow_below short here noLink, follow_below (fits.mp short) there noLink]
  · have long := Nat.lt_of_not_le short
    have longToo := Nat.lt_of_not_le (mt fits.mpr short)
    rw [follow, follow, if_pos long, if_pos longToo]

end Alike

/-- Nothing is found below a file, whatever is asked for there. -/
theorem follow_below_file {p : Path} {name : String} {tail place : List String} {bytes : List Nat}
    (fits : (p.below (name :: tail)).size ≤ maxPathSize)
    (isFile : t.stat p = .ok (place, .file bytes)) :
    t.follow (p.below (name :: tail)) = .fault .notDirectory := by
  have fault : t.reach place (name :: tail) = .fault .notDirectory := by
    simp [reach, lookUp, FileTree.opened, (stat_iff.mp isFile).2.2]
  rw [follow_below fits isFile (by simp [fault]), fault]

/-- A name in a directory that has nothing of that name leads to a free place, and names behind it
lead nowhere. -/
theorem follow_below_free {p : Path} {name : String} {tail place : List String}
    (fits : (p.below (name :: tail)).size ≤ maxPathSize)
    (here : t.stat p = .ok (place, .directory)) (isDown : name ≠ "..")
    (free : t.lookUp place name = .ok none) : t.follow (p.below (name :: tail)) =
      if tail.isEmpty then .absent (place ++ [name]) else .fault .missing := by
  have reached : t.reach place (name :: tail) =
      if tail.isEmpty then .absent (place ++ [name]) else .fault .missing := by
    simp [reach, isDown, free]
  have noLink : ∀ base target rest, t.reach place (name :: tail) ≠ .link base target rest := by
    intro base target rest met
    rw [reached] at met
    split at met <;> cases met
  rw [follow_below fits here noLink, reached]

end FileTree
end PoolLint
