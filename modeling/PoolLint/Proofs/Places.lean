import Mathlib.Data.List.Nodup
import Mathlib.Data.List.Pairwise
import PoolLint.Syntax.Node

/-! The nodes of a tree by their places. The walk with a list of waiting nodes is the recursive one. It
meets the nodes that it can reach through nodes it enters, each exactly once, in the order of their
places, which compare like words. -/
namespace PoolLint.Syntax.Node

/-- The node that a place leads to: at each step, the position among the children. -/
def nodeAt? (n : Node) : List Nat → Option Node
  | [] => some n
  | position :: place => (n.children[position]?).bind (·.nodeAt? place)

mutual

/-- The nodes of a tree, each before the nodes in it. Nothing is visited inside a node that is not
entered. -/
def preorder (enters : Node → Bool) : Node → List Node
  | .mk kind role text span children =>
    .mk kind role text span children ::
      (if enters (.mk kind role text span children) then preorderAll enters children else [])

def preorderAll (enters : Node → Bool) : List Node → List Node
  | [] => []
  | n :: rest => preorder enters n ++ preorderAll enters rest

end

mutual

def placed : Node → List (List Nat × Node)
  | .mk kind role text span children =>
    ([], .mk kind role text span children) :: placedFrom 0 children

def placedFrom (position : Nat) : List Node → List (List Nat × Node)
  | [] => []
  | n :: rest =>
    (placed n).map (fun p => (position :: p.1, p.2)) ++ placedFrom (position + 1) rest

end

private theorem preorderAll_append (enters : Node → Bool) (ns ms : List Node) :
    preorderAll enters (ns ++ ms) = preorderAll enters ns ++ preorderAll enters ms := by
  induction ns with
  | nil => rfl
  | cons n ns ih => simp only [List.cons_append, preorderAll, ih, List.append_assoc]

private theorem sizeAll_append (ns ms : List Node) :
    sizeAll (ns ++ ms) = sizeAll ns + sizeAll ms := by
  induction ns with
  | nil => simp [sizeAll]
  | cons n ns ih => simp only [List.cons_append, sizeAll, ih, Nat.add_assoc]

private theorem preorderAll_cons (enters : Node → Bool) (n : Node) (waiting : List Node) :
    preorderAll enters (n :: waiting) =
      n :: preorderAll enters (if enters n then n.children ++ waiting else waiting) := by
  obtain ⟨kind, role, text, span, children⟩ := n
  simp only [preorderAll, preorder, children_mk, List.cons_append]
  split
  · rw [preorderAll_append]
  · rfl

/-- Every round takes one node off and puts at most its children in its place. -/
private theorem sizeAll_round (enters : Node → Bool) (n : Node) (waiting : List Node) :
    sizeAll (if enters n then n.children ++ waiting else waiting) < sizeAll (n :: waiting) := by
  obtain ⟨kind, role, text, span, children⟩ := n
  simp only [sizeAll, size, children_mk]
  split
  · rw [sizeAll_append]
    omega
  · omega

/-- Enough fuel is the size of what waits. -/
theorem visit_eq_preorderAll (enters : Node → Bool) (fuel : Nat) (waiting : List Node)
    (enough : sizeAll waiting ≤ fuel) : visit enters fuel waiting = preorderAll enters waiting := by
  induction fuel generalizing waiting with
  | zero =>
    cases waiting with
    | nil => rfl
    | cons n rest =>
      have smaller := sizeAll_round enters n rest
      omega
  | succ fuel ih =>
    cases waiting with
    | nil => rfl
    | cons n rest =>
      have smaller := sizeAll_round enters n rest
      rw [visit, preorderAll_cons, ih _ (by omega)]

theorem walk_eq_preorder (enters : Node → Bool) (root : Node) :
    walk enters root = preorder enters root := by
  have whole := visit_eq_preorderAll enters root.size [root] (by simp [sizeAll])
  simpa [walk, preorderAll] using whole

/-- The loop of the walk, followed until nothing waits: the first node that waits is visited, and if
it is entered its children wait in its place. -/
inductive Walks (enters : Node → Bool) : List Node → List Node → Prop
  | done : Walks enters [] []
  | round {n : Node} {waiting visited : List Node}
      (rest : Walks enters (if enters n then n.children ++ waiting else waiting) visited) :
      Walks enters (n :: waiting) (n :: visited)

/-- Whatever waits, the loop ends, and it has visited what waits tree by tree. -/
theorem walks_iff (enters : Node → Bool) (waiting visited : List Node) :
    Walks enters waiting visited ↔ visited = preorderAll enters waiting := by
  constructor
  · intro walks
    induction walks with
    | done => rfl
    | round _ ih => rw [preorderAll_cons, ih]
  · rintro rfl
    induction size : sizeAll waiting using Nat.strongRecOn generalizing waiting with
    | ind size ih =>
      cases waiting with
      | nil => exact .done
      | cons n rest =>
        have smaller := sizeAll_round enters n rest
        rw [preorderAll_cons]
        exact .round (ih _ (by omega) _ rfl)

/-- A place that leads to a node through nodes that are all entered. -/
inductive Reaches (enters : Node → Bool) : Node → List Nat → Node → Prop
  | here (n : Node) : Reaches enters n [] n
  | inside {n child m : Node} {position : Nat} {place : List Nat} (entered : enters n)
      (found : n.children[position]? = some child) (rest : Reaches enters child place m) :
      Reaches enters n (position :: place) m

section Walked

variable (enters : Node → Bool)

mutual

/-- The nodes that a walk meets, with their places. -/
def walked : Node → List (List Nat × Node)
  | .mk kind role text span children =>
    ([], .mk kind role text span children) ::
      (if enters (.mk kind role text span children) then walkedFrom 0 children else [])

def walkedFrom (position : Nat) : List Node → List (List Nat × Node)
  | [] => []
  | n :: rest =>
    (walked n).map (fun p => (position :: p.1, p.2)) ++ walkedFrom (position + 1) rest

end

mutual

theorem map_snd_walked (n : Node) : (n.walked enters).map (·.2) = preorder enters n := by
  obtain ⟨kind, role, text, span, children⟩ := n
  rw [walked, preorder, List.map_cons]
  split
  · rw [map_snd_walkedFrom 0 children]
  · rfl

theorem map_snd_walkedFrom (position : Nat) (ns : List Node) :
    (walkedFrom enters position ns).map (·.2) = preorderAll enters ns := by
  cases ns with
  | nil => rfl
  | cons n rest =>
    simp only [walkedFrom, preorderAll, List.map_append, List.map_map, Function.comp_def]
    rw [map_snd_walked n, map_snd_walkedFrom (position + 1) rest]

end

mutual

theorem mem_walked (n : Node) (place : List Nat) (m : Node) :
    (place, m) ∈ n.walked enters ↔ Reaches enters n place m := by
  obtain ⟨kind, role, text, span, children⟩ := n
  rw [walked, List.mem_cons]
  constructor
  · rintro (same | member)
    · cases same
      exact .here _
    · split at member
      · rename_i entered
        obtain ⟨i, rest, child, rfl, found, leads⟩ := (mem_walkedFrom 0 children place m).mp member
        rw [Nat.zero_add]
        exact .inside entered found leads
      · cases member
  · intro leads
    cases leads with
    | here => exact .inl rfl
    | @inside _ child _ position rest entered found leads =>
      rw [if_pos entered]
      exact .inr ((mem_walkedFrom 0 children _ m).mpr
        ⟨position, rest, child, by rw [Nat.zero_add], found, leads⟩)

theorem mem_walkedFrom (position : Nat) (ns : List Node) (place : List Nat) (m : Node) :
    (place, m) ∈ walkedFrom enters position ns ↔ ∃ i rest n, place = (position + i) :: rest ∧
      ns[i]? = some n ∧ Reaches enters n rest m := by
  cases ns with
  | nil => simp [walkedFrom]
  | cons n ns =>
    simp only [walkedFrom, List.mem_append, List.mem_map, Prod.mk.injEq, Prod.exists]
    constructor
    · rintro (⟨rest, m', member, rfl, rfl⟩ | member)
      · exact ⟨0, rest, n, rfl, rfl, (mem_walked n rest m').mp member⟩
      · obtain ⟨i, rest, n', rfl, found, leads⟩ := (mem_walkedFrom _ ns place m).mp member
        exact ⟨i + 1, rest, n', by rw [Nat.add_assoc, Nat.add_comm 1 i], found, leads⟩
    · rintro ⟨i, rest, n', rfl, found, leads⟩
      cases i with
      | zero =>
        cases found
        exact .inl ⟨rest, m, (mem_walked n rest m).mpr leads, rfl, rfl⟩
      | succ i =>
        refine .inr ((mem_walkedFrom _ ns _ m).mpr ⟨i, rest, n', ?_, found, leads⟩)
        rw [Nat.add_assoc, Nat.add_comm 1 i]

end

mutual

theorem walked_sorted (n : Node) : (n.walked enters).Pairwise fun p q => p.1 < q.1 := by
  obtain ⟨kind, role, text, span, children⟩ := n
  rw [walked, List.pairwise_cons]
  split
  · refine ⟨?_, walkedFrom_sorted 0 children⟩
    rintro ⟨place, m⟩ member
    obtain ⟨i, rest, child, rfl, -⟩ := (mem_walkedFrom enters 0 children place m).mp member
    exact List.nil_lt_cons _ _
  · exact ⟨fun p member => (List.not_mem_nil member).elim, .nil⟩

theorem walkedFrom_sorted (position : Nat) (ns : List Node) :
    (walkedFrom enters position ns).Pairwise fun p q => p.1 < q.1 := by
  cases ns with
  | nil => exact .nil
  | cons n rest =>
    rw [walkedFrom, List.pairwise_append, List.pairwise_map]
    refine ⟨?_, walkedFrom_sorted (position + 1) rest, ?_⟩
    · exact (walked_sorted n).imp fun before => List.cons_lt_cons_iff.mpr (.inr ⟨rfl, before⟩)
    · -- the places of the first sibling start with its position, the others with a later one
      intro p first q later
      obtain ⟨p, -, rfl⟩ := List.mem_map.mp first
      obtain ⟨i, place, m, same, -⟩ := (mem_walkedFrom enters _ rest q.1 q.2).mp later
      rw [same]
      exact List.cons_lt_cons_iff.mpr (.inl (by omega))

end

end Walked

section Placed

theorem reaches_all (n : Node) (place : List Nat) (m : Node) :
    Reaches (fun _ => true) n place m ↔ n.nodeAt? place = some m := by
  constructor
  · intro leads
    induction leads with
    | here => rfl
    | inside _ found _ ih => rw [nodeAt?, found, Option.bind_some, ih]
  · intro leads
    induction place generalizing n with
    | nil =>
      cases leads
      exact .here _
    | cons position place ih =>
      obtain ⟨child, found, rest⟩ := Option.bind_eq_some_iff.mp leads
      exact .inside rfl found (ih child rest)

mutual

theorem placed_eq_walked (n : Node) : n.placed = n.walked fun _ => true := by
  obtain ⟨kind, role, text, span, children⟩ := n
  rw [placed, walked, if_pos rfl, placedFrom_eq_walked 0 children]

theorem placedFrom_eq_walked (position : Nat) (ns : List Node) :
    placedFrom position ns = walkedFrom (fun _ => true) position ns := by
  cases ns with
  | nil => rfl
  | cons n rest =>
    rw [placedFrom, walkedFrom, placed_eq_walked n, placedFrom_eq_walked (position + 1) rest]

end

theorem ofKind_eq_placed (kind : Kind) (root : Node) :
    ofKind kind root = (root.placed.filter (·.2.kind == kind)).map (·.2) := by
  rw [ofKind, walk_eq_preorder, placed_eq_walked, ← map_snd_walked, List.filter_map]
  rfl

theorem mem_placed (n : Node) (place : List Nat) (m : Node) :
    (place, m) ∈ n.placed ↔ n.nodeAt? place = some m := by
  rw [placed_eq_walked, mem_walked, reaches_all]

theorem mem_placedFrom (position : Nat) (ns : List Node) (place : List Nat) (m : Node) :
    (place, m) ∈ placedFrom position ns ↔
      ∃ i rest n, place = (position + i) :: rest ∧ ns[i]? = some n ∧ n.nodeAt? rest = some m := by
  simp only [placedFrom_eq_walked, mem_walkedFrom, reaches_all]

theorem nodup_placed (n : Node) : (n.placed.map (·.1)).Nodup := by
  rw [placed_eq_walked, List.Nodup, List.pairwise_map]
  refine (walked_sorted _ n).imp ?_
  intro p q before same
  exact List.lt_irrefl _ (same ▸ before)

end Placed

end PoolLint.Syntax.Node
