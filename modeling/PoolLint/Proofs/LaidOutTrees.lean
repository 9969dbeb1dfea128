import Mathlib.Data.List.Pairwise
import PoolLint.Proofs.Places

/-! Trees whose nodes stand in order, the parts of each inside it one behind the other, and trees that
are laid out over a text: each node covers its text besides, and a value is shorter than the pair or
named argument around it. Of two nodes of a tree in order, one lies inside the other or one ends
before the other starts. -/
namespace PoolLint.Syntax

namespace Span

def size (s : Span) : Nat := s.stop.byte - s.start.byte

def Within (s t : Span) : Prop := t.start.byte ≤ s.start.byte ∧ s.stop.byte ≤ t.stop.byte

def Before (s t : Span) : Prop := s.stop.byte ≤ t.start.byte

theorem Within.refl (s : Span) : s.Within s := ⟨Nat.le_refl _, Nat.le_refl _⟩

theorem Within.trans {s t u : Span} (inner : s.Within t) (outer : t.Within u) : s.Within u :=
  ⟨Nat.le_trans outer.1 inner.1, Nat.le_trans inner.2 outer.2⟩

theorem Within.before {s s' t t' : Span} (first : s.Within t) (second : s'.Within t')
    (order : t.Before t') : s.Before s' :=
  Nat.le_trans first.2 (Nat.le_trans order second.1)

theorem Within.size_le {s t : Span} (inside : s.Within t) : s.size ≤ t.size := by
  obtain ⟨start, stop⟩ := inside
  unfold size
  omega

end Span

namespace Node

/-- The parts of a node stand inside it, one behind the other. -/
structure Arranged (n : Node) : Prop where
  forward : n.span.start.byte ≤ n.span.stop.byte
  inside : ∀ m ∈ n.children, m.span.Within n.span
  ordered : n.children.Pairwise fun a b => a.span.Before b.span

/-- All nodes of a tree have their parts in order. -/
def InOrder (n : Node) : Prop := ∀ place m, n.nodeAt? place = some m → m.Arranged

/-- A node is laid out over its text. -/
structure Laid (n : Node) : Prop where
  size : n.span.start.byte + n.text.utf8ByteSize = n.span.stop.byte
  inside : ∀ m ∈ n.children, m.span.Within n.span
  ordered : n.children.Pairwise fun a b => a.span.Before b.span
  longer : n.kind = .pair ∨ n.kind = .keywordArgument →
    ∀ value ∈ n.child? .value, value.span.size < n.span.size

def LaidOut (n : Node) : Prop := ∀ place m, n.nodeAt? place = some m → m.Laid

theorem Laid.start_le {n : Node} (laid : n.Laid) : n.span.start.byte ≤ n.span.stop.byte := by
  have size := laid.size
  omega

theorem nodeAt?_append (n : Node) (place rest : List Nat) :
    n.nodeAt? (place ++ rest) = (n.nodeAt? place).bind (·.nodeAt? rest) := by
  induction place generalizing n with
  | nil => rfl
  | cons position place ih =>
    simp only [List.cons_append, nodeAt?]
    cases n.children[position]? with
    | none => rfl
    | some child => exact ih child

theorem nodeAt?_of_mem {n m : Node} (member : m ∈ n.children) :
    ∃ position : Nat, n.nodeAt? [position] = some m := by
  obtain ⟨position, found⟩ := List.mem_iff_getElem?.mp member
  exact ⟨position, by simp [nodeAt?, found]⟩

namespace InOrder

variable {n m : Node}

theorem here (order : n.InOrder) : n.Arranged := order [] n rfl

theorem at_ (order : n.InOrder) {place : List Nat} (found : n.nodeAt? place = some m) :
    m.InOrder := by
  intro rest k below
  apply order (place ++ rest) k
  rw [nodeAt?_append, found]
  exact below

theorem child (order : n.InOrder) (member : m ∈ n.children) : m.InOrder := by
  obtain ⟨_, reached⟩ := nodeAt?_of_mem member
  exact order.at_ reached

theorem within (order : n.InOrder) {place : List Nat} (found : n.nodeAt? place = some m) :
    m.span.Within n.span := by
  induction place generalizing n with
  | nil =>
    cases found
    exact .refl _
  | cons position place ih =>
    obtain ⟨child, here, below⟩ := Option.bind_eq_some_iff.mp found
    have member := List.mem_of_getElem? here
    exact (ih (order.child member) below).trans (order.here.inside child member)

end InOrder

namespace LaidOut

variable {n m : Node}

theorem here (laid : n.LaidOut) : n.Laid := laid [] n rfl

theorem at_ (laid : n.LaidOut) {place : List Nat} (found : n.nodeAt? place = some m) :
    m.LaidOut := by
  intro rest k below
  apply laid (place ++ rest) k
  rw [nodeAt?_append, found]
  exact below

theorem child (laid : n.LaidOut) (member : m ∈ n.children) : m.LaidOut := by
  obtain ⟨_, reached⟩ := nodeAt?_of_mem member
  exact laid.at_ reached

theorem inOrder (laid : n.LaidOut) : n.InOrder := by
  intro place m found
  have here := laid place m found
  exact ⟨here.start_le, here.inside, here.ordered⟩

theorem within (laid : n.LaidOut) {place : List Nat} (found : n.nodeAt? place = some m) :
    m.span.Within n.span := laid.inOrder.within found

end LaidOut

/-- Of two nodes in source order, the second lies inside the first or behind it. -/
def Precedes (a b : List Nat × Node) : Prop :=
  (∃ rest, rest ≠ [] ∧ b.1 = a.1 ++ rest) ∨ a.2.span.Before b.2.span

mutual

theorem placed_precedes (n : Node) (order : n.InOrder) : n.placed.Pairwise Precedes := by
  obtain ⟨kind, role, text, span, children⟩ := n
  rw [placed, List.pairwise_cons]
  refine ⟨?_, placedFrom_precedes 0 children (fun m member => order.child member)
    order.here.ordered⟩
  intro p member
  obtain ⟨i, rest, m, same, -⟩ := (mem_placedFrom 0 children p.1 p.2).mp member
  exact .inl ⟨p.1, by simp [same], rfl⟩

theorem placedFrom_precedes (position : Nat) (ns : List Node) (order : ∀ m ∈ ns, m.InOrder)
    (ordered : ns.Pairwise fun a b => a.span.Before b.span) :
    (placedFrom position ns).Pairwise Precedes := by
  cases ns with
  | nil => exact .nil
  | cons n rest =>
    obtain ⟨here, others⟩ := List.forall_mem_cons.mp order
    obtain ⟨first, orderedRest⟩ := List.pairwise_cons.mp ordered
    rw [placedFrom, List.pairwise_append]
    refine ⟨?_, placedFrom_precedes (position + 1) rest others orderedRest, ?_⟩
    · refine List.pairwise_map.mpr ((placed_precedes n here).imp ?_)
      rintro a b (⟨rest, inside, same⟩ | behind)
      · exact .inl ⟨rest, inside, by rw [same, List.cons_append]⟩
      · exact .inr behind
    · -- a node of the first sibling and one of a later sibling
      intro a first' b later
      obtain ⟨⟨place, m⟩, inside, rfl⟩ := List.mem_map.mp first'
      obtain ⟨i, below, sibling, -, found, leads⟩ := (mem_placedFrom _ rest b.1 b.2).mp later
      have member := List.mem_of_getElem? found
      have left := here.within ((mem_placed n place m).mp inside)
      have right := (others sibling member).within leads
      exact .inr (left.before right (first sibling member))

end

theorem either_of_pairwise {α : Type} {R : α → α → Prop} {l : List α} (order : l.Pairwise R)
    {a b : α} (first : a ∈ l) (second : b ∈ l) (differ : a ≠ b) : R a b ∨ R b a := by
  have : Std.Symm fun a b => R a b ∨ R b a := ⟨fun _ _ => Or.symm⟩
  exact (order.imp (S := fun a b => R a b ∨ R b a) .inl).forall first second differ

/-- Of two nodes of a tree that is laid out, one lies inside the other or the two are apart. -/
theorem LaidOut.precedes_or {n : Node} (laid : n.LaidOut) {place place' : List Nat} {a b : Node}
    (first : n.nodeAt? place = some a) (second : n.nodeAt? place' = some b)
    (differ : place ≠ place') :
    Precedes (place, a) (place', b) ∨ Precedes (place', b) (place, a) :=
  either_of_pairwise (placed_precedes n laid.inOrder) ((mem_placed n place a).mpr first)
    ((mem_placed n place' b).mpr second) fun same => differ (congrArg Prod.fst same)

end Node
end PoolLint.Syntax
