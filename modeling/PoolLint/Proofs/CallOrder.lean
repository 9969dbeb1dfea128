import PoolLint.Proofs.AnchoredFindings

/-! The call sites of a tree. The walk, which keeps the nodes that wait in a list, is the recursive
one whatever it enters; so unless a value lies too deep there is one call site for each call, outer
calls come before the calls in them, and over a tree in order the call sites stand in source order, a
longer one before a shorter one that starts with it. -/
namespace PoolLint.Lowering
open PoolLint.Syntax

/-- The second call starts behind the start of the first, or at the same byte and reaches no further
than the first. -/
def InSourceOrder (a b : CallSite) : Prop :=
  a.location.startByte < b.location.startByte ∨
    a.location.startByte = b.location.startByte ∧ b.location.endByte ≤ a.location.endByte

/-- Every call of a tree covers a byte. -/
def NoEmptyCall (root : Node) : Prop :=
  ∀ call ∈ root.ofKind .call, call.span.start.byte < call.span.stop.byte

instance (root : Node) : Decidable (NoEmptyCall root) :=
  inferInstanceAs (Decidable (∀ call ∈ root.ofKind .call, _))

theorem callSites_eq_placed (file : Path) (root : Node) :
    (callSites file root).value =
      (Scan.placedCalls root).map fun p => (callSiteOf file p.2).value := by
  simp only [callSites, ← Scan.map_snd_placedCalls, List.map_map, Function.comp_def]

theorem not_extends_of_lt {place later : List Nat} (before : place < later) : ¬ later <+: place := by
  intro extends_
  exact List.not_lt.mpr extends_.le before

theorem inSourceOrder_of_precedes {root : Node} (order : root.InOrder) (file : Path)
    {p q : List Nat × Node} (found : root.nodeAt? p.1 = some p.2)
    (found' : root.nodeAt? q.1 = some q.2) (filled : p.2.span.start.byte < p.2.span.stop.byte)
    (precedes : Node.Precedes p q) :
    InSourceOrder (callSiteOf file p.2).value (callSiteOf file q.2).value := by
  show p.2.span.start.byte < q.2.span.start.byte ∨
    p.2.span.start.byte = q.2.span.start.byte ∧ q.2.span.stop.byte ≤ p.2.span.stop.byte
  rcases precedes with ⟨rest, -, below⟩ | before
  · rw [below, Node.nodeAt?_append, found] at found'
    obtain ⟨start, stop⟩ := (order.at_ found).within found'
    rcases Nat.lt_or_eq_of_le start with later | same
    · exact .inl later
    · exact .inr ⟨same, stop⟩
  · exact .inl (Nat.lt_of_lt_of_le filled before)

theorem placedCalls_inSourceOrder {root : Node} (order : root.InOrder) (filled : NoEmptyCall root)
    (file : Path) : ((Scan.placedCalls root).map fun p => (callSiteOf file p.2).value).Pairwise
      InSourceOrder := by
  rw [List.pairwise_map]
  have precede : (Scan.placedCalls root).Pairwise Node.Precedes :=
    (Node.placed_precedes root order).filter _
  refine precede.imp_of_mem ?_
  intro p q first second precedes
  refine inSourceOrder_of_precedes order file (Scan.mem_placedCalls.mp first).1
    (Scan.mem_placedCalls.mp second).1 (filled p.2 ?_) precedes
  rw [← Scan.map_snd_placedCalls]
  exact List.mem_map_of_mem first

/-- The loop of the walk ends for every tree and everything that it may enter, and it visits the tree
in preorder. Unless a value lies too deep, each call has one call site, and a call stands before the
calls in it; if the parts of all nodes are in order and no call is empty, the call sites are in source
order. -/
theorem callSites_outer_first (root : Node) :
    (∀ enters visited, Node.Walks enters [root] visited ↔ visited = Node.preorder enters root) ∧
    (∀ enters, Node.walk enters root = Node.preorder enters root) ∧
    ∀ file, ∃ calls : List (List Nat × Node),
      (Scan.readSites file root).result =
        (if root.Shallow then .ok (calls.map fun p => (callSiteOf file p.2).value)
          else .error .tooDeep) ∧
      (calls.map (·.1)).Nodup ∧
      (∀ place call, (place, call) ∈ calls ↔ root.nodeAt? place = some call ∧ call.kind = .call) ∧
      calls.Pairwise (fun p q => ¬ q.1 <+: p.1) ∧
      (root.InOrder → NoEmptyCall root →
        (calls.map fun p => (callSiteOf file p.2).value).Pairwise InSourceOrder) := by
  refine ⟨?_, fun enters => Node.walk_eq_preorder enters root, ?_⟩
  · intro enters visited
    rw [Node.walks_iff]
    simp [Node.preorderAll]
  · intro file
    have sorted : (Scan.placedCalls root).Pairwise fun p q => p.1 < q.1 := by
      have places := Node.walked_sorted (fun _ => true) root
      rw [← Node.placed_eq_walked] at places
      exact places.filter _
    refine ⟨Scan.placedCalls root, ?_, ?_, fun place call => Scan.mem_placedCalls,
      sorted.imp not_extends_of_lt, fun order filled => placedCalls_inSourceOrder order filled file⟩
    · rw [Scan.readSites_result, callSites_eq_placed]
    · exact (Node.nodup_placed root).sublist (List.filter_sublist.map _)

/-- Calls in a chain, which start together, and one in the arguments. -/
def chainedText : String := "f(g(x)).h(y)\n"

theorem chainedText_outer_first : ∃ root sites, Node.ofText? chainedText.toList = some root ∧
    root.InOrder ∧ NoEmptyCall root ∧
    (Scan.readSites ⟨0, ["app.py"]⟩ root).result = .ok sites ∧
    sites.map (fun site => (site.location.startByte, site.location.endByte)) =
      [(0, 12), (0, 7), (2, 6)] ∧
    sites.Pairwise InSourceOrder := by
  have read : (Node.ofText? chainedText.toList).any fun root =>
      decide (NoEmptyCall root) && decide root.Shallow &&
        (callSites ⟨0, ["app.py"]⟩ root).value.map
          (fun site => (site.location.startByte, site.location.endByte)) ==
            [(0, 12), (0, 7), (2, 6)] := by
    decide +kernel
  obtain ⟨root, parsed, holds⟩ := (Option.any_eq_true _ _).mp read
  simp only [Bool.and_eq_true, decide_eq_true_eq] at holds
  obtain ⟨⟨filled, shallow⟩, spans⟩ := holds
  have order := (Node.ofText?_laidOut parsed).inOrder
  obtain ⟨-, -, sites⟩ := callSites_outer_first root
  obtain ⟨calls, built, -, -, -, sourceOrder⟩ := sites ⟨0, ["app.py"]⟩
  rw [if_pos shallow] at built
  have whole := (Scan.readSites_result ⟨0, ["app.py"]⟩ root).trans (if_pos shallow)
  rw [built] at whole
  injection whole with same
  rw [← same] at spans
  exact ⟨root, _, parsed, order, filled, built, beq_iff_eq.mp spans, sourceOrder order filled⟩

/-- The tree of a call that is given a number behind so many signs, without places. -/
def signedCall (signs : Nat) : Node :=
  .mk .call .plain "" default
    [.mk .identifier .function "f" default [],
      .mk .argumentList .arguments "" default [signedNumber signs]]

/-- A call that covers nothing stands in front of one that starts at the same byte. -/
def emptyCallTree : Node :=
  let span (stop : Nat) : Span := ⟨.start, ⟨0, stop, stop⟩⟩
  .mk .module .plain "f()" (span 3)
    [.mk .call .plain "" (span 0) [], .mk .call .plain "f()" (span 3) []]

private theorem emptyCallTree_inOrder : emptyCallTree.InOrder := by
  intro place m found
  have listed := (Node.mem_placed emptyCallTree place m).mpr found
  have nodes : emptyCallTree.placed.map (·.2) = emptyCallTree :: emptyCallTree.children := rfl
  have member : m ∈ emptyCallTree :: emptyCallTree.children :=
    nodes ▸ List.mem_map_of_mem listed
  simp only [emptyCallTree, Node.children_mk, List.mem_cons, List.not_mem_nil, or_false] at member
  rcases member with rfl | rfl | rfl
  · exact ⟨by decide, by simp [Span.Within, Position.start], by simp [Span.Before, Position.start]⟩
  · exact ⟨by decide, nofun, .nil⟩
  · exact ⟨by decide, nofun, .nil⟩

/-- A value that lies too deep takes all call sites with it, and an empty call comes before a longer
one that starts with it. -/
theorem signedCall_unbuilt :
    (¬ ∃ sites, (Scan.readSites ⟨0, ["app.py"]⟩ (signedCall 1500)).result = .ok sites) ∧
    emptyCallTree.InOrder ∧ ∃ sites,
      (Scan.readSites ⟨0, ["app.py"]⟩ emptyCallTree).result = .ok sites ∧
      ¬ sites.Pairwise InSourceOrder := by
  have deep : ¬ (signedCall 1500).Shallow :=
    not_shallow [] rfl rfl rfl rfl List.mem_cons_self rfl (readsOn_signedNumber 1500) (by decide)
  refine ⟨?_, emptyCallTree_inOrder, _, rfl, ?_⟩
  · rintro ⟨sites, read⟩
    rw [Scan.readSites_result, if_neg deep] at read
    cases read
  · intro order
    have behind := (List.pairwise_cons.mp order).1 _ List.mem_cons_self
    rcases behind with later | ⟨-, shorter⟩
    · exact absurd later (by decide)
    · exact absurd shorter (by decide)

end PoolLint.Lowering
