import PoolLint.Proofs.AnchoredFindings

/-! The order of the findings of a source. The calls are gone through from the outer to the inner
ones, and each reports its settings one behind the other: the findings stand in source order unless a
call reports a setting behind one that a call in it reports. -/
namespace PoolLint.Scan
open PoolLint.Syntax Lowering

def NotBehind (d e : Diagnostic) : Prop := d.location.startByte ≤ e.location.startByte

/-- Whatever a call reports stands before whatever is reported by the calls in it. -/
def OuterFirst (config : RuleConfig) (facts : FileFacts) (file : Path) (root : Node) : Prop :=
  ∀ place call, root.nodeAt? place = some call → call.kind = .call →
    ∀ rest inner, rest ≠ [] → call.nodeAt? rest = some inner → inner.kind = .call →
      ∀ d ∈ reportedBy config facts file call, ∀ e ∈ reportedBy config facts file inner,
        NotBehind d e

section Laid

variable {root : Node} (laid : root.LaidOut) {config : RuleConfig} {facts : FileFacts} {file : Path}
include laid

theorem placedCalls_precedes : (placedCalls root).Pairwise Node.Precedes :=
  (Node.placed_precedes root laid.inOrder).filter _

/-- Calls that do not stand in each other report in the order in which they stand. -/
theorem notBehind_of_before {p q : List Nat × Node} (first : p ∈ placedCalls root)
    (second : q ∈ placedCalls root) (before : p.2.span.Before q.2.span) {d e : Diagnostic}
    (member : d ∈ reportedBy config facts file p.2)
    (member' : e ∈ reportedBy config facts file q.2) : NotBehind d e := by
  obtain ⟨found, kind⟩ := mem_placedCalls.mp first
  obtain ⟨found', kind'⟩ := mem_placedCalls.mp second
  have left := reported_inside laid found kind member
  have right := reported_inside laid found' kind' member'
  calc d.location.startByte
    _ ≤ d.location.endByte := Nat.le_of_lt left.filled
    _ ≤ p.2.span.stop.byte := left.stop
    _ ≤ q.2.span.start.byte := before
    _ ≤ e.location.startByte := right.start

theorem outerFirst_ordered (outer : OuterFirst config facts file root) :
    ((placedCalls root).flatMap fun p => reportedBy config facts file p.2).Pairwise NotBehind := by
  rw [List.pairwise_flatMap]
  constructor
  · intro p met
    obtain ⟨found, kind⟩ := mem_placedCalls.mp met
    exact (reported_ordered (laid.at_ found) kind).imp fun order => Nat.le_of_lt order.1
  · refine (placedCalls_precedes laid).imp_of_mem ?_
    -- a later call stands in the earlier one or behind it
    rintro p q first second (nested | before) d member e member'
    · obtain ⟨rest, inside, below⟩ := nested
      obtain ⟨found, kind⟩ := mem_placedCalls.mp first
      obtain ⟨found', kind'⟩ := mem_placedCalls.mp second
      rw [below, Node.nodeAt?_append, found] at found'
      exact outer p.1 p.2 found kind rest q.2 inside found' kind' d member e member'
    · exact notBehind_of_before laid first second before member member'

/-- A call that reports something does not stand before a call around it. -/
theorem not_precedes_outer {place rest : List Nat} {call inner : Node}
    (found : root.nodeAt? place = some call) (inside : rest ≠ [])
    (below : call.nodeAt? rest = some inner) (kind : inner.kind = .call) {e : Diagnostic}
    (member : e ∈ reportedBy config facts file inner) :
    ¬ Node.Precedes (place ++ rest, inner) (place, call) := by
  have laidCall := laid.at_ found
  rintro (⟨more, -, same⟩ | before)
  · have lengths := congrArg List.length same
    simp only [List.length_append] at lengths
    exact inside (List.eq_nil_of_length_eq_zero (by omega))
  · have covered := reported_inside laidCall below kind member
    have within := (laidCall.within below).1
    have filled := covered.filled
    have start := covered.start
    have stop := covered.stop
    unfold Span.Before at before
    dsimp only at before
    omega

theorem ordered_outerFirst
    (ordered : ((placedCalls root).flatMap fun p => reportedBy config facts file p.2).Pairwise
      NotBehind) : OuterFirst config facts file root := by
  intro place call found kind rest inner inside below kind' d member e member'
  have outer : (place, call) ∈ placedCalls root := mem_placedCalls.mpr ⟨found, kind⟩
  have reached : root.nodeAt? (place ++ rest) = some inner := by
    rw [Node.nodeAt?_append, found]
    exact below
  have nested : (place ++ rest, inner) ∈ placedCalls root := mem_placedCalls.mpr ⟨reached, kind'⟩
  have differ : (place, call) ≠ (place ++ rest, inner) := by
    intro same
    exact inside (List.self_eq_append_right.mp (congrArg Prod.fst same))
  have pairs := (placedCalls_precedes laid).and (List.pairwise_flatMap.mp ordered).2
  rcases Node.either_of_pairwise pairs outer nested differ with ⟨-, order⟩ | ⟨impossible, -⟩
  · exact order d member e member'
  · exact absurd impossible (not_precedes_outer laid found inside below kind' member')

/-- The findings stand in source order exactly if outer calls report before inner ones. -/
theorem returned_ordered_iff {ds : List Diagnostic}
    (returned : (checkSites config facts (callSites file root).value).result = .ok ds) :
    ds.Pairwise NotBehind ↔ OuterFirst config facts file root := by
  rw [returned_eq returned, flatMap_placedCalls]
  exact ⟨ordered_outerFirst laid, outerFirst_ordered laid⟩

end Laid

/-- The findings of a source that is no syntax error stand in source order exactly if every call
reports in front of what is reported by the calls in it. -/
theorem scan_ordered_iff_outer_first (config : RuleConfig) (file : Path) (cs : List Char)
    (root : Node) (parsed : Node.ofText? cs = some root) (legal : Legality.check cs = .legal)
    (ds : List Diagnostic) (returned : (ofText config file cs).result = .ok ds) :
    ds.Pairwise NotBehind ↔ OuterFirst config (FileFacts.of file none root) file root := by
  rw [ofText_legal config file cs root parsed legal] at returned
  exact returned_ordered_iff (Node.ofText?_laidOut parsed) (returned_of_ofTree returned)

/-- A target call in another, each with a setting that is too low. The setting of the outer one
stands in front. -/
def orderedText : String :=
  "import jdbc\njdbc.Client(connectionPool=dict(maxOpenConnections=0), fallback=jdbc.Client(connectionPool=dict(maxOpenConnections=0)))\n"

theorem orderedText_outer_first : ∃ root ds,
    Node.ofText? orderedText.toList = some root ∧ Legality.check orderedText.toList = .legal ∧
      (ofText RuleConfig.standard ⟨0, ["app.py"]⟩ orderedText.toList).result = .ok ds ∧
      ds.length = 2 ∧ (ds.Pairwise NotBehind ↔ OuterFirst RuleConfig.standard
        (FileFacts.of ⟨0, ["app.py"]⟩ none root) ⟨0, ["app.py"]⟩ root) := by
  have read : (Node.ofText? orderedText.toList).isSome ∧
      Legality.check orderedText.toList = .legal ∧
      (ofText RuleConfig.standard ⟨0, ["app.py"]⟩ orderedText.toList).result.toOption.any
        (·.length == 2) := by
    decide +kernel
  obtain ⟨root, parsed⟩ := Option.isSome_iff_exists.mp read.1
  obtain ⟨ds, returned, two⟩ := exists_returned read.2.2
  exact ⟨root, ds, parsed, read.2.1, returned, beq_iff_eq.mp two,
    scan_ordered_iff_outer_first _ _ _ root parsed read.2.1 ds returned⟩

/-- The same calls with the inner one in front of the setting of the outer one. -/
def nestedText : String :=
  "import jdbc\njdbc.Client(fallback=jdbc.Client(connectionPool=\x7b\"maxOpenConnections\": 0\x7d), connectionPool=\x7b\"maxOpenConnections\": 0\x7d)\n"

theorem nestedText_unordered : ∃ root ds,
    Node.ofText? nestedText.toList = some root ∧ Legality.check nestedText.toList = .legal ∧
      (ofText RuleConfig.standard ⟨0, ["app.py"]⟩ nestedText.toList).result = .ok ds ∧
      ds.map (·.location.startByte) = [126, 83] ∧ ¬ ds.Pairwise NotBehind := by
  have read : (Node.ofText? nestedText.toList).isSome ∧
      Legality.check nestedText.toList = .legal ∧
      (ofText RuleConfig.standard ⟨0, ["app.py"]⟩ nestedText.toList).result.toOption.any
        (·.map (·.location.startByte) == [126, 83]) := by
    decide +kernel
  obtain ⟨root, parsed⟩ := Option.isSome_iff_exists.mp read.1
  obtain ⟨ds, returned, starts⟩ := exists_returned read.2.2
  have starts := beq_iff_eq.mp starts
  refine ⟨root, ds, parsed, read.2.1, returned, starts, ?_⟩
  intro ordered
  have sorted : (ds.map (·.location.startByte)).Pairwise (· ≤ ·) := List.pairwise_map.mpr ordered
  rw [starts] at sorted
  revert sorted
  decide

end PoolLint.Scan
