import PoolLint.Proofs.FindingPlaces
import PoolLint.Proofs.LaidSources

/-! Every finding is anchored at bytes of its own, inside the call that reports it. -/
namespace PoolLint.Scan
open PoolLint.Syntax Lowering

def range (d : Diagnostic) : Nat × Nat := (d.location.startByte, d.location.endByte)

/-- A finding covers some of the bytes of a node, but not all of them. -/
structure StrictlyInside (d : Diagnostic) (n : Node) : Prop where
  filled : d.location.startByte < d.location.endByte
  start : n.span.start.byte ≤ d.location.startByte
  stop : d.location.endByte ≤ n.span.stop.byte
  part : n.span.start.byte < d.location.startByte ∨ d.location.endByte < n.span.stop.byte

/-- The findings of a tree are those of its calls, call by call. -/
structure Anchored (config : RuleConfig) (facts : FileFacts) (file : Path) (root : Node)
    (ds : List Diagnostic) : Prop where
  attributed : ds = (Node.ofKind .call root).flatMap (reportedBy config facts file)
  targets : ∀ call ∈ Node.ofKind .call root, ∀ d ∈ reportedBy config facts file call,
    facts.isTarget config.targets (callSiteOf file call).value = true
  distinct : ds.Pairwise fun d e => range d ≠ range e
  inside : ∀ call ∈ Node.ofKind .call root, ∀ d ∈ reportedBy config facts file call,
    StrictlyInside d call
  ordered : ∀ call ∈ Node.ofKind .call root, (reportedBy config facts file call).Pairwise
    fun d e => d.location.startByte < e.location.startByte ∧
      d.location.endByte ≤ e.location.startByte

/-- The calls of a tree with their places, as the scan meets them. -/
def placedCalls (root : Node) : List (List Nat × Node) := root.placed.filter (·.2.kind == .call)

theorem map_snd_placedCalls (root : Node) : (placedCalls root).map (·.2) = Node.ofKind .call root :=
  (Node.ofKind_eq_placed .call root).symm

theorem mem_placedCalls {root : Node} {p : List Nat × Node} :
    p ∈ placedCalls root ↔ root.nodeAt? p.1 = some p.2 ∧ p.2.kind = .call := by
  rw [placedCalls, List.mem_filter, Node.mem_placed, beq_iff_eq]

theorem mem_ofKind_call {root call : Node} (member : call ∈ Node.ofKind .call root) :
    ∃ place, root.nodeAt? place = some call ∧ call.kind = .call := by
  rw [← map_snd_placedCalls] at member
  obtain ⟨p, listed, rfl⟩ := List.mem_map.mp member
  exact ⟨p.1, mem_placedCalls.mp listed⟩

theorem flatMap_placedCalls (root : Node) (f : Node → List Diagnostic) :
    (Node.ofKind .call root).flatMap f = (placedCalls root).flatMap fun p => f p.2 := by
  rw [← map_snd_placedCalls, List.flatMap_map]

theorem returned_eq {config : RuleConfig} {facts : FileFacts} {file : Path} {root : Node}
    {ds : List Diagnostic}
    (returned : (checkSites config facts (callSites file root).value).result = .ok ds) :
    ds = (Node.ofKind .call root).flatMap (reportedBy config facts file) := by
  refine checkSites_reportedBy ?_
  simpa only [callSites, List.map_map, Function.comp_def] using returned

section Laid

variable {root : Node} (laid : root.LaidOut) {config : RuleConfig} {facts : FileFacts} {file : Path}
include laid

theorem reported_covers {p : List Nat × Node} (met : p ∈ placedCalls root) {d : Diagnostic}
    (member : d ∈ reportedBy config facts file p.2) :
    ∃ way, Covers root d (p.1 ++ way) ∧ holder root (holder root (p.1 ++ way)) = p.1 := by
  obtain ⟨found, kind⟩ := mem_placedCalls.mp met
  obtain ⟨-, way, anchor⟩ := reported_anchor (laid.at_ found) kind member
  exact ⟨way, anchor.covers.under found, anchor.owner found⟩

theorem reported_inside {place : List Nat} {call : Node} (found : root.nodeAt? place = some call)
    (kind : call.kind = .call) {d : Diagnostic} (member : d ∈ reportedBy config facts file call) :
    StrictlyInside d call := by
  have laidCall := laid.at_ found
  obtain ⟨-, way, anchor⟩ := reported_anchor laidCall kind member
  obtain ⟨start, filled, stop, smaller⟩ := anchor.covers.within laidCall
  refine ⟨filled, start, stop, ?_⟩
  unfold Span.size at smaller
  omega

theorem reported_distinct : ((placedCalls root).flatMap fun p =>
    reportedBy config facts file p.2).Pairwise fun d e => range d ≠ range e := by
  rw [List.pairwise_flatMap]
  constructor
  · intro p met
    obtain ⟨found, kind⟩ := mem_placedCalls.mp met
    refine (reported_ordered (laid.at_ found) kind).imp ?_
    intro d e order same
    exact Nat.ne_of_lt order.1 (congrArg Prod.fst same)
  · -- the holders of two values tell which calls report them
    have places : (placedCalls root).Pairwise fun p q => p.1 ≠ q.1 :=
      (List.pairwise_map.mp (Node.nodup_placed root)).filter _
    refine places.imp_of_mem ?_
    intro p q first second differ d member e member'
    obtain ⟨way, covers, owner⟩ := reported_covers laid first member
    obtain ⟨way', covers', owner'⟩ := reported_covers laid second member'
    refine covers.apart laid covers' fun same => differ ?_
    rw [← owner, ← owner', same]

theorem anchored {ds : List Diagnostic}
    (returned : (checkSites config facts (callSites file root).value).result = .ok ds) :
    Anchored config facts file root ds := by
  refine ⟨returned_eq returned, ?_, ?_, ?_, ?_⟩
  · intro call member d reported
    obtain ⟨place, found, kind⟩ := mem_ofKind_call member
    exact (reported_anchor (laid.at_ found) kind reported).1
  · rw [returned_eq returned, flatMap_placedCalls]
    exact reported_distinct laid
  · intro call member d reported
    obtain ⟨place, found, kind⟩ := mem_ofKind_call member
    exact reported_inside laid found kind reported
  · intro call member
    obtain ⟨place, found, kind⟩ := mem_ofKind_call member
    exact reported_ordered (laid.at_ found) kind

end Laid

/-- Whatever the imports and the configuration, findings of a tree that is laid out cover bytes of
their own, each inside its call; and so do those of every text that has a tree. -/
theorem scan_anchors_findings (config : RuleConfig) (file : Path) :
    (∀ root : Node, root.LaidOut → ∀ facts ds,
      (checkSites config facts (callSites file root).value).result = .ok ds →
        Anchored config facts file root ds) ∧
    ∀ cs root ds, Node.ofText? cs = some root → (ofText config file cs).result = .ok ds →
      ∃ fault, Anchored config (FileFacts.of file fault root) file root ds := by
  refine ⟨fun root laid facts ds => anchored laid, ?_⟩
  intro cs root ds parsed returned
  have laid := Node.ofText?_laidOut parsed
  simp only [ofText, parsed] at returned
  split at returned
  · cases returned
  · exact ⟨_, anchored laid (returned_of_ofTree returned)⟩
  · exact ⟨_, anchored laid (returned_of_ofTree returned)⟩

/-- A record in a record, each the pool of a call of `dict`, in the pool of a client. -/
def nestedRecordsText : String :=
  "import jdbc\njdbc.Client(connectionPool=dict(minIdleConnections=-1, connectionPool=dict(maxOpenConnections=0)))\n"

theorem nestedRecordsText_anchored :
    let config : RuleConfig := ⟨["dict", "jdbc.Client"], ["connectionPool"], 5, 4⟩
    let file : Path := ⟨0, ["app.py"]⟩
    ∃ root ds, Node.ofText? nestedRecordsText.toList = some root ∧ root.LaidOut ∧
      (ofText config file nestedRecordsText.toList).result = .ok ds ∧ ds.length = 2 ∧
      (∀ facts ds, (checkSites config facts (callSites file root).value).result = .ok ds →
        Anchored config facts file root ds) ∧
      ∃ fault, Anchored config (FileFacts.of file fault root) file root ds := by
  intro config file
  have read : (Node.ofText? nestedRecordsText.toList).isSome ∧
      (ofText config file nestedRecordsText.toList).result.toOption.any (·.length == 2) := by
    decide +kernel
  obtain ⟨root, parsed⟩ := Option.isSome_iff_exists.mp read.1
  obtain ⟨ds, returned, two⟩ := exists_returned read.2
  have laid := Node.ofText?_laidOut parsed
  obtain ⟨trees, texts⟩ := scan_anchors_findings config file
  exact ⟨root, ds, parsed, laid, returned, beq_iff_eq.mp two, trees root laid,
    texts _ root ds parsed returned⟩

end PoolLint.Scan
