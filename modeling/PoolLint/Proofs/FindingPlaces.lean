import PoolLint.Proofs.ReportedValues

/-! Where findings stand in a tree that is laid out over its text. A finding covers a value that
belongs to one call only, so no two findings cover the same bytes. Those of one call stand one behind
the other inside it; calls are gone through from the outer to the inner ones. -/
namespace PoolLint.Scan
open PoolLint.Syntax Lowering

/-- A finding covers a value of the record that holds the pool of a call; the way leads from the call
to the value. -/
inductive Anchor (call : Node) (d : Diagnostic) : List Nat → Prop
  | intro (way above : List Nat) (k : Nat) (pool entry value : Node) (holds : Part call way pool)
      (setting : Part pool (above ++ [k]) value) (around : pool.nodeAt? above = some entry)
      (isValue : IsValueOf entry value) (startByte : d.location.startByte = value.span.start.byte)
      (endByte : d.location.endByte = value.span.stop.byte) (filled : 0 < value.span.size) :
      Anchor call d (way ++ (above ++ [k]))

theorem finding?_location {file : Path} {field : String × Node} {d : Diagnostic}
    (found : finding? file field = some d) : d.location = location file field.2.span := by
  obtain ⟨key, -, rfl⟩ := Option.map_eq_some_iff.mp found
  rfl

theorem finding?_size_pos {file : Path} {field : String × Node} {d : Diagnostic}
    (laid : field.2.LaidOut) (found : finding? file field = some d) : 0 < field.2.span.size := by
  obtain ⟨key, below, -⟩ := Option.map_eq_some_iff.mp found
  exact below?_size_pos laid below

section Call

variable {call : Node} (laid : call.LaidOut) (kind : call.kind = .call) {config : RuleConfig}
  {facts : FileFacts} {file : Path}
include laid kind

theorem reported_anchor {d : Diagnostic} (member : d ∈ reportedBy config facts file call) :
    facts.isTarget config.targets (callSiteOf file call).value = true ∧
      ∃ way, Anchor call d way := by
  rcases reportedBy_eq config facts file kind with nothing | ⟨target, way, pool, fields, holds, read, all⟩
  · rw [nothing] at member
    cases member
  · rw [all] at member
    obtain ⟨field, listed, found⟩ := List.mem_filterMap.mp member
    obtain ⟨above, k, entry, setting, around, isValue⟩ := field_part read listed
    have laidValue := (laid.at_ holds.nodeAt?).at_ setting.nodeAt?
    have place := finding?_location found
    refine ⟨target, _, .intro way above k pool entry field.2 holds setting around isValue ?_ ?_
      (finding?_size_pos laidValue found)⟩
    · rw [place]
      rfl
    · rw [place]
      rfl

/-- The findings of a call stand one behind the other, and none of them is empty. -/
theorem reported_ordered : (reportedBy config facts file call).Pairwise fun d e =>
    d.location.startByte < e.location.startByte ∧
      d.location.endByte ≤ e.location.startByte := by
  rcases reportedBy_eq config facts file kind with nothing | ⟨-, way, pool, fields, holds, read, all⟩
  · rw [nothing]
    exact .nil
  · have laidPool := laid.at_ holds.nodeAt?
    rw [all]
    refine List.pairwise_filterMap.mpr ((fields_ordered laidPool read).imp_of_mem ?_)
    intro a b first second before d found e found'
    obtain ⟨above, k, entry, setting, -, -⟩ := field_part read first
    have filled := finding?_size_pos (laidPool.at_ setting.nodeAt?) found
    rw [finding?_location found, finding?_location found']
    change a.2.span.start.byte < b.2.span.start.byte ∧ a.2.span.stop.byte ≤ b.2.span.start.byte
    unfold Span.Before at before
    unfold Span.size at filled
    omega

end Call

/-- A finding covers a value that is not empty, at a place with its entry above it. -/
def Covers (root : Node) (d : Diagnostic) (place : List Nat) : Prop :=
  ∃ entry value, place ≠ [] ∧ root.nodeAt? place = some value ∧
    root.nodeAt? place.dropLast = some entry ∧ IsValueOf entry value ∧
    d.location.startByte = value.span.start.byte ∧ d.location.endByte = value.span.stop.byte ∧
    0 < value.span.size

namespace Anchor

variable {root call : Node} {d : Diagnostic} {place way : List Nat}

theorem covers (anchor : Anchor call d way) : Covers call d way := by
  obtain ⟨way, above, k, pool, entry, value, holds, setting, around, isValue, startByte, endByte,
    filled⟩ := anchor
  have up : (way ++ (above ++ [k])).dropLast = way ++ above := by
    rw [← List.append_assoc, List.dropLast_concat]
  refine ⟨entry, value, by simp, ?_, ?_, isValue, startByte, endByte, filled⟩
  · rw [Node.nodeAt?_append, holds.nodeAt?]
    exact setting.nodeAt?
  · rw [up, Node.nodeAt?_append, holds.nodeAt?]
    exact around

/-- The place of a value tells the call: two steps up along the holders. -/
theorem owner (anchor : Anchor call d way) (found : root.nodeAt? place = some call) :
    holder root (holder root (place ++ way)) = place := by
  obtain ⟨way, above, k, pool, entry, value, holds, setting⟩ := anchor
  have reached : root.nodeAt? (place ++ way) = some pool := by
    rw [Node.nodeAt?_append, found]
    exact holds.nodeAt?
  rw [← List.append_assoc, setting.holder_eq reached, holds.holder_eq found]

end Anchor

namespace Covers

variable {root : Node} {d e : Diagnostic} {place place' : List Nat}

/-- What covers a value below a node covers it below the whole tree. -/
theorem under {call : Node} {way : List Nat} (covers : Covers call d way)
    (found : root.nodeAt? place = some call) : Covers root d (place ++ way) := by
  obtain ⟨entry, value, nonempty, reached, around, rest⟩ := covers
  refine ⟨entry, value, by simp [nonempty], ?_, ?_, rest⟩
  · rw [Node.nodeAt?_append, found]
    exact reached
  · rw [List.dropLast_append_of_ne_nil nonempty, Node.nodeAt?_append, found]
    exact around

theorem within (covers : Covers root d place) (laid : root.LaidOut) :
    root.span.start.byte ≤ d.location.startByte ∧ d.location.startByte < d.location.endByte ∧
      d.location.endByte ≤ root.span.stop.byte ∧
      d.location.endByte - d.location.startByte < root.span.size := by
  obtain ⟨entry, value, -, reached, around, isValue, startByte, endByte, filled⟩ := covers
  have inside := laid.within reached
  have outside := (laid.within around).size_le
  have shorter := (isValueOf_within (laid.at_ around) isValue).2
  rw [startByte, endByte]
  unfold Span.Within at inside
  unfold Span.size at *
  omega

/-- A value inside another one is shorter, since its entry lies between them. -/
theorem shorter (laid : root.LaidOut) {rest : List Nat} (inside : rest ≠ [])
    (outer : Covers root d place) (inner : Covers root e (place ++ rest)) :
    e.location.endByte - e.location.startByte < d.location.endByte - d.location.startByte := by
  obtain ⟨-, value, -, reached, -, -, startByte, endByte, -⟩ := outer
  obtain ⟨entry, value', -, -, around, isValue, startByte', endByte', -⟩ := inner
  rw [List.dropLast_append_of_ne_nil inside, Node.nodeAt?_append, reached] at around
  have wide := ((laid.at_ reached).within around).size_le
  have narrow := (isValueOf_within ((laid.at_ reached).at_ around) isValue).2
  rw [startByte, endByte, startByte', endByte']
  unfold Span.size at wide narrow
  omega

/-- Findings at different places do not cover the same bytes. -/
theorem apart (laid : root.LaidOut) (first : Covers root d place) (second : Covers root e place')
    (differ : place ≠ place') :
    (d.location.startByte, d.location.endByte) ≠ (e.location.startByte, e.location.endByte) := by
  intro same
  obtain ⟨starts, stops⟩ := Prod.mk.inj same
  obtain ⟨-, value, -, reached, -, -, startByte, endByte, filled⟩ := id first
  obtain ⟨-, value', -, reached', -, -, startByte', endByte', filled'⟩ := id second
  unfold Span.size at filled filled'
  rcases laid.precedes_or reached reached' differ with
    (⟨rest, inside, below⟩ | before) | ⟨rest, inside, below⟩ | before
  · dsimp only at below
    rw [below] at second
    have less := shorter laid inside first second
    omega
  · unfold Span.Before at before
    dsimp only at before
    omega
  · dsimp only at below
    rw [below] at first
    have less := shorter laid inside second first
    omega
  · unfold Span.Before at before
    dsimp only at before
    omega

end Covers

end PoolLint.Scan
