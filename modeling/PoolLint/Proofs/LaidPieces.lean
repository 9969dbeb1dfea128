import PoolLint.Proofs.LaidTokens
import PoolLint.Syntax.Piece

/-! Pieces that fill a stretch of a text, and what is built of them. -/
namespace PoolLint.Syntax

namespace Node

/-- Kinds of nodes that stand around a value and have to be longer than it. -/
def holdsValue (kind : Kind) : Bool := kind == .pair || kind == .keywordArgument

variable {n : Node}

theorem holdsValue_eq_false {kind : Kind} (plain : holdsValue kind = false) :
    ¬ (kind = .pair ∨ kind = .keywordArgument) := by
  simpa [holdsValue] using plain

@[simp] theorem span_withRole (role : Role) : (n.withRole role).span = n.span := by
  cases n
  rfl

theorem LaidOut.withRole (laid : n.LaidOut) (role : Role) : (n.withRole role).LaidOut := by
  obtain ⟨kind, old, text, span, children⟩ := n
  have here := laid.here
  exact laidOut_of_children ⟨here.size, here.inside, here.ordered, here.longer⟩
    fun m member => laid.child member

theorem LaidOut.withKind (laid : n.LaidOut) {kind : Kind} (plain : holdsValue kind = false) :
    (n.withKind kind).LaidOut := by
  obtain ⟨old, role, text, span, children⟩ := n
  have here := laid.here
  exact laidOut_of_children ⟨here.size, here.inside, here.ordered,
    fun holds => absurd holds (holdsValue_eq_false plain)⟩ fun m member => laid.child member

end Node

namespace Piece

/-- A piece fills the bytes between two places, its layout first. -/
structure Lies (p : Piece) (a b : Nat) : Prop where
  layout : a + p.layout.utf8ByteSize = p.node.span.start.byte
  extras : Strip a p.extras p.node.span.start.byte
  laid : p.node.LaidOut
  stop : p.node.span.stop.byte = b

/-- Pieces that fill the bytes between two places, one behind the other. -/
inductive Row : Nat → List Piece → Nat → Prop
  | nil {a : Nat} : Row a [] a
  | cons {a b c : Nat} {p : Piece} {ps : List Piece} (first : p.Lies a b) (rest : Row b ps c) :
      Row a (p :: ps) c

/-- A piece and what stands in front of it, as children. -/
def nodes (ps : List Piece) : List Node := ps.flatMap fun p => p.extras ++ [p.node]

namespace Row

variable {a b c : Nat} {p : Piece} {ps qs : List Piece}

theorem append (first : Row a ps b) (second : Row b qs c) : Row a (ps ++ qs) c := by
  induction first with
  | nil => exact second
  | cons here _ ih => exact .cons here (ih second)

theorem single (here : p.Lies a b) : Row a [p] b := .cons here .nil

/-- A row that is put together from its end. -/
theorem push (row : Row a ps.reverse b) (next : p.Lies b c) : Row a (p :: ps).reverse c := by
  rw [List.reverse_cons]
  exact row.append (single next)

theorem strip (row : Row a ps b) : Strip a (nodes ps) b := by
  induction row with
  | nil => exact .nil (Nat.le_refl _)
  | cons first rest ih =>
    have here := first.extras.append (Strip.single first.laid)
    rw [first.stop] at here
    exact here.append ih

theorem textBehind (row : Row a ps b) : a + (textBehind ps).utf8ByteSize = b := by
  have further (text : String) :
      a + (ps.foldl (fun text p => text ++ p.layout ++ p.node.text) text).utf8ByteSize =
        b + text.utf8ByteSize := by
    induction row generalizing text with
    | nil => rfl
    | @cons a b c p ps first rest ih =>
      have step := ih (text ++ p.layout ++ p.node.text)
      have layout := first.layout
      have size := first.laid.here.size
      have stop := first.stop
      simp only [String.utf8ByteSize_append] at step
      rw [List.foldl_cons]
      omega
  have whole := further ""
  rwa [String.utf8ByteSize_empty] at whole

theorem last (row : Row b ps c) (first : p.Lies a b) :
    (ps.getLast?.getD p).node.span.stop.byte = c := by
  induction row generalizing p a with
  | nil => exact first.stop
  | @cons b c d q qs here rest ih =>
    rw [List.getLast?_cons, Option.getD_some]
    exact ih here

end Row

namespace Lies

variable {a b c d : Nat} {p q : Piece} {ps : List Piece} {t : Token}

theorem le (lies : p.Lies a b) : a ≤ b := by
  have layout := lies.layout
  have start := lies.laid.here.start_le
  have stop := lies.stop
  omega

theorem as (lies : p.Lies a b) (role : Role) : (p.as role).Lies a b := by
  refine ⟨?_, ?_, lies.laid.withRole role, ?_⟩
  · rw [Piece.as, Node.span_withRole]
    exact lies.layout
  · rw [Piece.as, Node.span_withRole]
    exact lies.extras
  · rw [Piece.as, Node.span_withRole]
    exact lies.stop

theorem ofToken (stands : t.Stands a) (kind : Kind) :
    (Piece.ofToken t kind).Lies a t.span.stop.byte := by
  have size := stands.text
  refine ⟨stands.layout, stands.extras, ?_, rfl⟩
  refine Node.laidOut_mk size (.nil (by omega)) ?_
  intro _ value none
  cases none

theorem empty (kind : Kind) (place : Position) :
    (Piece.empty kind place).Lies place.byte place.byte := by
  refine ⟨rfl, .nil (Nat.le_refl _), ?_, rfl⟩
  refine Node.laidOut_mk rfl (.nil (Nat.le_refl _)) ?_
  intro _ value none
  cases none

/-- A construct of pieces fills what they fill, if it is longer than a value it stands around. -/
theorem build_of_longer {kind : Kind} (first : p.Lies a b) (row : Row b ps c)
    (longer : kind = .pair ∨ kind = .keywordArgument →
      ∀ value ∈ (p.node :: nodes ps).find? (·.role == .value),
        value.span.size < c - p.node.span.start.byte) : (build kind p ps).Lies a c := by
  have stop := row.last first
  have text := row.textBehind
  have size := first.laid.here.size
  have place := first.stop
  refine ⟨first.layout, first.extras, Node.laidOut_mk ?_ ?_ ?_, stop⟩
  · dsimp only
    rw [stop, String.utf8ByteSize_append]
    omega
  · dsimp only
    rw [stop]
    have here := Strip.single first.laid
    rw [place] at here
    exact here.append row.strip
  · unfold Span.size
    dsimp only
    rw [stop]
    exact longer

theorem build {kind : Kind} (plain : Node.holdsValue kind = false) (first : p.Lies a b)
    (row : Row b ps c) : (build kind p ps).Lies a c :=
  build_of_longer first row fun holds => absurd holds (Node.holdsValue_eq_false plain)

/-- A key or a name, a mark that is not empty, and a value: their construct is longer than the
value. -/
theorem buildValue (kind : Kind) {role : Role} (other : role ≠ .value) (first : p.Lies a b)
    (stands : t.Stands b) (filled : 0 < t.text.utf8ByteSize) (value : q.Lies t.span.stop.byte c) :
    (Piece.build kind (p.as role) [Piece.ofToken t .mark, q.as .value]).Lies a c := by
  have row : Row b [Piece.ofToken t .mark, q.as .value] c :=
    .cons (ofToken stands .mark) (.single (value.as .value))
  refine build_of_longer (first.as role) row ?_
  intro _ found isFound
  have member := List.mem_of_find?_eq_some isFound
  have isValue := List.find?_some isFound
  rw [beq_iff_eq] at isValue
  have start : (p.as role).node.span.start.byte ≤ b := by
    rw [← first.stop, Piece.as, Node.span_withRole]
    exact first.laid.here.start_le
  have textSize := stands.text
  have layout := stands.layout
  have reach := value.le
  rcases List.mem_cons.mp member with rfl | member
  · -- the key has another role
    obtain ⟨layoutText, extras, kind', old, text, span, children⟩ := p
    exact absurd isValue other
  · simp only [nodes, List.flatMap_cons, List.flatMap_nil, List.append_nil, List.mem_append,
      List.mem_singleton] at member
    rcases member with (extra | rfl) | behind
    · obtain ⟨low, high⟩ := stands.extras.inside found extra
      unfold Span.size
      omega
    · cases isValue
    · have within : t.span.stop.byte ≤ found.span.start.byte ∧ found.span.stop.byte ≤ c := by
        refine (Row.single (value.as .value)).strip.inside found ?_
        simpa [nodes] using behind
      unfold Span.size
      omega

end Lies

namespace Row

variable {a b : Nat} {ps : List Piece}

theorem ofParts {kind : Kind} (plain : Node.holdsValue kind = false) (some_ : ps ≠ [])
    (row : Row a ps b) : (Piece.ofParts kind ps).Lies a b := by
  cases row with
  | nil => exact absurd rfl some_
  | cons first rest => exact first.build plain rest

theorem split {c : Nat} {qs : List Piece} (row : Row a (ps ++ qs) c) :
    ∃ b, Row a ps b ∧ Row b qs c := by
  induction ps generalizing a with
  | nil => exact ⟨a, .nil, row⟩
  | cons p ps ih =>
    cases row with
    | cons first rest =>
      obtain ⟨b, before, behind⟩ := ih rest
      exact ⟨b, .cons first before, behind⟩

/-- Pieces are joined to the one behind them, the last one first. -/
theorem foldl {join : Piece → Piece → Piece}
    (joins : ∀ {a b c value p}, Lies p a b → Lies value b c → (join value p).Lies a c)
    {value : Piece} {c : Nat} (row : Row a ps.reverse b) (lies : value.Lies b c) :
    (ps.foldl join value).Lies a c := by
  induction ps generalizing value b with
  | nil =>
    cases row
    exact lies
  | cons p ps ih =>
    rw [List.reverse_cons] at row
    obtain ⟨d, before, here⟩ := row.split
    cases here with
    | cons here rest =>
      cases rest
      exact ih before (joins here lies)

theorem whole_or_parts {kind : Kind} (plain : Node.holdsValue kind = false) (some_ : ps ≠ [])
    (row : Row a ps b) : (match ps with
      | [p] => p
      | parts => Piece.ofParts kind parts).Lies a b := by
  split
  · cases row with
    | cons first rest =>
      cases rest
      exact first
  · exact row.ofParts plain some_

end Row

end Piece
end PoolLint.Syntax
