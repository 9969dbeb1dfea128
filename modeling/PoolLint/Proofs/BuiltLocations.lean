import PoolLint.Proofs.AnchoredFindings
import PoolLint.Proofs.DumpedModels

/-! The locations that are made while a source is scanned. Every location in a call site is the place
of a node of the tree, so the checks of locations accept it if no node stops on a line before its
first one. Whatever is told of a violation, a location that is accepted is made for it, and what fits
of the numbers that are told is kept. -/
namespace PoolLint

namespace Syntax.Node

/-- No node of a tree stops on a line before the one that it starts on. -/
def RowsInOrder (n : Node) : Prop :=
  ∀ place m, n.nodeAt? place = some m → m.span.start.row ≤ m.span.stop.row

theorem rowsInOrder_iff (n : Node) :
    n.RowsInOrder ↔ ∀ p ∈ n.placed, p.2.span.start.row ≤ p.2.span.stop.row := by
  constructor
  · intro rows p member
    exact rows p.1 p.2 ((mem_placed n p.1 p.2).mp member)
  · intro rows place m found
    exact rows (place, m) ((mem_placed n place m).mpr found)

instance (n : Node) : Decidable n.RowsInOrder := decidable_of_iff' _ n.rowsInOrder_iff

end Syntax.Node

namespace Lowering
open PoolLint.Syntax

def IsPlaceIn (file : Path) (n : Node) (l : Location) : Prop :=
  ∃ place m, n.nodeAt? place = some m ∧ l = location file m.span

def ArePlacesIn (file : Path) (ns : List Node) (places : List Location) : Prop :=
  ∀ l ∈ places, ∃ n ∈ ns, IsPlaceIn file n l

section Places

variable {file : Path} {n m : Node} {l : Location}

theorem isPlaceIn_here (file : Path) (n : Node) : IsPlaceIn file n (location file n.span) :=
  ⟨[], n, rfl, rfl⟩

namespace IsPlaceIn

theorem at_ {place : List Nat} (found : n.nodeAt? place = some m) (inside : IsPlaceIn file m l) :
    IsPlaceIn file n l := by
  obtain ⟨rest, k, below, rfl⟩ := inside
  refine ⟨place ++ rest, k, ?_, rfl⟩
  rw [Node.nodeAt?_append, found]
  exact below

theorem child (member : m ∈ n.children) (inside : IsPlaceIn file m l) : IsPlaceIn file n l := by
  obtain ⟨_, reached⟩ := Node.nodeAt?_of_mem member
  exact inside.at_ reached

theorem file_eq (inside : IsPlaceIn file n l) : l.file = file := by
  obtain ⟨_, _, _, rfl⟩ := inside
  rfl

theorem valid (rows : n.RowsInOrder) (inside : IsPlaceIn file n l) : l.Valid := by
  obtain ⟨place, m, found, rfl⟩ := inside
  have forward := rows place m found
  exact ⟨Nat.le_add_left .., Nat.le_add_left .., Nat.le_add_left .., Nat.le_add_left ..,
    Nat.add_le_add_right forward 1⟩

end IsPlaceIn

namespace ArePlacesIn

variable {ns : List Node} {places others : List Location} {kind : Kind} {role : Role}
  {text : String} {span : Span}

theorem nil : ArePlacesIn file ns [] := nofun

theorem append (first : ArePlacesIn file ns places) (second : ArePlacesIn file ns others) :
    ArePlacesIn file ns (places ++ others) := List.forall_mem_append.mpr ⟨first, second⟩

/-- A spread entry is its own value, so its place comes twice. -/
theorem again (known : ArePlacesIn file ns (l :: places)) :
    ArePlacesIn file ns (l :: l :: places) :=
  List.forall_mem_cons.mpr ⟨known l List.mem_cons_self, known⟩

theorem first (ns : List Node) (known : ArePlacesIn file [n] places) :
    ArePlacesIn file (n :: ns) places := by
  intro l listed
  obtain ⟨m, member, inside⟩ := known l listed
  exact ⟨m, List.mem_cons.mpr (.inl (List.mem_singleton.mp member)), inside⟩

theorem behind (n : Node) (known : ArePlacesIn file ns places) :
    ArePlacesIn file (n :: ns) places := by
  intro l listed
  obtain ⟨m, member, inside⟩ := known l listed
  exact ⟨m, List.mem_cons_of_mem n member, inside⟩

/-- Places below the parts of a node are places below the node. -/
theorem above (parts : ArePlacesIn file ns places) :
    ArePlacesIn file [.mk kind role text span ns] places := by
  intro l listed
  obtain ⟨m, member, inside⟩ := parts l listed
  exact ⟨_, List.mem_singleton_self _, inside.child member⟩

theorem around (parts : ArePlacesIn file ns places) :
    ArePlacesIn file [.mk kind role text span ns] (location file span :: places) :=
  List.forall_mem_cons.mpr ⟨⟨_, List.mem_singleton_self _, isPlaceIn_here file _⟩, parts.above⟩

end ArePlacesIn

end Places

/-- Whatever is read from a row of nodes, the locations in it are places below the row. -/
structure GivesPlaces (file : Path) (ns : List Node) : Prop where
  value : ∀ role e, valueIn file role ns = some e → ArePlacesIn file ns e.value.places
  record : ArePlacesIn file ns (Field.placesIn (recordFields file ns).value)
  entries : ArePlacesIn file ns (Field.placesIn (dictEntries file ns).fields)
  dict : ∀ read, dictFields file ns = some read → ArePlacesIn file ns (Field.placesIn read.fields)

namespace GivesPlaces

section Node

-- one reader after the other, given what is known of the parts of its node
variable {file : Path} {kind : Kind} {role : Role} {text : String} {span : Span}
  {children : List Node} (parts : GivesPlaces file children)
include parts

theorem exprOf : ArePlacesIn file [.mk kind role text span children]
    (exprOf file (.mk kind role text span children)).value.places := by
  have alone : ArePlacesIn file [.mk kind role text span children] [location file span] :=
    ArePlacesIn.nil.around
  simp only [Lowering.exprOf]
  split
  · exact alone
  · split
    · -- a signed expression
      split
      · rename_i operand found
        exact (parts.value _ _ found).around
      · exact alone
    · exact parts.record.around
    · -- a call, which may be a record
      split
      · split
        · exact alone
        · rename_i read found
          split
          · exact (parts.dict _ found).around
          · exact alone
      · exact alone
    · exact alone

theorem recordField? {field : Noted Field}
    (made : recordField? file (.mk kind role text span children) = some field) :
    ArePlacesIn file [.mk kind role text span children] field.value.places := by
  simp only [Lowering.recordField?] at made
  split at made
  · split at made
    · rename_i key value _ found
      cases made
      exact (parts.value _ _ found).around
    · cases made
  · cases made
    exact ArePlacesIn.nil.around.again
  · cases made

theorem dictField? {field : Noted Field}
    (made : dictField? file (.mk kind role text span children) = some field) :
    ArePlacesIn file [.mk kind role text span children] field.value.places := by
  simp only [Lowering.dictField?] at made
  split at made
  · split at made
    · rename_i name value _ found
      cases made
      exact (parts.value _ _ found).around
    · cases made
  · cases made
    exact ArePlacesIn.nil.around.again
  · cases made

theorem argumentFields? {read : DictEntries}
    (made : argumentFields? file (.mk kind role text span children) = some read) :
    ArePlacesIn file [.mk kind role text span children] (Field.placesIn read.fields) := by
  simp only [Lowering.argumentFields?] at made
  split at made
  · cases made
    exact parts.entries.above
  · cases made

end Node

theorem cons {file : Path} {kind : Kind} {role : Role} {text : String} {span : Span}
    {children ns : List Node} (parts : GivesPlaces file children) (rest : GivesPlaces file ns) :
    GivesPlaces file (.mk kind role text span children :: ns) where
  value wanted e found := by
    simp only [valueIn] at found
    split at found
    · cases found
      exact parts.exprOf.first ns
    · exact (rest.value _ _ found).behind _
  record := by
    simp only [recordFields]
    split
    · exact rest.record.behind _
    · rename_i field made
      exact ((parts.recordField? made).first ns).append (rest.record.behind _)
  entries := by
    simp only [dictEntries]
    split
    · exact rest.entries.behind _
    · split
      · split
        · exact rest.entries.behind _
        · rename_i field made
          exact ((parts.dictField? made).first ns).append (rest.entries.behind _)
      · exact .nil
  dict read found := by
    simp only [dictFields] at found
    split at found
    · exact (parts.argumentFields? found).first ns
    · exact (rest.dict _ found).behind _

end GivesPlaces

theorem givesPlaces (file : Path) : ∀ ns, GivesPlaces file ns
  | [] => ⟨nofun, nofun, nofun, nofun⟩
  | .mk _ _ _ _ children :: rest => .cons (givesPlaces file children) (givesPlaces file rest)

theorem exprOf_places (file : Path) (n : Node) :
    ∀ l ∈ (exprOf file n).value.places, IsPlaceIn file n l := by
  obtain ⟨kind, role, text, span, children⟩ := n
  intro l listed
  obtain ⟨m, member, inside⟩ := (givesPlaces file children).exprOf l listed
  rwa [List.mem_singleton.mp member] at inside

section Sites

variable {file : Path} {l : Location}

theorem callSiteOf_places {call : Node} (kind : call.kind = .call)
    (listed : l ∈ (callSiteOf file call).value.places) : IsPlaceIn file call l := by
  rcases List.mem_cons.mp listed with rfl | listed
  · exact isPlaceIn_here file call
  · obtain ⟨a, member, listed⟩ := List.mem_flatMap.mp listed
    obtain ⟨way, value, part, read⟩ := Scan.argument_part file kind member
    rw [Argument.places, read] at listed
    exact (exprOf_places file value l listed).at_ part.nodeAt?

theorem callSites_places {root : Node} {site : CallSite}
    (member : site ∈ (callSites file root).value) (listed : l ∈ site.places) :
    IsPlaceIn file root l := by
  obtain ⟨noted, made, rfl⟩ := List.mem_map.mp member
  obtain ⟨call, isCall, rfl⟩ := List.mem_map.mp made
  obtain ⟨place, found, kind⟩ := Scan.mem_ofKind_call isCall
  exact (callSiteOf_places kind listed).at_ found

end Sites

end Lowering

namespace FileFacts

/-- A location keeps the numbers that are told of a violation, as far as they fit. -/
structure Keeps (v : Violation) (l : Location) : Prop where
  line : ∀ n ∈ v.line, 1 ≤ n → l.lineStart = n
  column : ∀ n ∈ v.column, 1 ≤ n → l.columnStart = n
  lineEnd : ∀ n ∈ v.lineEnd, l.lineStart ≤ n → l.lineEnd = n
  columnEnd : ∀ n ∈ v.columnEnd, 1 ≤ n → l.columnEnd = n

/-- The fields that the location of a violation is made of. Its bytes are left out. -/
def fieldsOf (file : Path) (v : Violation) : Json :=
  .object [("file_path", .string file.text), ("line_start", .integer (lineOf v)),
    ("column_start", .integer (columnOf v)), ("line_end", .integer (lineEndOf v)),
    ("column_end", .integer (columnEndOf v))]

theorem toldOr_some {other n : Int} (told : n ≠ 0) : toldOr other (some n) = n := by
  simp [toldOr, Option.filter, told]

variable (v : Violation)

theorem one_le_lineOf : 1 ≤ lineOf v := by
  unfold lineOf
  cases v.line with
  | none => decide
  | some line =>
    rcases Nat.eq_zero_or_pos line with rfl | positive
    · decide
    · rw [Option.map_some, toldOr_some (by simp; omega)]
      exact Int.ofNat_le.mpr positive

theorem one_le_columnOf : 1 ≤ columnOf v := Int.le_max_right _ 1

theorem lineOf_le_lineEndOf : lineOf v ≤ lineEndOf v := Int.le_max_right _ (lineOf v)

theorem one_le_columnEndOf : 1 ≤ columnEndOf v := Int.le_max_right _ 1

theorem locationOf_keeps (file : Path) : Keeps v (locationOf file v) where
  line n told fits := by
    have line : lineOf v = n := by
      rw [lineOf, Option.mem_def.mp told, Option.map_some, toldOr_some (by simp; omega)]
      rfl
    show (lineOf v).toNat = n
    rw [line]
    rfl
  column n told fits := by
    have column : columnOf v = n := by
      rw [columnOf, Option.mem_def.mp told, toldOr_some (by omega)]
      exact Int.max_eq_left fits
    show ((columnOf v).toNat : Int) = n
    omega
  lineEnd n told fits := by
    have start := one_le_lineOf v
    have behind : lineOf v ≤ n := Int.le_trans (Int.self_le_toNat _) fits
    have lineEnd : lineEndOf v = n := by
      rw [lineEndOf, Option.mem_def.mp told, toldOr_some (by omega)]
      exact Int.max_eq_left behind
    show ((lineEndOf v).toNat : Int) = n
    omega
  columnEnd n told fits := by
    have columnEnd : columnEndOf v = n := by
      rw [columnEndOf, Option.mem_def.mp told, toldOr_some (by omega)]
      exact Int.max_eq_left fits
    show ((columnEndOf v).toNat : Int) = n
    omega

end FileFacts

namespace Schema

/-- The fields that are made up for a violation are accepted, whatever is told of it. -/
theorem location_fieldsOf {file : Path} (normal : file.IsNormal) (v : Violation) :
    location (FileFacts.fieldsOf file v) = .ok (FileFacts.locationOf file v) := by
  have lineStart := FileFacts.one_le_lineOf v
  have rows := FileFacts.lineOf_le_lineEndOf v
  have lineEnd : 1 ≤ FileFacts.lineEndOf v := Int.le_trans lineStart rows
  refine location_ok.mpr ⟨locationFields_ok.mpr ⟨?_, ?_, ?_, ?_, ?_, ?_, ?_⟩, ?_⟩
  · exact required_ok.mpr ⟨_, rfl, congrArg Except.ok (Path.parse_text normal)⟩
  · exact required_ok.mpr ⟨_, rfl, natural_ofInt lineStart⟩
  · exact required_ok.mpr ⟨_, rfl, natural_ofInt (FileFacts.one_le_columnOf v)⟩
  · exact required_ok.mpr ⟨_, rfl, natural_ofInt lineEnd⟩
  · exact required_ok.mpr ⟨_, rfl, natural_ofInt (FileFacts.one_le_columnEndOf v)⟩
  · exact optional_ok.mpr (.inr ⟨rfl, rfl⟩)
  · exact optional_ok.mpr (.inr ⟨rfl, rfl⟩)
  · exact Int.toNat_le_toNat rows

/-- Every location in the call sites of a tree is the place of a node of the tree, and it is accepted
if no node stops on a line before its first one. Whatever is told of a violation, a location is
accepted for it, and that is where its file is shown to have a syntax error. -/
theorem built_locations_accepted (name : String) :
    (∀ root : Syntax.Node, root.RowsInOrder →
      ∀ site ∈ (Lowering.callSites (.parse name) root).value, ∀ l ∈ site.places,
        Lowering.IsPlaceIn (.parse name) root l ∧ location l.toJson = .ok l) ∧
    ∀ v : Violation, ∃ l, location (FileFacts.fieldsOf (.parse name) v) = .ok l ∧
      FileFacts.Keeps v l ∧
      ∀ root, (FileFacts.of (.parse name) (some v) root).diagnostics = [.of .invalidSyntax l] := by
  have normal := Path.parse_isNormal name
  constructor
  · intro root rows site member l listed
    have place := Lowering.callSites_places member listed
    have file : l.file.IsNormal := by
      rw [place.file_eq]
      exact normal
    exact ⟨place, location_toJson ⟨place.valid rows, file⟩⟩
  · intro v
    exact ⟨_, location_fieldsOf normal v, FileFacts.locationOf_keeps v _, fun root => rfl⟩

/-- A call over two lines, with a signed value and records of both spellings in each other. -/
def twoLineText : String := "f(-1, a=\x7b'b': dict(c=(\n  2), **d)\x7d)\n"

/-- The first and the last line of each location in the call. -/
def twoLineRows : List (Nat × Nat) :=
  [(1, 2), (1, 1), (1, 1), (1, 2), (1, 2), (1, 2), (1, 2), (1, 2), (2, 2), (2, 2)]

theorem twoLineText_accepted : ∃ root, Syntax.Node.ofText? twoLineText.toList = some root ∧
    root.RowsInOrder ∧ ∃ site ∈ (Lowering.callSites (.parse "app.py") root).value,
      site.places.map (fun l => (l.lineStart, l.lineEnd)) = twoLineRows ∧
      ∀ l ∈ site.places, location l.toJson = .ok l := by
  have read : (Syntax.Node.ofText? twoLineText.toList).any (fun root => root.RowsInOrder &&
      (Lowering.callSites (.parse "app.py") root).value.any fun site =>
        site.places.map (fun l => (l.lineStart, l.lineEnd)) == twoLineRows) := by
    decide +kernel
  obtain ⟨root, parsed, holds⟩ := (Option.any_eq_true _ _).mp read
  obtain ⟨rows, called⟩ := Bool.and_eq_true_iff.mp holds
  obtain ⟨site, member, places⟩ := List.any_eq_true.mp called
  have inOrder := of_decide_eq_true rows
  refine ⟨root, parsed, inOrder, site, member, beq_iff_eq.mp places, fun l listed => ?_⟩
  exact ((built_locations_accepted "app.py").1 root inOrder site member l listed).2

end Schema
end PoolLint
