import PoolLint.Proofs.PathSpelling
import PoolLint.Proofs.Signature
import PoolLint.Schema.Dump
import PoolLint.Schema.Model

/-! Values and the documents that describe them. What a document is accepted as holds only locations
that are in order, and the document that such a value is written out as is accepted as the value
again. The two together say that reading a document and writing out what was read loses nothing but
what the value does not have. -/
namespace PoolLint

mutual

/-- The locations in an expression, its own first. -/
def Expr.places : Expr → List Location
  | .literal _ _ place | .other _ _ place => [place]
  | .unary _ operand _ place => place :: operand.places
  | .record fields _ place => place :: Field.placesIn fields

def Field.places : Field → List Location
  | .mk _ value place => place :: value.places

def Field.placesIn : List Field → List Location
  | [] => []
  | f :: fs => f.places ++ Field.placesIn fs

end

def Argument.places (a : Argument) : List Location := a.value.places

def CallSite.places (c : CallSite) : List Location :=
  c.location :: c.arguments.flatMap Argument.places

def Diagnostic.places (d : Diagnostic) : List Location := [d.location]

/-- A location that can be made: its numbers are in order and its path is in normal form. -/
structure Location.InOrder (l : Location) : Prop extends l.Valid where
  file : l.file.IsNormal

namespace Schema

def InOrder (places : List Location) : Prop := ∀ l ∈ places, l.InOrder

theorem required_ok {α : Type} {name : String} {check : Json → Check α}
    {members : List (String × Json)} {a : α} : required name check members = .ok a ↔
      ∃ j, Json.member? name members = some j ∧ check j = .ok a := by
  unfold required
  cases Json.member? name members <;> simp [Check.under_ok, Check.fail]

theorem natural_ofInt {minimum : Nat} {n : Int} (above : minimum ≤ n) :
    natural minimum (.integer n) = .ok n.toNat := by
  simp [natural, integer, above]

theorem natural_integer {minimum n : Nat} (above : minimum ≤ n) :
    natural minimum (.integer n) = .ok n := natural_ofInt (Int.ofNat_le.mpr above)

theorem ordered_ok {l m : Location} : ordered l = .ok m ↔ l = m ∧ m.lineStart ≤ m.lineEnd := by
  unfold ordered
  split
  · simp only [Check.fail, reduceCtorEq, false_iff, not_and]
    rintro rfl
    omega
  · simp only [Except.ok.injEq]
    constructor
    · rintro rfl
      exact ⟨rfl, by omega⟩
    · exact And.left

theorem locationFields_ok {members : List (String × Json)} {l : Location} :
    locationFields members = .ok l ↔ required "file_path" path members = .ok l.file ∧
      required "line_start" (natural 1) members = .ok l.lineStart ∧
      required "column_start" (natural 1) members = .ok l.columnStart ∧
      required "line_end" (natural 1) members = .ok l.lineEnd ∧
      required "column_end" (natural 1) members = .ok l.columnEnd ∧
      optional "start_byte" 0 (natural 0) members = .ok l.startByte ∧
      optional "end_byte" 0 (natural 0) members = .ok l.endByte := by
  obtain ⟨file, lineStart, columnStart, lineEnd, columnEnd, startByte, endByte⟩ := l
  simp only [locationFields, Check.map_ok, Check.both_ok, Prod.exists, Location.mk.injEq]
  constructor
  · rintro ⟨_, _, _, _, _, _, _, read, rfl, rfl, rfl, rfl, rfl, rfl, rfl⟩
    exact read
  · intro read
    exact ⟨_, _, _, _, _, _, _, read, rfl, rfl, rfl, rfl, rfl, rfl, rfl⟩

theorem location_ok {members : List (String × Json)} {l : Location} :
    location (.object members) = .ok l ↔
      locationFields members = .ok l ∧ l.lineStart ≤ l.lineEnd := by
  have stages : location (.object members) = locationFields members >>= ordered := rfl
  rw [stages]
  cases locationFields members with
  | error problems => simp [bind, Except.bind]
  | ok m => simp [bind, Except.bind, ordered_ok]

theorem location_toJson {l : Location} (inOrder : l.InOrder) : location l.toJson = .ok l := by
  obtain ⟨⟨lineStart, columnStart, lineEnd, columnEnd, ordered⟩, file⟩ := inOrder
  refine location_ok.mpr ⟨locationFields_ok.mpr ⟨?_, ?_, ?_, ?_, ?_, ?_, ?_⟩, ordered⟩
  · exact required_ok.mpr ⟨_, rfl, congrArg Except.ok (Path.parse_text file)⟩
  · exact required_ok.mpr ⟨_, rfl, natural_integer lineStart⟩
  · exact required_ok.mpr ⟨_, rfl, natural_integer columnStart⟩
  · exact required_ok.mpr ⟨_, rfl, natural_integer lineEnd⟩
  · exact required_ok.mpr ⟨_, rfl, natural_integer columnEnd⟩
  · exact optional_ok.mpr (.inl ⟨_, rfl, natural_integer (Nat.zero_le _)⟩)
  · exact optional_ok.mpr (.inl ⟨_, rfl, natural_integer (Nat.zero_le _)⟩)

theorem word_ok {α : Type} {ofName? : String → Option α} {s : String} {a : α} :
    word ofName? (.string s) = .ok a ↔ ofName? s = some a := by
  simp only [word]
  cases ofName? s <;> simp [Check.fail]

theorem exprMember_eq (opened : Nat) (name : String) (members : List (String × Json)) :
    exprMember opened name members = (Json.member? name members).map (exprAt opened) := by
  induction members with
  | nil => rfl
  | cons m ms ih =>
    obtain ⟨n, j⟩ := m
    rw [exprMember, ih, Json.member?_cons]
    cases Json.member? name ms with
    | some found => rfl
    | none => cases same : n == name <;> simp [exprPair, same]

theorem fieldsMember_eq (opened : Nat) (name : String) (members : List (String × Json)) :
    fieldsMember opened name members = (Json.member? name members).map (fieldSequence opened) := by
  induction members with
  | nil => rfl
  | cons m ms ih =>
    obtain ⟨n, j⟩ := m
    rw [fieldsMember, ih, Json.member?_cons]
    cases Json.member? name ms with
    | some found => rfl
    | none => cases same : n == name <;> simp [fieldsPair, same]

/-- A member that is looked for while the document is walked is a required member all the same. -/
theorem required_expr (opened : Nat) (name : String) (members : List (String × Json)) :
    Check.under (.name name) ((exprMember opened name members).getD (.fail .missing)) =
      required name (exprAt opened) members := by
  rw [exprMember_eq, required]
  cases Json.member? name members <;> rfl

theorem optional_fields (opened : Nat) (members : List (String × Json)) :
    Check.under (.name "fields") ((fieldsMember opened "fields" members).getD (.ok [])) =
      optional "fields" [] (fieldSequence opened) members := by
  rw [fieldsMember_eq, optional]
  cases Json.member? "fields" members <;> rfl

def variant (opened : Nat) (members : List (String × Json)) : Expr → Prop
  | .literal kind s place => required "text" text members = .ok s ∧
      required "location" (locationAt opened) members = .ok place ∧
      required "literal_kind" (word LiteralKind.ofName?) members = .ok kind
  | .unary operator operand s place => required "text" text members = .ok s ∧
      required "location" (locationAt opened) members = .ok place ∧
      required "operator" text members = .ok operator ∧
      required "operand" (exprAt opened) members = .ok operand
  | .record fields s place => required "text" text members = .ok s ∧
      required "location" (locationAt opened) members = .ok place ∧
      optional "fields" [] (fieldSequence opened) members = .ok fields
  | .other kind s place => required "text" text members = .ok s ∧
      required "location" (locationAt opened) members = .ok place ∧
      optional "node_type" "" text members = .ok kind

def tagOf : Expr → Tag
  | .literal .. => .literal
  | .unary .. => .unary
  | .record .. => .record
  | .other .. => .other

theorem literalFields_ok {opened : Nat} {members : List (String × Json)} {e : Expr} :
    literalFields opened members = .ok e ↔ tagOf e = .literal ∧ variant opened members e := by
  simp only [literalFields, Check.map_ok, Check.both_ok, Prod.exists]
  constructor
  · rintro ⟨_, _, _, read, rfl⟩
    exact ⟨rfl, read⟩
  · rintro ⟨same, read⟩
    cases e <;> cases same
    exact ⟨_, _, _, read, rfl⟩

theorem otherFields_ok {opened : Nat} {members : List (String × Json)} {e : Expr} :
    otherFields opened members = .ok e ↔ tagOf e = .other ∧ variant opened members e := by
  simp only [otherFields, Check.map_ok, Check.both_ok, Prod.exists]
  constructor
  · rintro ⟨_, _, _, read, rfl⟩
    exact ⟨rfl, read⟩
  · rintro ⟨same, read⟩
    cases e <;> cases same
    exact ⟨_, _, _, read, rfl⟩

theorem unaryFields_ok {opened : Nat} {members : List (String × Json)} {e : Expr} :
    unaryFields opened members (exprMember opened "operand" members) = .ok e ↔
      tagOf e = .unary ∧ variant opened members e := by
  simp only [unaryFields, required_expr, Check.map_ok, Check.both_ok, Prod.exists]
  constructor
  · rintro ⟨_, _, _, _, read, rfl⟩
    exact ⟨rfl, read⟩
  · rintro ⟨same, read⟩
    cases e <;> cases same
    exact ⟨_, _, _, _, read, rfl⟩

theorem recordFields_ok {opened : Nat} {members : List (String × Json)} {e : Expr} :
    recordFields opened members (fieldsMember opened "fields" members) = .ok e ↔
      tagOf e = .record ∧ variant opened members e := by
  simp only [recordFields, optional_fields, Check.map_ok, Check.both_ok, Prod.exists]
  constructor
  · rintro ⟨_, _, _, read, rfl⟩
    exact ⟨rfl, read⟩
  · rintro ⟨same, read⟩
    cases e <;> cases same
    exact ⟨_, _, _, read, rfl⟩

/-- A document is accepted as the variant that its tag names, if one more reference can be opened. -/
theorem exprAt_ok {opened : Nat} {members : List (String × Json)} {e : Expr} :
    exprAt opened (.object members) = .ok e ↔ opened < maxOpen ∧
      tag Tag.ofName? members = .ok (tagOf e) ∧ variant (opened + 1) members e := by
  rw [exprAt]
  cases tag Tag.ofName? members with
  | error problems => simp
  | ok t =>
    simp only [Check.under_ok, Except.ok.injEq, @eq_comm _ t]
    by_cases room : opened < maxOpen
    · simp only [room, if_true, true_and]
      cases t with
      | literal => exact literalFields_ok
      | other => exact otherFields_ok
      | unary => exact unaryFields_ok
      | record => exact recordFields_ok
    · simp [room, Check.fail]

theorem locationAt_ok {opened : Nat} {j : Json} {l : Location} :
    locationAt opened j = .ok l ↔ opened < maxOpen ∧ location j = .ok l := by
  unfold locationAt
  by_cases room : opened < maxOpen <;> simp [room, Check.fail]

theorem fieldAt_ok {opened : Nat} {members : List (String × Json)} {f : Field} :
    fieldAt opened (.object members) = .ok f ↔ required "key" optionalText members = .ok f.key ∧
      required "value" (exprAt opened) members = .ok f.value ∧
      required "location" (locationAt opened) members = .ok f.location := by
  rw [fieldAt, entryFields, required_expr]
  simp only [Check.map_ok, Check.both_ok, Prod.exists]
  constructor
  · rintro ⟨_, _, _, read, rfl⟩
    exact read
  · intro read
    obtain ⟨key, value, place⟩ := f
    exact ⟨_, _, _, read, rfl⟩

theorem fieldElements_ok {opened position : Nat} {x : Json} {xs : List Json} {fields : List Field} :
    fieldElements opened position (x :: xs) = .ok fields ↔ ∃ f fs, fields = f :: fs ∧
      fieldAt opened x = .ok f ∧ fieldElements opened (position + 1) xs = .ok fs := by
  rw [fieldElements]
  simp only [Check.map_ok, Check.both_ok, Check.under_ok, Prod.exists]
  constructor
  · rintro ⟨_, _, ⟨first, rest⟩, rfl⟩
    exact ⟨_, _, rfl, first, rest⟩
  · rintro ⟨_, _, rfl, first, rest⟩
    exact ⟨_, _, ⟨first, rest⟩, rfl⟩

/-- With so many references open, the locations are in order and none lies too deep. -/
structure Fits (opened : Nat) (places : List Location) (depth : Nat) : Prop where
  inOrder : InOrder places
  reached : opened + depth < maxOpen

theorem inOrder_cons {l : Location} {places : List Location} :
    InOrder (l :: places) ↔ l.InOrder ∧ InOrder places := List.forall_mem_cons

theorem inOrder_append {first second : List Location} :
    InOrder (first ++ second) ↔ InOrder first ∧ InOrder second := List.forall_mem_append

theorem required_locationAt_toJson {opened : Nat} {members : List (String × Json)} {l : Location}
    (found : Json.member? "location" members = some l.toJson) (inOrder : l.InOrder)
    (room : opened < maxOpen) : required "location" (locationAt opened) members = .ok l :=
  required_ok.mpr ⟨_, found, locationAt_ok.mpr ⟨room, location_toJson inOrder⟩⟩

mutual

theorem exprAt_toJson (opened : Nat) :
    ∀ {e : Expr}, Fits opened e.places e.depth → exprAt opened e.toJson = .ok e
  | .literal kind s place, fits => by
    obtain ⟨here, -⟩ := inOrder_cons.mp fits.inOrder
    have room := fits.reached
    simp only [Expr.depth] at room
    refine exprAt_ok.mpr ⟨by omega, rfl, required_ok.mpr ⟨_, rfl, rfl⟩,
      required_locationAt_toJson rfl here room, required_ok.mpr ⟨_, rfl, word_ok.mpr ?_⟩⟩
    cases kind <;> rfl
  | .other kind s place, fits => by
    obtain ⟨here, -⟩ := inOrder_cons.mp fits.inOrder
    have room := fits.reached
    simp only [Expr.depth] at room
    exact exprAt_ok.mpr ⟨by omega, rfl, required_ok.mpr ⟨_, rfl, rfl⟩,
      required_locationAt_toJson rfl here room, optional_ok.mpr (.inl ⟨_, rfl, rfl⟩)⟩
  | .unary operator operand s place, fits => by
    obtain ⟨here, below⟩ := inOrder_cons.mp fits.inOrder
    have room := fits.reached
    simp only [Expr.depth] at room
    exact exprAt_ok.mpr ⟨by omega, rfl, required_ok.mpr ⟨_, rfl, rfl⟩,
      required_locationAt_toJson rfl here (by omega), required_ok.mpr ⟨_, rfl, rfl⟩,
      required_ok.mpr ⟨_, rfl, exprAt_toJson (opened + 1) ⟨below, by omega⟩⟩⟩
  | .record fields s place, fits => by
    obtain ⟨here, below⟩ := inOrder_cons.mp fits.inOrder
    have room := fits.reached
    simp only [Expr.depth] at room
    exact exprAt_ok.mpr ⟨by omega, rfl, required_ok.mpr ⟨_, rfl, rfl⟩,
      required_locationAt_toJson rfl here (by omega),
      optional_ok.mpr (.inl ⟨_, rfl, fieldElements_toJson (opened + 1) 0 ⟨below, by omega⟩⟩)⟩

theorem fieldAt_toJson (opened : Nat) :
    ∀ {f : Field}, Fits opened f.places f.depth → fieldAt opened f.toJson = .ok f
  | .mk key value place, fits => by
    obtain ⟨here, below⟩ := inOrder_cons.mp fits.inOrder
    have room := fits.reached
    refine fieldAt_ok.mpr ⟨required_ok.mpr ⟨_, rfl, ?_⟩,
      required_ok.mpr ⟨_, rfl, exprAt_toJson opened ⟨below, room⟩⟩,
      required_locationAt_toJson rfl here (by omega)⟩
    cases key <;> rfl

theorem fieldElements_toJson (opened position : Nat) : ∀ {fs : List Field},
    Fits opened (Field.placesIn fs) (Field.depthIn fs) →
      fieldElements opened position (Field.toJsonList fs) = .ok fs
  | [], _ => rfl
  | f :: fs, fits => by
    obtain ⟨first, others⟩ := inOrder_append.mp fits.inOrder
    have room := fits.reached
    simp only [Field.depthIn] at room
    exact fieldElements_ok.mpr ⟨f, fs, rfl, fieldAt_toJson opened ⟨first, by omega⟩,
      fieldElements_toJson opened (position + 1) ⟨others, by omega⟩⟩

end

/-- Reading documents and writing out values undo each other. The values that documents are accepted
as are the ones whose locations are in order and lie no more than 254 expressions deep. Those that lie
no more than 253 deep are written out, as documents that they are read back from, whatever document
they were read from before; deeper ones are not. -/
structure Reversible {α : Type} (check : Json → Check α) (dump : α → Except DumpFault Json)
    (places : α → List Location) (depth : α → Nat) : Prop where
  accepted_iff : ∀ m, (∃ j, check j = .ok m) ↔ (∀ l ∈ places m, l.InOrder) ∧ depth m ≤ 254
  written : ∀ m, (∀ l ∈ places m, l.InOrder) → depth m ≤ 253 →
    ∃ document, dump m = .ok document ∧ check document = .ok m
  unwritten : ∀ m, 253 < depth m → dump m = .error .tooDeep
  again : ∀ j m, check j = .ok m → depth m ≤ 253 →
    ∃ document, dump m = .ok document ∧ check document = .ok m

theorem dumped_ok {depth : Nat} {document : Json} (shallow : depth ≤ 253) :
    dumped depth document = .ok document :=
  if_pos (Nat.add_le_add_right shallow 2)

theorem dumped_error {depth : Nat} (deep : 253 < depth) (document : Json) :
    dumped depth document = .error .tooDeep :=
  if_neg (Nat.not_le.mpr (Nat.add_lt_add_right deep 2))

theorem fits_iff {places : List Location} {depth : Nat} :
    Fits 0 places depth ↔ InOrder places ∧ depth ≤ 254 := by
  have limit : maxOpen = 255 := rfl
  constructor
  · rintro ⟨inOrder, reached⟩
    exact ⟨inOrder, by omega⟩
  · rintro ⟨inOrder, shallow⟩
    exact ⟨inOrder, by omega⟩

theorem Reversible.of {α : Type} {check : Json → Check α} {document : α → Json}
    {places : α → List Location} {depth : α → Nat}
    (accepted : ∀ {j m}, check j = .ok m → Fits 0 (places m) (depth m))
    (back : ∀ {m}, Fits 0 (places m) (depth m) → check (document m) = .ok m) :
    Reversible check (fun m => dumped (depth m) (document m)) places depth where
  accepted_iff _ :=
    ⟨fun ⟨_, read⟩ => fits_iff.mp (accepted read), fun fits => ⟨_, back (fits_iff.mpr fits)⟩⟩
  written _ inOrder shallow :=
    ⟨_, dumped_ok shallow, back (fits_iff.mpr ⟨inOrder, Nat.le_succ_of_le shallow⟩)⟩
  unwritten _ deep := dumped_error deep _
  again _ _ read shallow := ⟨_, dumped_ok shallow, back (accepted read)⟩

/-- A number behind so many signs, with one place for all of it. -/
def signed (place : Location) : Nat → Expr
  | 0 => .literal .integer "1" place
  | signs + 1 => .unary "-" (signed place signs) "" place

end Schema
end PoolLint
