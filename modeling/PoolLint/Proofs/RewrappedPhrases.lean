import PoolLint.Proofs.RewrappedReading
import PoolLint.Syntax.Grammar.Quoted

/-! The phrases that the other readers are made of, and texts in quotes: line continuations make no
difference to what is read. In a text in quotes they can only stand in its fields. -/
namespace PoolLint.Syntax

/-- Texts that are the same, or have a character that tells them from a single word. -/
def SameUnless (c : Char) (s s' : String) : Prop := s = s' ∨ c ∈ s.toList ∧ c ∈ s'.toList

theorem SameUnless.append {c : Char} {s s' t t' : String} (first : SameUnless c s s')
    (second : SameUnless c t t') : SameUnless c (s ++ t) (s' ++ t') := by
  unfold SameUnless
  rw [String.toList_append, String.toList_append, List.mem_append, List.mem_append]
  rcases first with rfl | ⟨left, right⟩
  · rcases second with rfl | ⟨left, right⟩
    · exact .inl rfl
    · exact .inr ⟨.inr left, .inr right⟩
  · exact .inr ⟨.inl left, .inl right⟩

namespace Grammar
open PoolLint.Syntax.Parser Piece

section Targets

variable {ns ms : List Node} {n m : Node}

theorem splatsTarget_alike (alike : Node.AllAlike ns ms) : splatsTarget ns = splatsTarget ms := by
  induction alike with
  | nil => rfl
  | cons texts heads parts rest _ ih =>
    rw [splatsTarget, splatsTarget, ih]
    rfl
  | left rest ih =>
    rw [splatsTarget, ih]
    rfl
  | right rest ih =>
    rw [splatsTarget, ih]
    rfl

theorem areTargets_alike (alike : Node.AllAlike ns ms) : areTargets ns = areTargets ms := by
  induction alike with
  | nil => rfl
  | @cons kind role text text' span span' inside inside' ns ms texts heads parts rest ihIn ihRest =>
    have spread := splatsTarget_alike parts
    have here : isTarget (.mk kind role text span inside) =
        isTarget (.mk kind role text' span' inside') := by
      unfold isTarget
      rw [ihIn, spread]
    unfold areTargets
    rw [here, ihRest]
  | left rest ih =>
    rw [Node.continuation, areTargets, ih]
    rfl
  | right rest ih =>
    rw [Node.continuation, areTargets, ih]
    rfl

theorem isTarget_alike (alike : n.Alike m) : isTarget n = isTarget m := by
  have row := areTargets_alike (.single alike)
  obtain ⟨kind, role, text, span, inside⟩ := n
  obtain ⟨kind', role', text', span', inside'⟩ := m
  have same : kind = kind' := alike.kind
  have spread := splatsTarget_alike alike.parts
  have all := areTargets_alike alike.parts
  subst same
  simp only [Node.children_mk] at spread all
  unfold isTarget
  rw [spread, all]

end Targets

theorem startsValue_alike (t u : Token) (pair : t.Alike u) : startsValue t = startsValue u := by
  cases pair
  rfl

theorem startsItem_alike (t u : Token) (pair : t.Alike u) : startsItem t = startsItem u := by
  cases pair
  rfl

def AllSteady (self : Phrase → Parser Piece) : Prop := ∀ phrase, Steady (self phrase)

theorem markAlone_steady {kind : Kind} (loose : kind.isLoose = true) :
    Steady (do return Piece.build kind (← takeAs .mark) []) := by
  apply (takeAs_steady .mark).bind
  intro m m' marks
  exact .pure (marks.build loose .nil)

theorem marked_alike {p : Parser Piece} (steady : Steady p) {kind : Kind}
    (loose : kind.isLoose = true) :
    Steady (do
      let m ← takeAs .mark
      return Piece.build kind m [← p]) := by
  apply (takeAs_steady .mark).bind
  intro m m' marks
  apply steady.bind
  intro p q pieces
  exact .pure (marks.build loose (.cons pieces .nil))

variable {self : Phrase → Parser Piece} (steady : AllSteady self)
include steady

theorem expressionList_steady : Steady (expressionList self) := by
  apply (steady (.expression true)).bind
  intro first first' firsts
  apply (listFrom_alike (steady (.expression true)) startsItem_alike firsts).bind
  intro parts parts' row
  exact whole_or_parts_alike .expressionList rfl row

theorem yieldPhrase_steady : Steady (yieldPhrase self) := by
  apply (takeAs_steady .mark).bind
  intro w w' words
  apply (word?_alike "from").bind
  intro o o' marks
  cases marks with
  | some from_ =>
    apply (steady (.expression true)).bind
    intro p q values
    exact .pure (words.build rfl (.cons from_ (.cons (values.as .value) .nil)))
  | none =>
    apply ahead?_alike.bind
    intro o o' tokens
    rw [any_alike startsItem_alike tokens]
    apply Alike.ite
    · apply (expressionList_steady steady).bind
      intro p q values
      exact .pure (words.build rfl (.cons (values.as .value) .nil))
    · exact .pure (words.build rfl .nil)

theorem element_steady : Steady (element self) := by
  apply operand_alike.bind
  intro t u tokens
  cases tokens
  apply Alike.ite (yieldPhrase_steady steady)
  exact .ite (marked_alike (steady (.expression true)) rfl) (steady (.expression true))

theorem typeHint_one_steady : Steady (typeHint.one self) := by
  apply operand_alike.bind
  intro t u tokens
  cases tokens
  apply Alike.ite
  · exact marked_alike name_steady rfl
  · apply (steady (.expression true)).bind
    intro p q values
    exact .pure (values.build rfl .nil)

theorem typeHint_steady (isChain : Bool) : Steady (typeHint self isChain) := by
  apply (typeHint_one_steady steady).bind
  intro first first' firsts
  apply Alike.ite _ (.pure firsts)
  apply repeated_alike _ firsts
  intro p q pieces
  apply (mark?_alike ":").bind
  intro o o' marks
  cases marks with
  | none => exact .pure .none
  | some colon =>
    apply (typeHint_one_steady steady).bind
    intro next next' nexts
    exact .pure (.some (pieces.build rfl (.cons colon (.cons nexts .nil))))

section Quoted

/-- A part of a text in quotes: the same in both, or a field. -/
structure PartAlike (p q : Piece) : Prop extends Piece.Alike p q where
  content : SameUnless '\x7b' (p.layout ++ p.node.text) (q.layout ++ q.node.text)

omit steady in
theorem textBehind_sameUnless {c : Char} {ps qs : List Piece}
    (row : List.Forall₂ (fun p q => SameUnless c (p.layout ++ p.node.text)
      (q.layout ++ q.node.text)) ps qs) : SameUnless c (textBehind ps) (textBehind qs) := by
  induction row with
  | nil => exact .inl rfl
  | cons pair rest ih =>
    rw [textBehind_cons, textBehind_cons]
    exact pair.append ih

omit steady in
theorem piecesUntil_runs {ends : Token → Bool} {item : Token → Parser Piece}
    {P : Piece → Piece → Prop} {c : Context} {i j : Input}
    (same : ∀ t u, t.Alike u → ends t = ends u)
    (items : ∀ t u i j, t.Alike u → i.tokens.head? = some t → Input.Alike i j →
      Runs (item t) (item u) c i j fun p i q j => P p q ∧ Input.Alike i j)
    (inputs : Input.Alike i j) :
    Runs (piecesUntil ends item) (piecesUntil ends item) c i j fun ps i qs j =>
      List.Forall₂ P ps qs ∧ Input.Alike i j ∧ ∃ t, i.tokens.head? = some t ∧ ends t = true := by
  apply Runs.bind (P := fun ps i qs j => List.Forall₂ P ps qs ∧ Input.Alike i j ∧
    ∃ t, i.tokens.head? = some t ∧ ends t = true)
  · apply repeated_runs (I := fun ps i qs j => List.Forall₂ P ps qs ∧ Input.Alike i j) _
      ⟨.nil, inputs⟩
    intro ps i qs j ⟨row, inputs⟩
    apply (next_runs inputs).bind
    intro t i' u j' ⟨tokens, head, left, right⟩
    subst left right
    rw [← same t u tokens]
    apply Runs.ite
    · intro stops
      exact .some ⟨row, inputs, t, head, stops⟩
    · intro goesOn
      apply (items t u i' j' tokens head inputs).bind
      intro p i q j ⟨pieces, inputs⟩
      exact .some ⟨.cons pieces row, inputs⟩
  · intro ps i qs j ⟨row, behind⟩
    exact .some ⟨List.rel_reverse row, behind⟩

/-- A reader that reads fields alike, where one begins. -/
def ReadsField (p : Parser Piece) : Prop :=
  ∀ ⦃c i j t⦄, i.tokens.head? = some t → t.isMark "\x7b" = true → Input.Alike i j →
    Runs p p c i j fun p i q j => PartAlike p q ∧ Input.Alike i j

omit steady in
/-- The format in a field, with its texts and its own fields. -/
theorem format_alike {p : Parser Piece} (fields : ReadsField p) :
    Alike RowAlike
      (piecesUntil (·.isMark "\x7d") fun t => do
        if t.kind == .specText then takeAs .stringContent
        else if t.isMark "\x7b" then p
        else failure)
      (piecesUntil (·.isMark "\x7d") fun t => do
        if t.kind == .specText then takeAs .stringContent
        else if t.isMark "\x7b" then p
        else failure) := by
  intro c i j inputs
  apply (piecesUntil_runs (P := Piece.Alike) (isMark_alike "\x7d") _ inputs).mono
  · intro parts i parts' j ⟨row, behind, _⟩
    exact ⟨row, behind⟩
  · intro t u i j tokens head inputs
    cases tokens
    apply Runs.ite
    · intro isText
      exact takeAs_steady .stringContent inputs
    · intro other
      apply Runs.ite
      · intro opens
        apply (fields head opens inputs).mono
        intro p i q j ⟨parts, behind⟩
        exact ⟨parts.toAlike, behind⟩
      · intro neither
        exact .none

omit steady in
/-- A field shows its brace, whatever differs in it. -/
theorem field_partAlike {opening opening' : Piece} (openings : opening.Same opening')
    (brace : '\x7b' ∈ opening.node.text.toList) {parts parts' : List Piece}
    (row : RowAlike parts parts') :
    PartAlike (Piece.build .interpolation opening parts)
      (Piece.build .interpolation opening' parts') where
  toAlike := openings.toAlike.build rfl row
  content := by
    have brace' : '\x7b' ∈ opening'.node.text.toList := openings.text ▸ brace
    refine .inr ⟨?_, ?_⟩
    · simp [Piece.build, brace]
    · simp [Piece.build, brace']

omit steady in
/-- The closing brace of a field, and the field that is built behind it. -/
theorem fieldEnd_alike {opening opening' value value' : Piece} (openings : opening.Same opening')
    (brace : '\x7b' ∈ opening.node.text.toList) (values : value.Alike value')
    {shown shown' conversion conversion' format format' : Option Piece}
    (showns : Option.Rel Piece.Alike shown shown')
    (conversions : Option.Rel Piece.Alike conversion conversion')
    (formats : Option.Rel Piece.Alike format format') :
    Alike PartAlike
      (do
        let closing ← mark "\x7d"
        return Piece.build .interpolation opening
          (value.as .value :: (shown.toList ++ conversion.toList ++ format.toList ++ [closing])))
      (do
        let closing ← mark "\x7d"
        return Piece.build .interpolation opening'
          (value'.as .value ::
            (shown'.toList ++ conversion'.toList ++ format'.toList ++ [closing]))) := by
  apply (mark_steady "\x7d").bind
  intro closing closing' closings
  have marks := List.rel_append (row_of_optional showns) (row_of_optional conversions)
  have row := List.rel_append (List.rel_append marks (row_of_optional formats))
    (.cons closings .nil)
  exact .pure (field_partAlike openings brace (.cons (values.as .value) row))

theorem field_reads (fuel : Nat) : ReadsField (field self fuel) := by
  -- on the fields that may be inside each other
  induction fuel with
  | zero =>
    intro c i j t head opens inputs
    exact .none
  | succ fuel ih =>
    intro c i j t head opens inputs
    apply (takeAs_runs .mark inputs).bind
    intro opening i' opening' j' taken
    have brace : '\x7b' ∈ opening.node.text.toList := by
      obtain ⟨-, text⟩ := (Bool.and_eq_true _ _).mp opens
      rw [taken.left head]
      show '\x7b' ∈ t.text.toList
      rw [beq_iff_eq.mp text]
      decide
    suffices rest : Alike PartAlike _ _ from rest taken.inputs
    apply Alike.inField
    apply operand_alike.bind
    intro t u tokens
    rw [isWord_alike "yield" t u tokens]
    extract_lets goesOn goesOn'
    have behindValue (value value' : Piece) (values : value.Alike value') :
        Alike PartAlike (goesOn value) (goesOn' value') := by
      apply (mark?_alike "=").bind
      intro shown shown' showns
      apply next_alike.bind
      intro t u tokens
      extract_lets goesOn goesOn'
      have behindConversion (conversion conversion' : Option Piece)
          (conversions : Option.Rel Piece.Alike conversion conversion') :
          Alike PartAlike (goesOn conversion) (goesOn' conversion') := by
        apply (mark?_alike ":").bind
        intro colon colon' colons
        extract_lets goesOn goesOn'
        have behindFormat (format format' : Option Piece)
            (formats : Option.Rel Piece.Alike format format') :
            Alike PartAlike (goesOn format) (goesOn' format') :=
          fieldEnd_alike taken.same brace values showns conversions formats
        cases colons with
        | none =>
          apply Alike.bind (R := Option.Rel Piece.Alike) _ behindFormat
          exact .pure .none
        | some colons =>
          apply (format_alike ih).bind
          intro parts parts' row
          apply Alike.bind (R := Option.Rel Piece.Alike) _ behindFormat
          exact .pure (.some (colons.build rfl row))
      cases tokens
      apply Alike.ite
      · apply Alike.bind (R := Option.Rel Piece.Alike) _ behindConversion
        apply (takeAs_steady .typeConversion).map
        intro p q pieces
        exact .some pieces
      · apply Alike.bind (R := Option.Rel Piece.Alike) _ behindConversion
        exact .pure .none
    apply Alike.ite
    · exact (yieldPhrase_steady steady).bind behindValue
    · exact (expressionList_steady steady).bind behindValue

theorem quoted_steady : Steady (quoted self) := by
  intro c i j inputs
  apply (takeAs_runs .mark inputs).bind
  intro opening i opening' j taken
  have openings := taken.same
  apply context_runs.bind
  intro context i' _ j' ⟨same, left, right⟩
  subst same left right
  apply (piecesUntil_runs (P := PartAlike) _ _ taken.inputs).bind
  · intro parts i parts' j ⟨row, inputs, t, head, ends⟩
    apply (takeAs_runs .mark inputs).bind
    intro closing i' closing' j' taken
    have last := taken.content head (.inr (beq_iff_eq.mp ends))
    have content : SameUnless '\x7b' (textBehind (parts ++ [closing]))
        (textBehind (parts' ++ [closing'])) := by
      apply textBehind_sameUnless
      exact List.rel_append (row.imp fun _ _ part => part.content) (.cons (.inl last) .nil)
    have whole : RowAlike (parts ++ [closing]) (parts' ++ [closing']) :=
      List.rel_append (row.imp fun _ _ part => part.toAlike) (.cons taken.same.toAlike .nil)
    refine .some ⟨openings.toAlike.build_of_heads whole rfl ?_ ⟨nofun, nofun⟩, taken.inputs⟩
    intro _
    have opens : SameUnless '\x7b' opening.node.text opening'.node.text := .inl openings.text
    exact opens.append content
  · intro t u tokens
    cases tokens
    rfl
  · intro t u i j tokens head inputs
    cases tokens
    apply Runs.ite
    · intro isText
      apply (takeAs_runs .stringContent inputs).mono
      intro p i q j taken
      have content := taken.content head (.inl (beq_iff_eq.mp isText))
      exact ⟨⟨taken.same.toAlike, .inl content⟩, taken.inputs⟩
    · intro other
      apply Runs.ite
      · intro opens
        exact field_reads steady _ head opens inputs
      · intro neither
        exact .none

theorem joinedQuoted_steady : Steady (joinedQuoted self) := by
  apply (quoted_steady steady).bind
  intro first first' firsts
  apply Alike.bind (R := RowAlike)
  · apply repeated_alike _ (.cons firsts .nil)
    intro parts parts' row
    apply ahead?_alike.bind
    intro o o' tokens
    have starts : ∀ t u, Token.Alike t u →
        (t.kind == Token.Kind.stringStart) = (u.kind == Token.Kind.stringStart) := by
      intro t u pair
      cases pair
      rfl
    rw [any_alike starts tokens]
    apply Alike.ite
    · apply (quoted_steady steady).bind
      intro p q pieces
      exact .pure (.some (.cons pieces row))
    · exact .pure .none
  · intro parts parts' row
    exact whole_or_parts_alike .concatenatedString rfl (List.rel_reverse row)

end Quoted

end Grammar
end PoolLint.Syntax
