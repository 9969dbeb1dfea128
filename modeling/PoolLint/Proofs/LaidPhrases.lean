import PoolLint.Proofs.ReadingSteps
import PoolLint.Syntax.Grammar.Quoted

/-! The phrases that the other readers are made of, and texts in quotes: each fills the text it was
read from. -/
namespace PoolLint.Syntax.Grammar
open PoolLint.Syntax.Parser Piece

def StartsLine (c : Context) (i : Input) : Prop :=
  ∃ t ts, i.tokens = t :: ts ∧ t.kind ≠ .finish ∧ c.width ≤ t.indent

/-- The phrases inside a construct are read soundly. The lines of a block need one to start with,
unless they are those of the whole text. -/
structure Known (read : Phrase → Parser Piece) : Prop where
  expression : ∀ isBare, Sound (read (.expression isBare))
  operation : ∀ level, Sound (read (.operation level))
  assigned : Sound (read .assigned)
  casePattern : Sound (read .casePattern)
  lines : ∀ ⦃c i a⦄, At i a → a = 0 ∨ StartsLine c i → Reads (read .lines) c i (Forms a)

theorem inner_reads {α : Type} {p : Parser α} {c : Context} {i : Input} {Q : α → Input → Prop}
    (reads : ∀ c, Reads p c i Q) : Reads (inner p) c i Q := by
  refine context_reads.andThen ?_
  rintro context _ rfl
  split
  · exact reads { c with mode := .goesOn }
  · exact reads c

theorem markAlone_reads {kind : Kind} (plain : Node.holdsValue kind = false) {c : Context}
    {i : Input} {a : Nat} (at_ : At i a) :
    Reads (do return Piece.build kind (← takeAs .mark) []) c i (Forms a) := by
  refine (takeAs_reads .mark at_).andThen ?_
  rintro m i ⟨b, at_, first⟩
  exact .pure ⟨b, at_, first.build plain .nil⟩

theorem marked_reads {p : Parser Piece} (sound : Sound p) {kind : Kind}
    (plain : Node.holdsValue kind = false) {c : Context} {i : Input} {a : Nat} (at_ : At i a) :
    Reads (do
      let m ← takeAs .mark
      return Piece.build kind m [← p]) c i (Forms a) := by
  refine (takeAs_reads .mark at_).andThen ?_
  rintro m i ⟨b, at_, first⟩
  refine (sound at_).andThen ?_
  rintro q i ⟨d, at_, second⟩
  exact .pure ⟨d, at_, first.build plain (.single second)⟩

variable {self : Phrase → Parser Piece} (known : Known self)
include known

theorem expressionList_sound : Sound (expressionList self) := by
  intro c i a at_
  refine (known.expression true at_).andThen ?_
  intro first rest forms
  refine (listFrom_reads (known.expression true) startsItem forms).andThen ?_
  rintro parts rest' ⟨some_, row⟩
  exact whole_or_parts rfl some_ row

theorem yieldPhrase_sound : Sound (yieldPhrase self) := by
  intro c i a at_
  refine (takeAs_reads .mark at_).andThen ?_
  rintro w i ⟨b, at_, first⟩
  refine (word?_reads "from" at_).andThen ?_
  intro o i' read
  cases o with
  | some from_ =>
    obtain ⟨d, at_, second⟩ := read
    refine (known.expression true at_).andThen ?_
    rintro value i ⟨e, at_, third⟩
    exact .pure ⟨e, at_, first.build rfl (.cons second (.single (third.as .value)))⟩
  | none =>
    cases read
    refine ahead?_reads.andThen ?_
    rintro t i ⟨-, rfl⟩
    split
    · refine (expressionList_sound known at_).andThen ?_
      rintro value i ⟨e, at_, second⟩
      exact .pure ⟨e, at_, first.build rfl (.single (second.as .value))⟩
    · exact .pure ⟨b, at_, first.build rfl .nil⟩

theorem element_sound : Sound (element self) := by
  intro c i a at_
  refine operand_reads.andThen ?_
  rintro t i rfl
  split
  · exact yieldPhrase_sound known at_
  · split
    · exact marked_reads (known.expression true) rfl at_
    · exact known.expression true at_

theorem typeHint_one_sound : Sound (typeHint.one self) := by
  intro c i a at_
  refine operand_reads.andThen ?_
  rintro t i rfl
  split
  · exact marked_reads name_sound rfl at_
  · refine (known.expression true at_).andThen ?_
    rintro value i ⟨b, at_, first⟩
    exact .pure ⟨b, at_, first.build rfl .nil⟩

theorem typeHint_sound (isChain : Bool) : Sound (typeHint self isChain) := by
  intro c i a at_
  refine (typeHint_one_sound known at_).andThen ?_
  rintro first i forms
  split
  · refine repeated_reads (I := Forms a) ?_ forms
    rintro p i ⟨b, at_, first⟩
    refine (mark?_reads ":" at_).andThen ?_
    intro o i' read
    cases o with
    | none =>
      cases read
      exact .pure ⟨b, at_, first⟩
    | some colon =>
      obtain ⟨d, at_, second⟩ := read
      refine (typeHint_one_sound known at_).andThen ?_
      rintro next i ⟨e, at_, third⟩
      exact .pure ⟨e, at_, first.build rfl (.cons second (.single third))⟩
  · exact .pure forms

omit known in
theorem piecesUntil_reads {ends : Token → Bool} {item : Token → Parser Piece} {c : Context}
    {i : Input} {a : Nat} (sound : ∀ t, Sound (item t)) (at_ : At i a) :
    Reads (piecesUntil ends item) c i (FormsRow a) := by
  refine (gathered_reads ?_ ⟨a, at_, .nil⟩).andThen fun _ _ row => .pure row
  rintro parts i ⟨b, at_, row⟩
  refine next_reads.andThen ?_
  rintro t i ⟨-, rfl⟩
  split
  · exact .pure ⟨b, at_, row⟩
  · refine (sound t at_).andThen ?_
    rintro p i ⟨d, at_, lies⟩
    exact .pure ⟨d, at_, row.push lies⟩

omit known in
/-- What may stand between quotes, or in the format of a field: a text, or a field. -/
theorem textOrField_sound {p : Parser Piece} (fields : Sound p) (isText opens : Bool) :
    Sound (if isText then takeAs .stringContent else if opens then p else failure) := by
  intro c i a at_
  split
  · exact takeAs_reads .stringContent at_
  · split
    · exact fields at_
    · exact .failure

theorem field_sound (fuel : Nat) : Sound (field self fuel) := by
  -- on the fields that may be inside each other
  induction fuel with
  | zero =>
    intro c i a at_
    exact .failure
  | succ fuel ih =>
    intro c i a at_
    refine (takeAs_reads .mark at_).andThen ?_
    rintro opening i ⟨b, at_, first⟩
    refine .inField fun c => operand_reads.andThen ?_
    rintro t i rfl
    extract_lets goesOn
    have behindValue (value : Piece) (i : Input) (forms : Forms b value i) :
        Reads (goesOn value) c i (Forms a) := by
      obtain ⟨d, at_, second⟩ := forms
      refine (mark?_reads "=" at_).andThen ?_
      intro shown i' read
      obtain ⟨e, at_, shownRow⟩ := read.row at_
      refine next_reads.andThen ?_
      rintro t i ⟨-, rfl⟩
      extract_lets goesOn
      have behindConversion (conversion : Option Piece) (i : Input)
          (row : FormsRow e conversion.toList i) : Reads (goesOn conversion) c i (Forms a) := by
        obtain ⟨f, at_, conversionRow⟩ := row
        refine (mark?_reads ":" at_).andThen ?_
        intro colon i' read
        extract_lets goesOn
        have behindFormat (format : Option Piece) (i : Input) (row : FormsRow f format.toList i) :
            Reads (goesOn format) c i (Forms a) := by
          obtain ⟨g, at_, formatRow⟩ := row
          refine (mark_reads "\x7d" at_).andThen ?_
          rintro closing i ⟨h, at_, last⟩
          have between := (shownRow.append conversionRow).append formatRow
          exact .pure ⟨h, at_, first.build rfl
            (.cons (second.as .value) (between.append (.single last)))⟩
        cases colon with
        | none =>
          cases read
          refine Reads.andThen ?_ behindFormat
          exact .pure ⟨f, at_, .nil⟩
        | some colon =>
          obtain ⟨g, at_, mark⟩ := read
          refine (piecesUntil_reads (fun t => textOrField_sound ih _ _) at_).andThen ?_
          rintro parts i ⟨h, at_, row⟩
          refine Reads.andThen ?_ behindFormat
          exact .pure ⟨h, at_, .single (mark.build rfl row)⟩
      split
      · refine Reads.andThen ?_ behindConversion
        refine .map ((takeAs_reads .typeConversion at_).mono ?_)
        rintro p i ⟨f, at_, lies⟩
        exact ⟨f, at_, .single lies⟩
      · refine Reads.andThen ?_ behindConversion
        exact .pure ⟨e, at_, .nil⟩
    split
    · exact (yieldPhrase_sound known at_).andThen behindValue
    · exact (expressionList_sound known at_).andThen behindValue

theorem quoted_sound : Sound (quoted self) := by
  intro c i a at_
  refine (takeAs_reads .mark at_).andThen ?_
  rintro opening i ⟨b, at_, first⟩
  refine context_reads.andThen ?_
  rintro context _ rfl
  have fields := field_sound known context.bound
  refine (piecesUntil_reads (fun t => textOrField_sound fields _ _) at_).andThen ?_
  rintro parts i ⟨d, at_, row⟩
  refine (takeAs_reads .mark at_).andThen ?_
  rintro closing i ⟨e, at_, last⟩
  exact .pure ⟨e, at_, first.build rfl (row.append (.single last))⟩

theorem joinedQuoted_sound : Sound (joinedQuoted self) := by
  intro c i a at_
  refine (quoted_sound known at_).andThen ?_
  rintro first i ⟨b, at_, lies⟩
  refine Reads.andThen (P := fun parts i => parts ≠ [] ∧ FormsRow a parts.reverse i) ?_ ?_
  · refine repeated_reads (I := fun parts i => parts ≠ [] ∧ FormsRow a parts.reverse i) ?_
      ⟨by simp, b, at_, .single lies⟩
    rintro parts i ⟨some_, d, at_, row⟩
    refine ahead?_reads.andThen ?_
    rintro t i ⟨-, rfl⟩
    split
    · refine (quoted_sound known at_).andThen ?_
      rintro p i ⟨e, at_, lies⟩
      exact .pure ⟨by simp, e, at_, row.push lies⟩
    · exact .pure ⟨some_, d, at_, row⟩
  · rintro parts i ⟨some_, row⟩
    exact whole_or_parts rfl (by simpa using some_) row

end PoolLint.Syntax.Grammar
