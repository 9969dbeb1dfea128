import PoolLint.Proofs.LaidPieces
import PoolLint.Syntax.Parser

/-! What a reader leaves behind when it succeeds. The tokens in front of it fill the text from a place
on, and what it reads fills the text up to the next place: one lemma for each way to put readers
together, and one for each elementary reader. -/
namespace PoolLint.Syntax.Parser

/-- Whatever a reader answers, it leaves a value and an input of this kind. -/
def Reads {α : Type} (p : Parser α) (c : Context) (i : Input) (Q : α → Input → Prop) : Prop :=
  ∀ v rest, p c i = some (v, rest) → Q v rest

namespace Reads

variable {α β : Type} {p : Parser α} {f : α → Parser β} {c : Context} {i : Input}
  {P Q : α → Input → Prop} {R : β → Input → Prop}

theorem pure {v : α} (holds : Q v i) : Reads (pure v) c i Q := by
  intro _ _ read
  cases read
  exact holds

theorem failure : Reads (failure : Parser α) c i Q := nofun

theorem mono (reads : Reads p c i P) (weaker : ∀ v rest, P v rest → Q v rest) : Reads p c i Q :=
  fun v rest read => weaker v rest (reads v rest read)

theorem andThen (first : Reads p c i P) (next : ∀ v rest, P v rest → Reads (f v) c rest R) :
    Reads (p >>= f) c i R := by
  intro w rest read
  obtain ⟨⟨v, between⟩, here, there⟩ := Option.bind_eq_some_iff.mp read
  exact next v between (first v between here) w rest there

theorem inMode {mode : LineMode} (reads : ∀ c, Reads p c i Q) : Reads (inMode mode p) c i Q :=
  reads { c with mode := mode }

theorem inField (reads : ∀ c, Reads p c i Q) : Reads (inField p) c i Q :=
  reads { c with mode := .bracketed, width := 0 }

theorem ite {b : Prop} [Decidable b] {q : Parser α} (first : Reads p c i Q)
    (second : Reads q c i Q) : Reads (if b then p else q) c i Q := by
  split
  · exact first
  · exact second

theorem stop : Reads (Alternative.failure >>= f) c i R := by
  have none : Reads (Alternative.failure : Parser α) c i fun _ _ => False := failure
  exact none.andThen fun _ _ impossible => impossible.elim

theorem map {g : α → β} (reads : Reads p c i fun v rest => R (g v) rest) :
    Reads (g <$> p) c i R := by
  intro w rest read
  obtain ⟨⟨v, between⟩, here, same⟩ := Option.bind_eq_some_iff.mp read
  cases same
  exact reads v _ here

end Reads

/-- The tokens that are left fill the text from a place on, where the last token ended. -/
structure At (i : Input) (a : Nat) : Prop where
  chain : ∃ stop, Token.Chain a i.tokens stop
  last : a = 0 ∨ i.last.span.stop.byte = a

/-- A piece reaches from a place to where the reader stands. -/
def Forms (a : Nat) (p : Piece) (i : Input) : Prop := ∃ b, At i b ∧ p.Lies a b

def FormsRow (a : Nat) (ps : List Piece) (i : Input) : Prop := ∃ b, At i b ∧ Piece.Row a ps b

def Sound (p : Parser Piece) : Prop := ∀ ⦃c i a⦄, At i a → Reads p c i (Forms a)

/-- A reader that leaves everything where it is. -/
def Still {α : Type} (i : Input) (_ : α) (rest : Input) : Prop := rest = i

theorem Sound.as {p : Parser Piece} (sound : Sound p) (role : Role) :
    Sound ((fun q => q.as role) <$> p) := by
  intro c i a at_
  refine .map ((sound at_).mono ?_)
  rintro q rest ⟨b, there, lies⟩
  exact ⟨b, there, lies.as role⟩

section Elementary

variable {c : Context} {i : Input} {a : Nat}

theorem context_reads : Reads (read : Parser Context) c i (Still i) := by
  intro _ _ read
  cases read
  rfl

theorem input_reads : Reads input c i fun v rest => v = i ∧ rest = i := by
  intro _ _ read
  cases read
  exact ⟨rfl, rfl⟩

theorem width_reads : Reads Parser.width c i fun v rest => v = c.width ∧ rest = i := by
  intro _ _ read
  cases read
  exact ⟨rfl, rfl⟩

theorem next_reads : Reads next c i fun t rest => (∃ ts, i.tokens = t :: ts) ∧ rest = i := by
  refine input_reads.andThen ?_
  rintro _ _ ⟨rfl, rfl⟩
  split
  · exact .failure
  · rename_i t ts here
    exact .pure ⟨⟨ts, here⟩, rfl⟩

theorem second?_reads : Reads second? c i (Still i) := by
  refine input_reads.andThen ?_
  rintro _ _ ⟨rfl, rfl⟩
  exact .pure rfl

theorem take_reads (at_ : At i a) :
    Reads take c i fun t rest => t.Stands a ∧ (∃ ts, i.tokens = t :: ts) ∧
      At rest t.span.stop.byte := by
  refine input_reads.andThen ?_
  rintro _ _ ⟨rfl, rfl⟩
  split
  · exact .failure
  · rename_i t ts here
    split
    · exact .failure
    · obtain ⟨stop, chain⟩ := at_.chain
      rw [here] at chain
      intro _ _ read
      cases read
      cases chain with
      | cons stands rest => exact ⟨stands, ⟨ts, here⟩, ⟨stop, rest⟩, .inr rfl⟩

theorem ahead?_reads : Reads ahead? c i fun t rest =>
    (∀ t' ∈ t, ∃ ts, i.tokens = t' :: ts) ∧ rest = i := by
  refine next_reads.andThen ?_
  rintro t rest ⟨here, rfl⟩
  have goesOn : ∀ t' ∈ some t, ∃ ts, rest.tokens = t' :: ts := by
    rintro _ ⟨⟩
    exact here
  refine context_reads.andThen ?_
  rintro context _ rfl
  split
  · split
    · exact .pure ⟨nofun, rfl⟩
    · split
      · exact .failure
      · exact .pure ⟨goesOn, rfl⟩
    · exact .pure ⟨goesOn, rfl⟩
  · exact .pure ⟨goesOn, rfl⟩

theorem operand_reads : Reads operand c i (Still i) := by
  refine next_reads.andThen ?_
  rintro t rest ⟨-, rfl⟩
  refine input_reads.andThen ?_
  rintro v rest ⟨rfl, rfl⟩
  refine context_reads.andThen ?_
  rintro context _ rfl
  split
  · exact .failure
  · exact .pure rfl

theorem takeAs_reads (kind : Kind) (at_ : At i a) : Reads (takeAs kind) c i (Forms a) := by
  refine (take_reads at_).andThen ?_
  rintro t rest ⟨stands, -, there⟩
  exact .pure ⟨_, there, .ofToken stands kind⟩

theorem aheadMark_reads (s : String) : Reads (aheadMark s) c i fun b rest =>
    (b = true → ∃ t ts, i.tokens = t :: ts ∧ t.text = s) ∧ rest = i := by
  refine ahead?_reads.andThen ?_
  rintro t rest ⟨here, rfl⟩
  refine .pure ⟨?_, rfl⟩
  intro isMark
  obtain ⟨t', ahead, isMark⟩ := (Option.any_eq_true _ _).mp isMark
  obtain ⟨ts, tokens⟩ := here t' ahead
  obtain ⟨-, text⟩ := (Bool.and_eq_true _ _).mp isMark
  exact ⟨t', ts, tokens, beq_iff_eq.mp text⟩

theorem aheadWord_reads (s : String) : Reads (aheadWord s) c i (Still i) := by
  refine ahead?_reads.andThen ?_
  rintro t rest ⟨-, rfl⟩
  exact .pure rfl

/-- A token with a text, read as a mark. -/
def Marked (s : String) (a : Nat) (p : Piece) (i : Input) : Prop :=
  ∃ t, p = .ofToken t .mark ∧ t.text = s ∧ t.Stands a ∧ At i t.span.stop.byte

theorem Marked.forms {s : String} {p : Piece} (marked : Marked s a p i) : Forms a p i := by
  obtain ⟨t, rfl, -, stands, there⟩ := marked
  exact ⟨_, there, .ofToken stands .mark⟩

def Perhaps {α : Type} (i : Input) (Q : α → Input → Prop) (o : Option α) (rest : Input) : Prop :=
  match o with
  | none => rest = i
  | some v => Q v rest

theorem Perhaps.row {o : Option Piece} {rest : Input} (read : Perhaps i (Forms a) o rest)
    (at_ : At i a) : FormsRow a o.toList rest := by
  cases o with
  | none =>
    cases read
    exact ⟨a, at_, .nil⟩
  | some p =>
    obtain ⟨b, there, lies⟩ := read
    exact ⟨b, there, .single lies⟩

theorem mark?_marked (s : String) (at_ : At i a) :
    Reads (mark? s) c i (Perhaps i (Marked s a)) := by
  refine (aheadMark_reads s).andThen ?_
  rintro b rest ⟨here, rfl⟩
  split
  · rename_i isMark
    obtain ⟨t, ts, tokens, text⟩ := here isMark
    refine Reads.andThen (P := Marked s a) ?_ fun p rest marked => .pure marked
    refine (take_reads at_).andThen ?_
    rintro taken rest ⟨stands, ⟨_, first⟩, there⟩
    rw [tokens] at first
    cases first
    exact .pure ⟨t, rfl, text, stands, there⟩
  · exact .pure rfl

theorem mark?_reads (s : String) (at_ : At i a) : Reads (mark? s) c i (Perhaps i (Forms a)) := by
  refine (mark?_marked s at_).mono ?_
  intro o rest read
  cases o with
  | none => exact read
  | some p => exact read.forms

theorem word?_reads (s : String) (at_ : At i a) : Reads (word? s) c i (Perhaps i (Forms a)) := by
  refine (aheadWord_reads s).andThen ?_
  rintro b rest rfl
  split
  · exact (takeAs_reads .mark at_).andThen fun p rest forms => .pure forms
  · exact .pure rfl

theorem mark_marked (s : String) (at_ : At i a) : Reads (mark s) c i (Marked s a) := by
  refine (mark?_marked s at_).andThen ?_
  intro o rest read
  cases o with
  | none => exact .failure
  | some p => exact .pure read

theorem mark_reads (s : String) (at_ : At i a) : Reads (mark s) c i (Forms a) :=
  (mark_marked s at_).mono fun _ _ marked => marked.forms

theorem word_reads (s : String) (at_ : At i a) : Reads (word s) c i (Forms a) := by
  refine (word?_reads s at_).andThen ?_
  intro o rest read
  cases o with
  | none => exact .failure
  | some p => exact .pure read

theorem name_sound : Sound name := by
  intro c i a at_
  refine operand_reads.andThen ?_
  rintro t rest rfl
  split
  · exact takeAs_reads .identifier at_
  · exact .failure

end Elementary

section Repeated

variable {α : Type} {c : Context}

/-- What a round of a loop leaves: the end of it, or the next round. -/
def Round (I Q : α → Input → Prop) (v : α) (o : Option α) (rest : Input) : Prop :=
  match o with
  | none => Q v rest
  | some w => I w rest

theorem loop_reads {step : α → Parser (Option α)} {I Q : α → Input → Prop}
    (round : ∀ v i, I v i → Reads (step v) c i (Round I Q v)) (fuel : Nat) {v : α} {i : Input}
    (holds : I v i) : Reads (loop step fuel v) c i Q := by
  -- on the rounds that are left; the invariant holds where one begins
  induction fuel generalizing v i with
  | zero => exact .failure
  | succ fuel ih =>
    refine (round v i holds).andThen ?_
    intro o rest goesOn
    cases o with
    | none => exact .pure goesOn
    | some w => exact ih goesOn

theorem repeated_reads {step : α → Parser (Option α)} {I Q : α → Input → Prop}
    (round : ∀ v i, I v i → Reads (step v) c i (Round I Q v)) {v : α} {i : Input}
    (holds : I v i) : Reads (repeated v step) c i Q := by
  refine context_reads.andThen ?_
  rintro context _ rfl
  exact loop_reads round _ holds

variable {i : Input} {a : Nat}

theorem markedList_reads {item : Parser Piece} (sound : Sound item) (s : String) {first : Piece}
    (forms : Forms a first i) :
    Reads (repeated [first] fun parts => do
      match ← mark? s with
      | none => return none
      | some m => return some ((← item) :: m :: parts)) c i
      fun parts rest => parts ≠ [] ∧ FormsRow a parts.reverse rest := by
  obtain ⟨b, at_, lies⟩ := forms
  refine repeated_reads (I := fun parts rest => parts ≠ [] ∧ FormsRow a parts.reverse rest) ?_
    ⟨by simp, b, at_, .single lies⟩
  rintro parts i ⟨some_, b, at_, row⟩
  refine (mark?_reads s at_).andThen ?_
  intro o rest read
  cases o with
  | none =>
    cases read
    exact .pure ⟨some_, b, at_, row⟩
  | some m =>
    obtain ⟨d, there, lies⟩ := read
    refine (sound there).andThen ?_
    rintro p rest ⟨e, behind, lies'⟩
    exact .pure ⟨by simp, e, behind, (row.push lies).push lies'⟩

theorem whole_or_parts {kind : Kind} (plain : Node.holdsValue kind = false) {parts : List Piece}
    (some_ : parts ≠ []) (row : FormsRow a parts i) :
    Reads (match parts with
      | [p] => pure p
      | parts => pure (Piece.ofParts kind parts)) c i (Forms a) := by
  obtain ⟨b, at_, row⟩ := row
  have lies := row.whole_or_parts plain some_
  match parts with
  | [p] => exact .pure ⟨b, at_, lies⟩
  | p :: q :: rest => exact .pure ⟨b, at_, lies⟩

/-- Pieces that are gathered with the last one first. -/
def Gathered (a : Nat) (parts : List Piece) (i : Input) : Prop := FormsRow a parts.reverse i

theorem gathered_reads {step : List Piece → Parser (Option (List Piece))} {parts : List Piece}
    (round : ∀ parts i, Gathered a parts i →
      Reads (step parts) c i (Round (Gathered a) (Gathered a) parts))
    (start : Gathered a parts i) : Reads (repeated parts step) c i (Gathered a) :=
  repeated_reads round start

theorem separated_reads {item : Parser Piece} (sound : Sound item) (close : String)
    (at_ : At i a) : Reads (separated item close) c i fun parts rest => FormsRow a parts.1 rest := by
  unfold separated
  refine Reads.andThen (P := fun s rest => FormsRow a s.1.reverse rest) ?_ ?_
  · refine repeated_reads (I := fun s rest => FormsRow a s.1.reverse rest) ?_ ⟨a, at_, .nil⟩
    rintro ⟨parts, closed, comma⟩ i ⟨b, at_, row⟩
    dsimp -zeta only
    split
    · exact .pure ⟨b, at_, row⟩
    · refine (mark?_reads close at_).andThen ?_
      intro o rest read
      cases o with
      | some closing =>
        obtain ⟨d, there, lies⟩ := read
        exact .pure ⟨d, there, row.push lies⟩
      | none =>
        cases read
        dsimp -zeta only
        -- a further piece, behind a comma, is read by the steps that read the first one
        extract_lets goesOn
        have item_ : Reads (goesOn ()) c i (Round (fun s rest => FormsRow a s.1.reverse rest)
            (fun s rest => FormsRow a s.1.reverse rest) (parts, closed, comma)) := by
          refine (sound at_).andThen ?_
          rintro p rest ⟨d, there, lies⟩
          refine (mark?_reads "," there).andThen ?_
          intro o rest' read
          cases o with
          | some comma =>
            obtain ⟨e, behind, lies'⟩ := read
            exact .pure ⟨e, behind, (row.push lies).push lies'⟩
          | none =>
            cases read
            exact .pure ⟨d, there, row.push lies⟩
        split
        · exact .stop
        · exact item_
  · rintro ⟨parts, closed, comma⟩ rest row
    dsimp only
    split
    · exact .pure row
    · exact .failure

theorem listFrom_reads {item : Parser Piece} (sound : Sound item) {first : Piece}
    (starts : Token → Bool) (forms : Forms a first i) :
    Reads (listFrom first starts item) c i fun parts rest => parts ≠ [] ∧ FormsRow a parts rest := by
  obtain ⟨b, at_, lies⟩ := forms
  unfold listFrom
  refine Reads.andThen (P := fun s rest => s.1 ≠ [] ∧ FormsRow a s.1.reverse rest) ?_ ?_
  · refine repeated_reads (I := fun s rest => s.1 ≠ [] ∧ FormsRow a s.1.reverse rest) ?_
      ⟨by simp, b, at_, .single lies⟩
    rintro ⟨parts, closed⟩ i ⟨some_, b, at_, row⟩
    dsimp only
    split
    · exact .pure ⟨some_, b, at_, row⟩
    · refine (mark?_reads "," at_).andThen ?_
      intro o rest read
      cases o with
      | none =>
        cases read
        exact .pure ⟨some_, b, at_, row⟩
      | some comma =>
        obtain ⟨d, there, lies⟩ := read
        refine ahead?_reads.andThen ?_
        rintro t rest' ⟨-, rfl⟩
        split
        · refine (sound there).andThen ?_
          rintro p rest ⟨e, behind, lies'⟩
          exact .pure ⟨by simp, e, behind, (row.push lies).push lies'⟩
        · exact .pure ⟨by simp, d, there, row.push lies⟩
  · rintro ⟨parts, closed⟩ rest ⟨some_, row⟩
    exact .pure ⟨by simpa using some_, row⟩

end Repeated

end PoolLint.Syntax.Parser
