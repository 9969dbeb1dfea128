import PoolLint.Proofs.LaidPhrases
import PoolLint.Syntax.Grammar.Collection

/-! What is read in brackets fills the text it was read from. -/
namespace PoolLint.Syntax.Grammar
open PoolLint.Syntax.Parser Piece

variable {self : Phrase → Parser Piece} (known : Known self)
include known

theorem targetList_sound : Sound (targetList self) := by
  intro c i a at_
  refine (known.operation 9 at_).andThen ?_
  intro first i forms
  refine (listFrom_reads (known.operation 9) startsItem forms).andThen ?_
  rintro parts i ⟨some_, b, at_, row⟩
  extract_lets targets
  have lies : targets.Lies a b := row.whole_or_parts rfl some_
  split
  · exact .pure ⟨b, at_, lies⟩
  · exact .failure

omit known in
theorem startsLoop_reads {c : Context} {i : Input} : Reads startsLoop c i (Still i) := by
  refine ahead?_reads.andThen ?_
  rintro o i ⟨-, rfl⟩
  cases o with
  | none => exact .pure rfl
  | some t =>
    dsimp only
    split
    · exact .pure rfl
    · split
      · refine second?_reads.andThen ?_
        rintro s i rfl
        exact .pure rfl
      · exact .pure rfl

theorem forInClause_sound : Sound (forInClause self) := by
  intro c i a at_
  refine (word?_reads "async" at_).andThen ?_
  intro async i' read
  obtain ⟨b, at_, asyncRow⟩ := read.row at_
  refine (word_reads "for" at_).andThen ?_
  rintro for_ i ⟨d, at_, first⟩
  refine (targetList_sound known at_).andThen ?_
  rintro left i ⟨e, at_, second⟩
  refine (word_reads "in" at_).andThen ?_
  rintro in_ i ⟨f, at_, third⟩
  refine (known.expression false at_).andThen ?_
  rintro value i ⟨g, at_, fourth⟩
  refine (listFrom_reads ((known.expression false).as .right) startsItem
    ⟨g, at_, fourth.as .right⟩).andThen ?_
  rintro right i ⟨-, h, at_, values⟩
  have head : Row b [for_, left.as .left, in_] f :=
    .cons first (.cons (second.as .left) (.single third))
  exact .pure ⟨h, at_, ((asyncRow.append head).append values).ofParts rfl (by simp)⟩

theorem comprehensionClauses_reads {c : Context} {i : Input} {a : Nat} (at_ : At i a) :
    Reads (comprehensionClauses self) c i (FormsRow a) := by
  refine (forInClause_sound known at_).andThen ?_
  rintro first i ⟨b, at_, lies⟩
  refine (gathered_reads ?_ ⟨b, at_, .single lies⟩).andThen fun _ _ row => .pure row
  rintro parts i ⟨d, at_, row⟩
  refine startsLoop_reads.andThen ?_
  rintro isLoop i rfl
  split
  · refine (forInClause_sound known at_).andThen ?_
    rintro next i ⟨e, at_, lies⟩
    exact .pure ⟨e, at_, row.push lies⟩
  · refine (word?_reads "if" at_).andThen ?_
    intro o i' read
    cases o with
    | none =>
      cases read
      exact .pure ⟨d, at_, row⟩
    | some if_ =>
      obtain ⟨e, at_, first⟩ := read
      refine (known.expression false at_).andThen ?_
      rintro condition i ⟨f, at_, second⟩
      exact .pure ⟨f, at_, row.push (first.build rfl (.single (second.as .condition)))⟩

section Opened

variable {c : Context} {i : Input} {a b : Nat} {opening first : Piece} (opened : opening.Lies a b)
include opened

theorem comprehension_reads {kind : Kind} (plain : Node.holdsValue kind = false)
    (body : Forms b first i) (close : String) :
    Reads (comprehension self kind opening first close) c i (Forms a) := by
  obtain ⟨d, at_, body⟩ := body
  refine (comprehensionClauses_reads known at_).andThen ?_
  rintro clauses i ⟨e, at_, row⟩
  refine (mark_reads close at_).andThen ?_
  rintro closing i ⟨f, at_, last⟩
  exact .pure ⟨f, at_, opened.build plain (.cons (body.as .body) (row.append (.single last)))⟩

omit known in
theorem listed_reads {item : Parser Piece} (sound : Sound item) {kind single : Kind}
    (plain : Node.holdsValue kind = false) (plain' : Node.holdsValue single = false)
    (element : Forms b first i) (close : String) :
    Reads (do
      match ← mark? "," with
      | none => return Piece.build single opening [first, ← mark close]
      | some comma =>
        let (parts, _) ← separated item close
        return Piece.build kind opening (first :: comma :: parts)) c i (Forms a) := by
  obtain ⟨d, at_, lies⟩ := element
  refine (mark?_reads "," at_).andThen ?_
  intro o i' read
  cases o with
  | none =>
    cases read
    refine (mark_reads close at_).andThen ?_
    rintro closing i ⟨e, at_, last⟩
    exact .pure ⟨e, at_, opened.build plain' (.cons lies (.single last))⟩
  | some comma =>
    obtain ⟨e, at_, comma⟩ := read
    refine (separated_reads sound close at_).andThen ?_
    rintro ⟨parts, _⟩ i ⟨f, at_, row⟩
    exact .pure ⟨f, at_, opened.build plain (.cons lies (.cons comma row))⟩

theorem collection_reads {kind single : Kind} (plain : Node.holdsValue kind = false)
    (plain' : Node.holdsValue single = false) (element : Forms b first i) (close : String) :
    Reads (collection self kind single opening first close) c i (Forms a) :=
  listed_reads opened (element_sound known) plain plain' element close

end Opened

/-- What stands in brackets: nothing, a comprehension or a list of elements. -/
theorem bracketed_reads {kind single generator : Kind} (plain : Node.holdsValue kind = false)
    (plain' : Node.holdsValue single = false) (plain'' : Node.holdsValue generator = false)
    (close : String) {c : Context} {i : Input} {a : Nat} (at_ : At i a) :
    Reads (do
      let opening ← takeAs .mark
      inMode .bracketed do
        match ← mark? close with
        | some closing => return Piece.build kind opening [closing]
        | none =>
          let first ← element self
          if ← startsLoop then comprehension self generator opening first close
          else collection self kind single opening first close) c i (Forms a) := by
  refine (takeAs_reads .mark at_).andThen ?_
  rintro opening i ⟨b, at_, opened⟩
  refine .inMode fun c => (mark?_reads close at_).andThen ?_
  intro o i' read
  cases o with
  | some closing =>
    obtain ⟨d, at_, last⟩ := read
    exact .pure ⟨d, at_, opened.build plain (.single last)⟩
  | none =>
    cases read
    refine (element_sound known at_).andThen ?_
    intro first i forms
    refine startsLoop_reads.andThen ?_
    rintro isLoop i rfl
    split
    · exact comprehension_reads known opened plain'' forms close
    · exact collection_reads known opened plain plain' forms close

theorem parenthesized_sound : Sound (parenthesized self) := fun _ _ _ at_ =>
  bracketed_reads known rfl rfl rfl ")" at_

theorem bracketed_sound : Sound (bracketed self) := fun _ _ _ at_ =>
  bracketed_reads known rfl rfl rfl "]" at_

theorem pairFrom_reads {c : Context} {i : Input} {a : Nat} {key : Piece} (forms : Forms a key i) :
    Reads (pairFrom self key) c i (Forms a) := by
  obtain ⟨b, at_, first⟩ := forms
  refine (mark_marked ":" at_).andThen ?_
  rintro colon i ⟨t, rfl, text, stands, at_⟩
  refine (known.expression true at_).andThen ?_
  rintro value i ⟨d, at_, third⟩
  have filled : 0 < t.text.utf8ByteSize := by
    rw [text]
    decide
  exact .pure ⟨d, at_, first.buildValue .pair nofun stands filled third⟩

theorem recordEntry_sound : Sound (recordEntry self) := by
  intro c i a at_
  refine operand_reads.andThen ?_
  rintro t i rfl
  split
  · exact marked_reads (known.expression true) rfl at_
  · refine (known.expression true at_).andThen ?_
    intro key i forms
    exact pairFrom_reads known forms

theorem record_reads {c : Context} {i : Input} {a b : Nat} {opening first : Piece}
    (opened : opening.Lies a b) (entry : Forms b first i) :
    Reads (record self opening first) c i (Forms a) :=
  listed_reads opened (recordEntry_sound known) rfl rfl entry "\x7d"

omit known in
theorem nothing?_reads (close : String) {c : Context} {i : Input} {a : Nat} (at_ : At i a) :
    Reads (nothing? close) c i (Perhaps i (FormsRow a)) := by
  refine (mark?_reads close at_).andThen ?_
  intro o i' read
  cases o with
  | some closing =>
    obtain ⟨b, at_, lies⟩ := read
    exact .pure ⟨b, at_, .single lies⟩
  | none =>
    cases read
    refine (mark?_reads "," at_).andThen ?_
    intro o i' read
    cases o with
    | some comma =>
      obtain ⟨b, at_, first⟩ := read
      refine (mark_reads close at_).andThen ?_
      rintro closing i ⟨d, at_, second⟩
      exact .pure ⟨d, at_, .cons first (.single second)⟩
    | none =>
      cases read
      exact .pure rfl

theorem braced_sound : Sound (braced self) := by
  intro c i a at_
  refine (takeAs_reads .mark at_).andThen ?_
  rintro opening i ⟨b, at_, opened⟩
  refine .inMode fun c => (nothing?_reads "\x7d" at_).andThen ?_
  intro o i' read
  cases o with
  | some parts =>
    obtain ⟨d, at_, row⟩ := read
    exact .pure ⟨d, at_, opened.build rfl row⟩
  | none =>
    cases read
    refine operand_reads.andThen ?_
    rintro t i rfl
    split
    · refine (recordEntry_sound known at_).andThen ?_
      intro entry i forms
      exact record_reads known opened forms
    · refine (element_sound known at_).andThen ?_
      intro first i forms
      refine (aheadMark_reads ":").andThen ?_
      rintro isPair i ⟨-, rfl⟩
      split
      · refine (pairFrom_reads known forms).andThen ?_
        intro pair i forms
        refine startsLoop_reads.andThen ?_
        rintro isLoop i rfl
        split
        · exact comprehension_reads known opened rfl forms "\x7d"
        · exact record_reads known opened forms
      · refine startsLoop_reads.andThen ?_
        rintro isLoop i rfl
        split
        · exact comprehension_reads known opened rfl forms "\x7d"
        · exact collection_reads known opened rfl rfl forms "\x7d"

theorem argument_sound : Sound (argument self) := by
  intro c i a at_
  refine operand_reads.andThen ?_
  rintro t i rfl
  split
  · exact marked_reads (known.expression true) rfl at_
  · split
    · exact marked_reads (known.expression true) rfl at_
    · refine second?_reads.andThen ?_
      rintro s i rfl
      split
      · refine (name_sound at_).andThen ?_
        rintro n i ⟨b, at_, first⟩
        refine (mark_marked "=" at_).andThen ?_
        rintro equals i ⟨t, rfl, text, stands, at_⟩
        refine (known.expression true at_).andThen ?_
        rintro value i ⟨d, at_, third⟩
        have filled : 0 < t.text.utf8ByteSize := by
          rw [text]
          decide
        exact .pure ⟨d, at_, first.buildValue .keywordArgument nofun stands filled third⟩
      · exact known.expression true at_

theorem arguments_sound : Sound (arguments self) := by
  intro c i a at_
  refine (mark_reads "(" at_).andThen ?_
  rintro opening i ⟨b, at_, opened⟩
  refine .inMode fun c => (nothing?_reads ")" at_).andThen ?_
  intro o i' read
  cases o with
  | some parts =>
    obtain ⟨d, at_, row⟩ := read
    exact .pure ⟨d, at_, opened.build rfl row⟩
  | none =>
    cases read
    refine (argument_sound known at_).andThen ?_
    intro first i forms
    refine startsLoop_reads.andThen ?_
    rintro isLoop i rfl
    split
    · split
      · exact .failure
      · exact .failure
      · exact .failure
      · exact comprehension_reads known opened rfl forms ")"
    · exact listed_reads opened (argument_sound known) rfl rfl forms ")"

end PoolLint.Syntax.Grammar
