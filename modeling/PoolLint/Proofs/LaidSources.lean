import PoolLint.Proofs.LaidStatements
import PoolLint.Syntax.Tree

/-! Statements with blocks fill the text they were read from, and so every tree of a source text is
laid out over it. A block is empty where no line is indented further; it then stands behind the colon
in front of it. -/
namespace PoolLint.Syntax.Grammar
open PoolLint.Syntax.Parser Piece

variable {self : Phrase → Parser Piece} (known : Known self)
include known

section Clause

theorem suite_reads {c : Context} {i : Input} {a : Nat} (at_ : At i a) (behind : 0 < a) :
    Reads (suite self) c i (Forms a) := by
  refine next_reads.andThen ?_
  rintro t i ⟨⟨ts, tokens⟩, rfl⟩
  split
  · refine width_reads.andThen ?_
    rintro width i ⟨rfl, rfl⟩
    split
    · rename_i further
      obtain ⟨goesOn, -⟩ := (Bool.and_eq_true _ _).mp further
      have starts : StartsLine { c with mode := .ends, width := t.indent } i :=
        ⟨t, ts, tokens, bne_iff_ne.mp goesOn, Nat.le_refl _⟩
      exact known.lines at_ (.inr starts)
    · refine input_reads.andThen ?_
      rintro v i ⟨rfl, rfl⟩
      have place := at_.last.resolve_left (Nat.ne_of_gt behind)
      have lies := Lies.empty .block i.last.span.stop
      rw [place] at lies
      exact .pure ⟨a, at_, lies⟩
  · refine (simpleLine_reads known at_).andThen ?_
    rintro parts i ⟨some_, b, at_, row⟩
    exact .pure ⟨b, at_, row.ofParts rfl some_⟩

theorem body_reads {c : Context} {i : Input} {a : Nat} (at_ : At i a) :
    Reads (body self) c i (FormsRow a) := by
  refine (inner_reads fun c => mark_marked ":" at_).andThen ?_
  rintro colon i ⟨t, rfl, text, stands, at_⟩
  -- the colon has a size, so an empty block behind it stands where a token ended
  have filled : 0 < t.span.stop.byte := by
    have size := stands.text
    have one : 0 < t.text.utf8ByteSize := by
      rw [text]
      decide
    omega
  refine (suite_reads known at_ filled).andThen ?_
  rintro block i ⟨b, at_, second⟩
  exact .pure ⟨b, at_, .cons (.ofToken stands .mark) (.single (second.as .body))⟩

omit known in
theorem startsClause_reads (word : String) {c : Context} {i : Input} :
    Reads (startsClause word) c i (Still i) := by
  refine next_reads.andThen ?_
  rintro t i ⟨-, rfl⟩
  refine width_reads.andThen ?_
  rintro width i ⟨-, rfl⟩
  exact .pure rfl

theorem plainClause?_reads (word : String) {kind : Kind} (plain : Node.holdsValue kind = false)
    {c : Context} {i : Input} {a : Nat} (at_ : At i a) :
    Reads (plainClause? self word kind) c i (Perhaps i (Forms a)) := by
  refine (startsClause_reads word).andThen ?_
  rintro starts i rfl
  split
  · refine (takeAs_reads .mark at_).andThen ?_
    rintro w i ⟨b, at_, first⟩
    refine (body_reads known at_).andThen ?_
    rintro body i ⟨d, at_, row⟩
    exact .pure ⟨d, at_, (first.build plain row).as .alternative⟩
  · exact .pure rfl

theorem elseClause?_reads {c : Context} {i : Input} {a : Nat} (at_ : At i a) :
    Reads (elseClause? self) c i (Perhaps i (Forms a)) := plainClause?_reads known "else" rfl at_

theorem conditional_reads (kind : Kind) {c : Context} {i : Input} {a : Nat} (at_ : At i a) :
    Reads (conditional self kind) c i fun r rest =>
      r.2 = kind ∧ r.1 ≠ [] ∧ FormsRow a r.1 rest := by
  refine (takeAs_reads .mark at_).andThen ?_
  rintro w i ⟨b, at_, first⟩
  refine (inner_reads fun c => known.expression true at_).andThen ?_
  rintro condition i ⟨d, at_, second⟩
  refine (body_reads known at_).andThen ?_
  rintro body i ⟨e, at_, row⟩
  exact .pure ⟨rfl, by simp, e, at_, .cons first (.cons (second.as .condition) row)⟩

theorem ifStatement_sound : Sound (ifStatement self) := by
  intro c i a at_
  refine (conditional_reads known .ifStatement at_).andThen ?_
  rintro ⟨head, _⟩ i ⟨-, some_, b, at_, headRow⟩
  refine (gathered_reads ?_ ⟨b, at_, .nil⟩).andThen ?_
  · rintro found i ⟨d, at_, row⟩
    refine (startsClause_reads "elif").andThen ?_
    rintro starts i rfl
    split
    · refine (conditional_reads known .elifClause at_).andThen ?_
      rintro ⟨parts, kind⟩ i ⟨isElif, some_, e, at_, parts'⟩
      cases isElif
      exact .pure ⟨e, at_, row.push ((parts'.ofParts rfl some_).as .alternative)⟩
    · exact .pure ⟨d, at_, row⟩
  · rintro elifs i ⟨d, at_, elifRow⟩
    refine (elseClause?_reads known at_).andThen ?_
    intro else_ i' read
    obtain ⟨e, at_, elseRow⟩ := read.row at_
    exact .pure ⟨e, at_, ((headRow.append elifRow).append elseRow).ofParts rfl (by simp [some_])⟩

theorem whileStatement_sound : Sound (whileStatement self) := by
  intro c i a at_
  refine (conditional_reads known .whileStatement at_).andThen ?_
  rintro ⟨head, kind⟩ i ⟨isWhile, some_, b, at_, headRow⟩
  cases isWhile
  refine (elseClause?_reads known at_).andThen ?_
  intro else_ i' read
  obtain ⟨d, at_, elseRow⟩ := read.row at_
  exact .pure ⟨d, at_, (headRow.append elseRow).ofParts rfl (by simp [some_])⟩

theorem exceptClause_sound : Sound (exceptClause self) := by
  intro c i a at_
  refine (takeAs_reads .mark at_).andThen ?_
  rintro w i ⟨b, at_, first⟩
  refine (inner_reads fun c => mark?_reads "*" at_).andThen ?_
  intro star i' read
  obtain ⟨d, at_, starRow⟩ := read.row at_
  refine Reads.andThen (P := FormsRow d) ?_ ?_
  · refine inner_reads fun c => (aheadMark_reads ":").andThen ?_
    rintro isOver i ⟨-, rfl⟩
    split
    · exact .pure ⟨d, at_, .nil⟩
    · refine (known.expression true at_).andThen ?_
      rintro value i ⟨e, at_, caught⟩
      refine (mark?_reads "," at_).andThen ?_
      intro o i' read
      cases o with
      | none =>
        cases read
        exact .pure ⟨e, at_, .single (caught.as .value)⟩
      | some comma =>
        obtain ⟨f, at_, between⟩ := read
        refine (known.expression true at_).andThen ?_
        rintro n i ⟨g, at_, last⟩
        exact .pure ⟨g, at_, .cons (caught.as .value) (.cons between (.single (last.as .newName)))⟩
  · rintro caught i ⟨e, at_, caughtRow⟩
    refine (body_reads known at_).andThen ?_
    rintro body i ⟨f, at_, bodyRow⟩
    have row := (((Row.single first).append starRow).append caughtRow).append bodyRow
    exact .pure ⟨f, at_, (row.ofParts rfl (by simp)).as .alternative⟩

theorem tryStatement_sound : Sound (tryStatement self) := by
  intro c i a at_
  refine (takeAs_reads .mark at_).andThen ?_
  rintro w i ⟨b, at_, first⟩
  refine (body_reads known at_).andThen ?_
  rintro body i ⟨d, at_, bodyRow⟩
  refine (gathered_reads ?_ ⟨d, at_, .nil⟩).andThen ?_
  · rintro found i ⟨e, at_, row⟩
    refine (startsClause_reads "except").andThen ?_
    rintro starts i rfl
    split
    · refine (exceptClause_sound known at_).andThen ?_
      rintro clause i ⟨f, at_, lies⟩
      exact .pure ⟨f, at_, row.push lies⟩
    · exact .pure ⟨e, at_, row⟩
  · rintro excepts i ⟨e, at_, exceptRow⟩
    extract_lets goesOn
    have behind (else_ : Option Piece) (i : Input) (row : FormsRow e else_.toList i) :
        Reads (goesOn else_) c i (Forms a) := by
      obtain ⟨f, at_, elseRow⟩ := row
      refine (plainClause?_reads known "finally" rfl at_).andThen ?_
      intro finally_ i' read
      obtain ⟨g, at_, finallyRow⟩ := read.row at_
      have clauses := (exceptRow.append elseRow).append finallyRow
      have row := ((Row.single first).append bodyRow).append clauses
      refine .ite .stop ?_
      exact .pure ⟨g, at_, row.ofParts rfl (by simp)⟩
    split
    · refine Reads.andThen ?_ behind
      exact .pure ⟨e, at_, .nil⟩
    · refine (elseClause?_reads known at_).andThen ?_
      intro else_ i' read
      exact behind else_ i' (read.row at_)

end Clause

section Definition

variable {c : Context} {i : Input} {a b : Nat} {async : List Piece} (asyncRow : Row a async b)
  (at_ : At i b)

theorem typeParameters?_reads {c : Context} {i : Input} {a : Nat} (at_ : At i a) :
    Reads (typeParameters? self) c i (FormsRow a) := by
  refine inner_reads fun c => (mark?_reads "[" at_).andThen ?_
  intro o i' read
  cases o with
  | none =>
    cases read
    exact .pure ⟨a, at_, .nil⟩
  | some opening =>
    obtain ⟨b, at_, opened⟩ := read
    refine .inMode fun c => (separated_reads (typeHint_sound known true) "]" at_).andThen ?_
    rintro ⟨parts, _⟩ i ⟨d, at_, row⟩
    exact .pure ⟨d, at_, .single (opened.build rfl row)⟩

theorem classDefinition_sound : Sound (classDefinition self) := by
  intro c i a at_
  refine (takeAs_reads .mark at_).andThen ?_
  rintro w i ⟨b, at_, first⟩
  refine (name_sound at_).andThen ?_
  rintro n i ⟨d, at_, second⟩
  refine (typeParameters?_reads known at_).andThen ?_
  rintro types i ⟨e, at_, typeRow⟩
  refine Reads.andThen (P := FormsRow e) ?_ ?_
  · refine inner_reads fun c => (aheadMark_reads "(").andThen ?_
    rintro isList i ⟨-, rfl⟩
    split
    · refine (arguments_sound known at_).andThen ?_
      rintro bases i ⟨f, at_, lies⟩
      split
      · exact .pure ⟨f, at_, .single (lies.as .arguments)⟩
      · exact .failure
    · exact .pure ⟨e, at_, .nil⟩
  · rintro bases i ⟨f, at_, baseRow⟩
    refine (body_reads known at_).andThen ?_
    rintro body i ⟨g, at_, bodyRow⟩
    have head : Row a [w, n.as .name] d := .cons first (.single (second.as .name))
    exact .pure ⟨g, at_, (((head.append typeRow).append baseRow).append bodyRow).ofParts rfl
      (by simp)⟩

include asyncRow at_

theorem forStatement_reads : Reads (forStatement self async) c i (Forms a) := by
  refine (takeAs_reads .mark at_).andThen ?_
  rintro w i ⟨d, at_, first⟩
  refine (inner_reads fun c => targetList_sound known at_).andThen ?_
  rintro left i ⟨e, at_, second⟩
  refine (inner_reads fun c => word_reads "in" at_).andThen ?_
  rintro in_ i ⟨f, at_, third⟩
  refine (inner_reads fun c => expressionList_sound known at_).andThen ?_
  rintro right i ⟨g, at_, fourth⟩
  refine (body_reads known at_).andThen ?_
  rintro body i ⟨h, at_, bodyRow⟩
  refine (elseClause?_reads known at_).andThen ?_
  intro else_ i' read
  obtain ⟨j, at_, elseRow⟩ := read.row at_
  have head : Row b [w, left.as .left, in_, right.as .right] g :=
    .cons first (.cons (second.as .left) (.cons third (.single (fourth.as .right))))
  exact .pure ⟨j, at_, (((asyncRow.append head).append bodyRow).append elseRow).ofParts rfl
    (by simp)⟩

theorem withStatement_reads : Reads (withStatement self async) c i (Forms a) := by
  refine (takeAs_reads .mark at_).andThen ?_
  rintro w i ⟨d, at_, first⟩
  have item : Sound (do
      return Piece.build .withItem ((← self (.expression true)).as .value) []) := by
    intro c i a at_
    refine (known.expression true at_).andThen ?_
    rintro value i ⟨b, at_, lies⟩
    exact .pure ⟨b, at_, (lies.as .value).build rfl .nil⟩
  refine Reads.andThen (P := fun items i => items ≠ [] ∧ FormsRow d items i) ?_ ?_
  · refine inner_reads fun c => (item at_).andThen ?_
    intro first i forms
    exact listFrom_reads item startsItem forms
  · rintro items i ⟨some_, e, at_, itemRow⟩
    refine (body_reads known at_).andThen ?_
    rintro body i ⟨f, at_, bodyRow⟩
    have head : Row b [w, Piece.ofParts .withClause items] e :=
      .cons first (.single (itemRow.ofParts rfl some_))
    exact .pure ⟨f, at_, ((asyncRow.append head).append bodyRow).ofParts rfl (by simp)⟩

theorem functionDefinition_reads : Reads (functionDefinition self async) c i (Forms a) := by
  refine (takeAs_reads .mark at_).andThen ?_
  rintro w i ⟨d, at_, first⟩
  refine (name_sound at_).andThen ?_
  rintro n i ⟨e, at_, second⟩
  refine (typeParameters?_reads known at_).andThen ?_
  rintro types i ⟨f, at_, typeRow⟩
  refine (inner_reads fun c => parameters_sound known at_).andThen ?_
  rintro parameters i ⟨g, at_, third⟩
  refine Reads.andThen (P := FormsRow g) ?_ ?_
  · refine inner_reads fun c => (mark?_reads "->" at_).andThen ?_
    intro o i' read
    cases o with
    | none =>
      cases read
      exact .pure ⟨g, at_, .nil⟩
    | some arrow =>
      obtain ⟨h, at_, arrowLies⟩ := read
      refine (typeHint_sound known false at_).andThen ?_
      rintro type i ⟨j, at_, typeLies⟩
      exact .pure ⟨j, at_, .cons arrowLies (.single (typeLies.as .type))⟩
  · rintro result i ⟨h, at_, resultRow⟩
    refine (body_reads known at_).andThen ?_
    rintro body i ⟨j, at_, bodyRow⟩
    have head : Row b [w, n.as .name] e := .cons first (.single (second.as .name))
    have signature := ((asyncRow.append head).append typeRow).append
      (.single (third.as .parameters))
    exact .pure ⟨j, at_, ((signature.append resultRow).append bodyRow).ofParts rfl (by simp)⟩

theorem asyncStatement?_reads {t : Token} {statement : Parser Piece}
    (found : asyncStatement? self async t = some statement) : Reads statement c i (Forms a) := by
  unfold asyncStatement? at found
  split at found
  · cases found
    exact functionDefinition_reads known asyncRow at_
  · split at found
    · cases found
      exact forStatement_reads known asyncRow at_
    · split at found
      · cases found
        exact withStatement_reads known asyncRow at_
      · cases found

end Definition

theorem decoratedDefinition_sound : Sound (decoratedDefinition self) := by
  intro c i a at_
  refine (gathered_reads ?_ ⟨a, at_, .nil⟩).andThen ?_
  · rintro found i ⟨b, at_, row⟩
    refine next_reads.andThen ?_
    rintro t i ⟨-, rfl⟩
    split
    · refine (takeAs_reads .mark at_).andThen ?_
      rintro mark i ⟨d, at_, first⟩
      refine (known.expression true at_).andThen ?_
      rintro value i ⟨e, at_, second⟩
      refine next_reads.andThen ?_
      rintro t i ⟨-, rfl⟩
      split
      · exact .pure ⟨e, at_, row.push (first.build rfl (.single (second.as .value)))⟩
      · exact .failure
    · exact .pure ⟨b, at_, row⟩
  · rintro decorators i ⟨b, at_, row⟩
    refine operand_reads.andThen ?_
    rintro t i rfl
    refine second?_reads.andThen ?_
    rintro s i rfl
    extract_lets goesOn
    have behind (definition : Piece) (i : Input) (forms : Forms b definition i) :
        Reads (goesOn definition) c i (Forms a) := by
      obtain ⟨d, at_, lies⟩ := forms
      exact .pure ⟨d, at_, (row.append (.single (lies.as .body))).ofParts rfl (by simp)⟩
    refine .ite ((classDefinition_sound known at_).andThen behind) ?_
    refine .ite ((functionDefinition_reads known .nil at_).andThen behind) ?_
    refine .ite ?_ .stop
    refine (takeAs_reads .mark at_).andThen ?_
    rintro async i ⟨d, at_, lies⟩
    exact (functionDefinition_reads known (.single lies) at_).andThen behind

section Match

theorem matchHead_head_reads {c : Context} {i : Input} {a : Nat} (at_ : At i a) :
    Reads (matchHead.head self) c i fun parts rest => FormsRow a parts rest ∧
      ∃ t ts, rest.tokens = t :: ts ∧ t.isWord "case" = true := by
  refine (takeAs_reads .mark at_).andThen ?_
  rintro w i ⟨b, at_, first⟩
  refine Reads.andThen (P := FormsRow b) ?_ ?_
  · refine inner_reads fun c => (known.expression true at_).andThen ?_
    rintro value i ⟨d, at_, lies⟩
    refine (listFrom_reads ((known.expression true).as .condition) startsItem
      ⟨d, at_, lies.as .condition⟩).mono ?_
    exact fun parts rest listed => listed.2
  · rintro subjects i ⟨d, at_, subjectRow⟩
    refine (inner_reads fun c => mark_reads ":" at_).andThen ?_
    rintro colon i ⟨e, at_, last⟩
    refine next_reads.andThen ?_
    rintro t i ⟨⟨ts, tokens⟩, rfl⟩
    refine width_reads.andThen ?_
    rintro width i ⟨-, rfl⟩
    split
    · rename_i isCase
      simp only [Bool.and_eq_true] at isCase
      exact .pure ⟨⟨e, at_, ((Row.single first).append subjectRow).append (.single last)⟩,
        t, ts, tokens, isCase.1.2⟩
    · exact .failure

/-- What is left where a match statement starts, or where none does. -/
theorem matchHead_reads {c : Context} {i : Input} {a : Nat} (at_ : At i a) :
    Reads (matchHead self) c i (Perhaps i fun parts rest => FormsRow a parts rest ∧
      ∃ t ts, rest.tokens = t :: ts ∧ t.isWord "case" = true) := by
  intro o rest read
  unfold matchHead at read
  split at read
  · rename_i parts _ found
    cases read
    exact matchHead_head_reads known at_ parts rest found
  · cases read
    rfl

theorem caseClause_sound : Sound (caseClause self) := by
  intro c i a at_
  refine (takeAs_reads .mark at_).andThen ?_
  rintro w i ⟨b, at_, first⟩
  refine Reads.andThen (P := FormsRow b) ?_ ?_
  · refine inner_reads fun c => (known.casePattern at_).andThen ?_
    intro pattern i forms
    exact (listFrom_reads known.casePattern _ forms).mono fun parts rest listed => listed.2
  · rintro patterns i ⟨d, at_, patternRow⟩
    refine Reads.andThen (P := FormsRow d) ?_ ?_
    · refine inner_reads fun c => (word?_reads "if" at_).andThen ?_
      intro o i' read
      cases o with
      | none =>
        cases read
        exact .pure ⟨d, at_, .nil⟩
      | some if_ =>
        obtain ⟨e, at_, second⟩ := read
        refine (known.expression true at_).andThen ?_
        rintro condition i ⟨f, at_, third⟩
        exact .pure ⟨f, at_, .single (second.build rfl (.single (third.as .condition)))⟩
    · rintro guard i ⟨e, at_, guardRow⟩
      refine (body_reads known at_).andThen ?_
      rintro body i ⟨f, at_, bodyRow⟩
      have row := (((Row.single first).append patternRow).append guardRow).append bodyRow
      exact .pure ⟨f, at_, row.ofParts rfl (by simp)⟩

theorem matchStatement_reads {c : Context} {i : Input} {a b : Nat} {head : List Piece}
    (headRow : Row a head b) (at_ : At i b)
    (starts : ∃ t ts, i.tokens = t :: ts ∧ t.isWord "case" = true) :
    Reads (matchStatement self head) c i (Forms a) := by
  obtain ⟨case_, ts, tokens, isCase⟩ := starts
  have notFinish : case_.kind ≠ .finish := by
    intro finish
    simp [Token.isWord, finish] at isCase
  refine next_reads.andThen ?_
  rintro t i ⟨⟨_, same⟩, rfl⟩
  rw [tokens] at same
  cases same
  extract_lets width
  refine Reads.andThen (P := fun found i => found ≠ [] ∧ FormsRow b found.reverse i) ?_ ?_
  · -- before the first round the next line starts with a case
    refine repeated_reads (I := fun found i => FormsRow b found.reverse i ∧ (found = [] →
      ∃ t ts, i.tokens = t :: ts ∧ t.kind ≠ .finish ∧ width ≤ t.indent)) ?_
      ⟨⟨b, at_, .nil⟩, fun _ => ⟨case_, ts, tokens, notFinish, Nat.le_refl _⟩⟩
    rintro found i ⟨⟨d, at_, row⟩, first⟩
    refine next_reads.andThen ?_
    rintro t i ⟨⟨ts, tokens⟩, rfl⟩
    split
    · rename_i ended
      refine .pure ⟨?_, d, at_, row⟩
      intro none
      obtain ⟨_, _, same, goesOn, further⟩ := first none
      rw [tokens] at same
      cases same
      simp [goesOn, Nat.not_lt.mpr further] at ended
    · split
      · refine (caseClause_sound known at_).andThen ?_
        rintro clause i ⟨e, at_, lies⟩
        exact .pure ⟨⟨e, at_, row.push lies⟩, nofun⟩
      · exact .failure
  · rintro cases i ⟨some_, d, at_, row⟩
    have block : (Piece.ofParts .block cases.reverse).Lies b d :=
      row.ofParts rfl (by simpa using some_)
    exact .pure ⟨d, at_, (headRow.append (.single (block.as .body))).ofParts rfl (by simp)⟩

end Match

omit known in
theorem alone_reads {p : Parser Piece} {c : Context} {i : Input} {a : Nat}
    (reads : Reads p c i (Forms a)) :
    Reads (do return [← p]) c i fun parts rest => parts ≠ [] ∧ FormsRow a parts rest := by
  refine reads.andThen ?_
  rintro statement i ⟨b, at_, lies⟩
  exact .pure ⟨by simp, b, at_, .single lies⟩

theorem statements_reads {c : Context} {i : Input} {a : Nat} (at_ : At i a) :
    Reads (statements self) c i fun parts rest => parts ≠ [] ∧ FormsRow a parts rest := by
  have line := simpleLine_reads known (c := c) at_
  refine operand_reads.andThen ?_
  rintro t i rfl
  refine .ite (alone_reads (decoratedDefinition_sound known at_)) ?_
  refine .ite (alone_reads (ifStatement_sound known at_)) ?_
  refine .ite (alone_reads (whileStatement_sound known at_)) ?_
  refine .ite (alone_reads (tryStatement_sound known at_)) ?_
  refine .ite (alone_reads (classDefinition_sound known at_)) ?_
  split
  · rename_i statement found
    exact alone_reads (asyncStatement?_reads known .nil at_ found)
  · refine .ite ?_ (.ite ?_ line)
    · refine second?_reads.andThen ?_
      rintro s i rfl
      split
      · refine (takeAs_reads .mark at_).andThen ?_
        rintro async i ⟨b, at_, lies⟩
        refine next_reads.andThen ?_
        rintro t i ⟨-, rfl⟩
        split
        · rename_i statement found
          exact alone_reads (asyncStatement?_reads known (.single lies) at_ found)
        · exact .failure
      · exact line
    · refine (matchHead_reads known at_).andThen ?_
      intro o i' read
      cases o with
      | none =>
        cases read
        exact line
      | some head =>
        obtain ⟨⟨b, at_, row⟩, starts⟩ := read
        exact alone_reads (matchStatement_reads known row at_ starts)

theorem lines_reads {c : Context} {i : Input} {a : Nat} (at_ : At i a)
    (starts : a = 0 ∨ StartsLine c i) : Reads (Grammar.lines self) c i (Forms a) := by
  refine width_reads.andThen ?_
  rintro width i ⟨rfl, rfl⟩
  -- no statement is read only at the start of the text: elsewhere the first line is one
  refine Reads.andThen (P := fun parts i => FormsRow a parts.reverse i ∧ (parts = [] → a = 0)) ?_ ?_
  · refine repeated_reads (I := fun parts i => FormsRow a parts.reverse i ∧
      (parts = [] → a = 0 ∨ StartsLine c i)) ?_ ⟨⟨a, at_, .nil⟩, fun _ => starts⟩
    rintro parts i ⟨⟨b, at_, row⟩, first⟩
    refine next_reads.andThen ?_
    rintro t i ⟨⟨ts, tokens⟩, rfl⟩
    split
    · rename_i ended
      refine .pure ⟨⟨b, at_, row⟩, ?_⟩
      intro none
      refine (first none).resolve_right ?_
      rintro ⟨_, _, same, goesOn, further⟩
      rw [tokens] at same
      cases same
      simp [goesOn, Nat.not_lt.mpr further] at ended
    · refine (statements_reads known at_).andThen ?_
      rintro more i ⟨some_, d, at_, moreRow⟩
      refine .pure ⟨⟨d, at_, ?_⟩, by simp [some_]⟩
      rw [List.reverse_append, List.reverse_reverse]
      exact row.append moreRow
  · rintro parts i ⟨⟨b, at_, row⟩, first⟩
    by_cases none : parts = []
    · -- a text without a statement
      cases none
      cases row
      cases first rfl
      exact .pure ⟨0, at_, Lies.empty .block Position.start⟩
    · exact .pure ⟨b, at_, row.ofParts rfl (by simpa using none)⟩

theorem phrase_known : Known (Grammar.phrase self) where
  expression := expression_sound known
  operation := operation_sound known
  assigned := assigned_sound known
  casePattern := casePattern_sound known
  lines := fun _ _ _ => lines_reads known

omit known in
theorem reader_known (depth : Nat) : Known (reader depth) := by
  -- each phrase is read by phrases of a smaller depth
  induction depth with
  | zero =>
    have none (phrase : Phrase) : Sound (reader 0 phrase) := fun _ _ _ _ => .failure
    exact ⟨fun _ => none _, fun _ => none _, none _, none _, fun _ _ _ _ _ => .failure⟩
  | succ depth ih => exact phrase_known ih

end Grammar

theorem Node.ofTokens?_laidOut {tokens : List Token} {stop : Nat}
    (chain : Token.Chain 0 tokens stop) {root : Node} (read : Node.ofTokens? tokens = some root) :
    root.LaidOut := by
  unfold Node.ofTokens? at read
  split at read
  · cases read
  · rename_i first rest
    dsimp only at read
    split at read
    · cases read
    · rename_i p left found
      have at_ : Parser.At ⟨first :: rest, first⟩ 0 := ⟨⟨stop, chain⟩, .inl rfl⟩
      obtain ⟨b, -, lies⟩ := (Grammar.reader_known _).lines at_ (.inl rfl) p left found
      split at read
      · cases read
        exact lies.laid.withKind rfl
      · cases read

/-- The tree of a source text is laid out over it. -/
theorem Node.ofText?_laidOut {cs : List Char} {root : Node} (read : Node.ofText? cs = some root) :
    root.LaidOut := by
  obtain ⟨tokens, words, parsed⟩ := Option.bind_eq_some_iff.mp read
  obtain ⟨stop, chain⟩ := Token.read?_chain words
  exact Node.ofTokens?_laidOut chain parsed

end PoolLint.Syntax
