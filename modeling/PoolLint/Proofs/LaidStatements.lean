import PoolLint.Proofs.LaidExpressions
import PoolLint.Syntax.Grammar.Simple

/-! Case patterns and statements of one line fill the text they were read from. -/
namespace PoolLint.Syntax.Grammar
open PoolLint.Syntax.Parser Piece

variable {self : Phrase → Parser Piece} (known : Known self)

section Pattern

theorem dottedName_sound : Sound dottedName := by
  intro c i a at_
  refine (name_sound at_).andThen ?_
  intro first i forms
  refine (markedList_reads name_sound "." forms).andThen ?_
  rintro parts i ⟨some_, row⟩
  exact whole_or_parts rfl (by simpa using some_) row

theorem numberPattern_number_sound : Sound numberPattern.number := by
  intro c i a at_
  refine operand_reads.andThen ?_
  rintro t i rfl
  split
  · exact takeAs_reads _ at_
  · exact takeAs_reads _ at_
  · exact .failure

theorem numberPattern_sound : Sound numberPattern := by
  intro c i a at_
  refine (mark?_reads "-" at_).andThen ?_
  intro sign i' read
  obtain ⟨b, at_, signRow⟩ := read.row at_
  refine (numberPattern_number_sound at_).andThen ?_
  rintro real i ⟨d, at_, first⟩
  extract_lets value
  have lies : value.Lies a d := by
    cases sign with
    | none =>
      cases signRow
      exact first
    | some sign =>
      cases signRow with
      | cons here rest =>
        cases rest
        exact (here.as .operator).build rfl (.single (first.as .operand))
  refine ahead?_reads.andThen ?_
  rintro o i ⟨-, rfl⟩
  cases o with
  | none => exact .pure ⟨d, at_, lies⟩
  | some t =>
    dsimp only
    split
    · refine (takeAs_reads .mark at_).andThen ?_
      rintro operator i ⟨e, at_, second⟩
      refine (numberPattern_number_sound at_).andThen ?_
      rintro right i ⟨f, at_, third⟩
      exact .pure ⟨f, at_, (lies.as .left).build rfl
        (.cons (second.as .operator) (.single (third.as .right)))⟩
    · exact .pure ⟨d, at_, lies⟩

include known

theorem keyValuePattern_sound {single : Parser Piece} (sound : Sound single) :
    Sound (keyValuePattern self single) := by
  intro c i a at_
  refine operand_reads.andThen ?_
  rintro t i rfl
  split
  · exact marked_reads name_sound rfl at_
  · refine (sound at_).andThen ?_
    rintro key i ⟨b, at_, first⟩
    refine (mark_reads ":" at_).andThen ?_
    rintro colon i ⟨d, at_, second⟩
    refine (known.casePattern at_).andThen ?_
    rintro value i ⟨e, at_, third⟩
    exact .pure ⟨e, at_, (first.as .key).build rfl (.cons second (.single (third.as .value)))⟩

theorem namedPattern_sound : Sound (namedPattern self) := by
  intro c i a at_
  refine operand_reads.andThen ?_
  rintro t i rfl
  split
  · exact takeAs_reads .none at_
  · split
    · exact takeAs_reads .true at_
    · split
      · exact takeAs_reads .false at_
      · refine (dottedName_sound at_).andThen ?_
        rintro n i ⟨b, at_, first⟩
        refine (mark?_reads "(" at_).andThen ?_
        intro o i' read
        cases o with
        | none =>
          cases read
          exact .pure ⟨b, at_, first⟩
        | some opening =>
          obtain ⟨d, at_, second⟩ := read
          refine .inMode fun c => (separated_reads known.casePattern ")" at_).andThen ?_
          rintro ⟨parts, _⟩ i ⟨e, at_, row⟩
          exact .pure ⟨e, at_, (first.as .name).build rfl (.cons second row)⟩

theorem singlePattern_sound (fuel : Nat) : Sound (singlePattern self fuel) := by
  induction fuel with
  | zero =>
    intro c i a at_
    exact .failure
  | succ fuel ih =>
    intro c i a at_
    refine operand_reads.andThen ?_
    rintro t i rfl
    split
    · exact marked_reads name_sound rfl at_
    · split
      · refine (takeAs_reads .mark at_).andThen ?_
        rintro opening i ⟨b, at_, opened⟩
        refine .inMode fun c => (separated_reads known.casePattern _ at_).andThen ?_
        rintro ⟨parts, _⟩ i ⟨d, at_, row⟩
        refine .pure ⟨d, at_, opened.build ?_ row⟩
        split <;> rfl
      · split
        · refine (takeAs_reads .mark at_).andThen ?_
          rintro opening i ⟨b, at_, opened⟩
          have entry := keyValuePattern_sound known ih
          refine .inMode fun c => (separated_reads entry "\x7d" at_).andThen ?_
          rintro ⟨parts, _⟩ i ⟨d, at_, row⟩
          exact .pure ⟨d, at_, opened.build rfl row⟩
        · split
          · exact joinedQuoted_sound known at_
          · exact namedPattern_sound known at_
          · exact numberPattern_sound at_

theorem unionPattern_sound : Sound (unionPattern self) := by
  intro c i a at_
  refine context_reads.andThen ?_
  rintro context _ rfl
  have sound := singlePattern_sound known context.bound
  refine (sound at_).andThen ?_
  intro first i forms
  refine (markedList_reads sound "|" forms).andThen ?_
  rintro parts i ⟨some_, row⟩
  exact whole_or_parts rfl (by simpa using some_) row

theorem casePattern_sound : Sound (Grammar.casePattern self) := by
  intro c i a at_
  refine operand_reads.andThen ?_
  rintro t i rfl
  refine second?_reads.andThen ?_
  rintro s i rfl
  split
  · refine (name_sound at_).andThen ?_
    rintro n i ⟨b, at_, first⟩
    refine (mark_reads "=" at_).andThen ?_
    rintro equals i ⟨d, at_, second⟩
    refine (unionPattern_sound known at_).andThen ?_
    rintro value i ⟨e, at_, third⟩
    exact .pure ⟨e, at_, (first.as .name).build rfl (.cons second (.single (third.as .value)))⟩
  · refine (unionPattern_sound known at_).andThen ?_
    rintro value i ⟨b, at_, first⟩
    refine (word?_reads "as" at_).andThen ?_
    intro o i' read
    cases o with
    | none =>
      cases read
      exact .pure ⟨b, at_, first⟩
    | some as_ =>
      obtain ⟨d, at_, second⟩ := read
      refine (name_sound at_).andThen ?_
      rintro n i ⟨e, at_, third⟩
      exact .pure ⟨e, at_, (first.as .value).build rfl
        (.cons second (.single (third.as .newName)))⟩

end Pattern

theorem isOver_reads {c : Context} {i : Input} : Reads isOver c i (Still i) := by
  refine ahead?_reads.andThen ?_
  rintro t i ⟨-, rfl⟩
  exact .pure rfl

theorem wordWithList_reads {item : Parser Piece} (sound : Sound item) {kind : Kind}
    (plain : Node.holdsValue kind = false) {c : Context} {i : Input} {a : Nat} (at_ : At i a) :
    Reads (do
      let w ← takeAs .mark
      let first ← item
      let parts ← repeated [first] fun parts => do
        match ← mark? "," with
        | none => return none
        | some comma => return some ((← item) :: comma :: parts)
      return Piece.build kind w parts.reverse) c i (Forms a) := by
  refine (takeAs_reads .mark at_).andThen ?_
  rintro w i ⟨b, at_, lies⟩
  refine (sound at_).andThen ?_
  intro first i forms
  refine (markedList_reads sound "," forms).andThen ?_
  rintro parts i ⟨-, d, at_, row⟩
  exact .pure ⟨d, at_, lies.build plain row⟩

theorem wordWithNames_reads {kind : Kind} (plain : Node.holdsValue kind = false) :
    Sound (wordWithNames kind) := fun _ _ _ at_ => wordWithList_reads name_sound plain at_

section Imports

theorem moduleName_sound : Sound moduleName := by
  intro c i a at_
  refine (dottedName_sound at_).andThen ?_
  rintro n i ⟨b, at_, lies⟩
  split
  · exact .pure ⟨b, at_, lies⟩
  · exact .pure ⟨b, at_, lies.build rfl .nil⟩

theorem importItem_sound : Sound importItem := by
  intro c i a at_
  refine (moduleName_sound at_).andThen ?_
  rintro n i ⟨b, at_, first⟩
  refine (word?_reads "as" at_).andThen ?_
  intro o i' read
  cases o with
  | none =>
    cases read
    exact .pure ⟨b, at_, first.as .name⟩
  | some as_ =>
    obtain ⟨d, at_, second⟩ := read
    refine (name_sound at_).andThen ?_
    rintro newName i ⟨e, at_, third⟩
    have row : Row b [as_, newName.as .newName] e := .cons second (.single (third.as .newName))
    exact .pure ⟨e, at_, ((first.as .name).build rfl row).as .name⟩

theorem importList_reads {c : Context} {i : Input} {a : Nat} (at_ : At i a) :
    Reads importList c i (FormsRow a) := by
  refine (importItem_sound at_).andThen ?_
  intro first i forms
  exact (listFrom_reads importItem_sound _ forms).mono fun parts rest listed => listed.2

theorem importStatement_sound : Sound importStatement := by
  intro c i a at_
  refine (takeAs_reads .mark at_).andThen ?_
  rintro w i ⟨b, at_, first⟩
  refine (importList_reads at_).andThen ?_
  rintro parts i ⟨d, at_, row⟩
  exact .pure ⟨d, at_, first.build rfl row⟩

theorem importSource_sound : Sound importSource := by
  intro c i a at_
  refine (gathered_reads ?_ ⟨a, at_, .nil⟩).andThen ?_
  · rintro dots i ⟨b, at_, row⟩
    refine operand_reads.andThen ?_
    rintro t i rfl
    split
    · refine (takeAs_reads .mark at_).andThen ?_
      rintro dot i ⟨d, at_, lies⟩
      exact .pure ⟨d, at_, row.push lies⟩
    · exact .pure ⟨b, at_, row⟩
  · rintro dots i ⟨b, at_, row⟩
    split
    · rename_i empty
      rw [List.isEmpty_iff.mp empty] at row
      cases row
      exact moduleName_sound at_
    · rename_i filled
      have some_ : dots ≠ [] := fun none => filled (List.isEmpty_iff.mpr none)
      refine operand_reads.andThen ?_
      rintro t i rfl
      split
      · exact .pure ⟨b, at_, row.ofParts rfl (by simpa using some_)⟩
      · refine (moduleName_sound at_).andThen ?_
        rintro n i ⟨d, at_, lies⟩
        exact .pure ⟨d, at_, (row.append (.single lies)).ofParts rfl (by simp)⟩

theorem importFromStatement_sound : Sound importFromStatement := by
  intro c i a at_
  refine (takeAs_reads .mark at_).andThen ?_
  rintro w i ⟨b, at_, first⟩
  refine (inner_reads fun c => importSource_sound at_).andThen ?_
  rintro source i ⟨d, at_, second⟩
  refine (inner_reads fun c => word_reads "import" at_).andThen ?_
  rintro import_ i ⟨e, at_, third⟩
  extract_lets kind head
  have plain : Node.holdsValue kind = false := by
    simp only [kind]
    split <;> rfl
  have headRow : Row b head e := .cons (second.as .moduleName) (.single third)
  refine operand_reads.andThen ?_
  rintro t i rfl
  split
  · refine (takeAs_reads .mark at_).andThen ?_
    rintro star i ⟨f, at_, lies⟩
    have all : (Piece.build .wildcardImport star []).Lies e f := lies.build rfl .nil
    exact .pure ⟨f, at_, first.build plain (headRow.append (.single all))⟩
  · split
    · refine (takeAs_reads .mark at_).andThen ?_
      rintro opening i ⟨f, at_, opened⟩
      refine .inMode fun c => (importList_reads at_).andThen ?_
      rintro items i ⟨g, at_, row⟩
      refine (mark_reads ")" at_).andThen ?_
      rintro closing i ⟨h, at_, last⟩
      have parts := ((headRow.append (.single opened)).append row).append (.single last)
      exact .pure ⟨h, at_, first.build plain parts⟩
    · refine (importList_reads at_).andThen ?_
      rintro items i ⟨f, at_, row⟩
      exact .pure ⟨f, at_, first.build plain (headRow.append row)⟩

end Imports

theorem startsCommand_reads {c : Context} {i : Input} : Reads startsCommand c i (Still i) := by
  refine input_reads.andThen ?_
  rintro v i ⟨rfl, rfl⟩
  repeat' split
  all_goals exact .pure rfl

theorem startsDeclaration_reads {c : Context} {i : Input} :
    Reads startsDeclaration c i (Still i) := by
  refine second?_reads.andThen ?_
  rintro s i rfl
  exact .pure rfl

include known

theorem assignedValue_sound : Sound (assignedValue self) := by
  intro c i a at_
  refine operand_reads.andThen ?_
  rintro t i rfl
  split
  · exact yieldPhrase_sound known at_
  · exact known.assigned at_

theorem assignment_reads {kind : Kind} (plain : Node.holdsValue kind = false)
    {roled : Piece → Piece} (same : ∀ {p a b}, Piece.Lies p a b → (roled p).Lies a b)
    {c : Context} {i : Input} {a b : Nat} {left : Piece} (first : left.Lies a b) (at_ : At i b) :
    Reads (do
      let mark ← takeAs .mark
      let right ← assignedValue self
      return Piece.build kind (left.as .left) [roled mark, right.as .right]) c i (Forms a) := by
  refine (takeAs_reads .mark at_).andThen ?_
  rintro mark i ⟨d, at_, second⟩
  refine (assignedValue_sound known at_).andThen ?_
  rintro right i ⟨e, at_, third⟩
  exact .pure ⟨e, at_, (first.as .left).build plain
    (.cons (same second) (.single (third.as .right)))⟩

theorem assigned_sound : Sound (Grammar.assigned self) := by
  intro c i a at_
  refine (expressionList_sound known at_).andThen ?_
  rintro left i ⟨b, at_, first⟩
  refine ahead?_reads.andThen ?_
  rintro o i ⟨-, rfl⟩
  cases o with
  | none => exact .pure ⟨b, at_, first⟩
  | some t =>
    dsimp -zeta only
    split
    · split
      · exact .stop
      · exact assignment_reads known rfl id first at_
    · split
      · split
        · exact .stop
        · refine (takeAs_reads .mark at_).andThen ?_
          rintro colon i ⟨d, at_, second⟩
          refine (typeHint_sound known true at_).andThen ?_
          rintro type i ⟨e, at_, third⟩
          refine (mark?_reads "=" at_).andThen ?_
          intro o i' read
          cases o with
          | none =>
            cases read
            exact .pure ⟨e, at_, (first.as .left).build rfl
              (.cons second (.single (third.as .type)))⟩
          | some equals =>
            obtain ⟨f, at_, fourth⟩ := read
            refine (assignedValue_sound known at_).andThen ?_
            rintro right i ⟨g, at_, fifth⟩
            exact .pure ⟨g, at_, (first.as .left).build rfl
              (.cons second (.cons (third.as .type) (.cons fourth (.single (fifth.as .right)))))⟩
      · split
        · split
          · exact .stop
          · exact assignment_reads known rfl (fun lies => lies.as .operator) first at_
        · exact .pure ⟨b, at_, first⟩

theorem expressionStatement_sound : Sound (expressionStatement self) := by
  intro c i a at_
  refine operand_reads.andThen ?_
  rintro t i rfl
  extract_lets goesOn
  have behind (value : Piece) (i : Input) (forms : Forms a value i) :
      Reads (goesOn value) c i (Forms a) := by
    obtain ⟨b, at_, lies⟩ := forms
    exact .pure ⟨b, at_, lies.build rfl .nil⟩
  split
  · exact (yieldPhrase_sound known at_).andThen behind
  · exact (known.assigned at_).andThen behind

theorem wordWithValues_reads {kind : Kind} (plain : Node.holdsValue kind = false) {c : Context}
    {i : Input} {a b : Nat} {w : Piece} (first : w.Lies a b) (at_ : At i b) :
    Reads (do return Piece.build kind w [(← expressionList self).as .value]) c i (Forms a) := by
  refine (expressionList_sound known at_).andThen ?_
  rintro value i ⟨d, at_, second⟩
  exact .pure ⟨d, at_, first.build plain (.single (second.as .value))⟩

theorem wordWithValue_reads {kind : Kind} (plain : Node.holdsValue kind = false) :
    Sound (wordWithValue self kind) := by
  intro c i a at_
  refine (takeAs_reads .mark at_).andThen ?_
  rintro w i ⟨b, at_, first⟩
  refine isOver_reads.andThen ?_
  rintro isOver i rfl
  split
  · exact .pure ⟨b, at_, first.build plain .nil⟩
  · exact wordWithValues_reads known plain first at_

theorem deleteStatement_sound : Sound (deleteStatement self) := by
  intro c i a at_
  refine (takeAs_reads .mark at_).andThen ?_
  rintro w i ⟨b, at_, first⟩
  exact wordWithValues_reads known rfl first at_

theorem raiseStatement_sound : Sound (raiseStatement self) := by
  intro c i a at_
  refine (takeAs_reads .mark at_).andThen ?_
  rintro w i ⟨b, at_, first⟩
  refine ahead?_reads.andThen ?_
  rintro o i ⟨-, rfl⟩
  extract_lets goesOn
  have behindValue (value : List Piece) (i : Input) (row : FormsRow b value i) :
      Reads (goesOn value) c i (Forms a) := by
    obtain ⟨d, at_, valueRow⟩ := row
    refine (word?_reads "from" at_).andThen ?_
    intro o i' read
    extract_lets goesOn
    have behindCause (cause : List Piece) (i : Input) (row : FormsRow d cause i) :
        Reads (goesOn cause) c i (Forms a) := by
      obtain ⟨e, at_, causeRow⟩ := row
      exact .pure ⟨e, at_, first.build rfl (valueRow.append causeRow)⟩
    cases o with
    | none =>
      cases read
      refine Reads.andThen ?_ behindCause
      exact .pure ⟨d, at_, .nil⟩
    | some from_ =>
      obtain ⟨e, at_, second⟩ := read
      refine (known.expression true at_).andThen ?_
      rintro right i ⟨f, at_, third⟩
      refine Reads.andThen ?_ behindCause
      exact .pure ⟨f, at_, .cons second (.single (third.as .right))⟩
  split
  · refine Reads.andThen ?_ behindValue
    refine .map ((expressionList_sound known at_).mono ?_)
    rintro value i ⟨d, at_, lies⟩
    exact ⟨d, at_, .single (lies.as .value)⟩
  · refine Reads.andThen ?_ behindValue
    exact .pure ⟨b, at_, .nil⟩

theorem assertStatement_sound : Sound (assertStatement self) := fun _ _ _ at_ =>
  wordWithList_reads (known.expression true) rfl at_

theorem printStatement_sound : Sound (printStatement self) := by
  intro c i a at_
  refine (takeAs_reads .mark at_).andThen ?_
  rintro w i ⟨b, at_, first⟩
  refine (mark?_reads ">>" at_).andThen ?_
  intro o i' read
  extract_lets goesOn
  have behind (value : Piece) (i : Input) (forms : Forms b value i) :
      Reads (goesOn value) c i (Forms a) := by
    refine (listFrom_reads (known.expression true) startsItem forms).andThen ?_
    rintro parts i ⟨-, d, at_, row⟩
    exact .pure ⟨d, at_, first.build rfl row⟩
  cases o with
  | none =>
    cases read
    exact (known.expression true at_).andThen behind
  | some marks =>
    obtain ⟨d, at_, second⟩ := read
    refine (known.expression true at_).andThen ?_
    rintro value i ⟨e, at_, third⟩
    refine Reads.andThen ?_ behind
    exact .pure ⟨e, at_, second.build rfl (.single third)⟩

theorem execStatement_joinedOrName_sound : Sound (execStatement.joinedOrName self) := by
  intro c i a at_
  refine operand_reads.andThen ?_
  rintro t i rfl
  split
  · exact quoted_sound known at_
  · exact name_sound at_

theorem execStatement_sound : Sound (execStatement self) := by
  intro c i a at_
  refine (takeAs_reads .mark at_).andThen ?_
  rintro w i ⟨b, at_, first⟩
  refine (execStatement_joinedOrName_sound known at_).andThen ?_
  rintro code i ⟨d, at_, second⟩
  refine (word?_reads "in" at_).andThen ?_
  intro o i' read
  cases o with
  | none =>
    cases read
    exact .pure ⟨d, at_, first.build rfl (.single second)⟩
  | some in_ =>
    obtain ⟨e, at_, third⟩ := read
    refine (known.expression true at_).andThen ?_
    intro value i forms
    refine (listFrom_reads (known.expression true) startsItem forms).andThen ?_
    rintro parts i ⟨-, f, at_, row⟩
    exact .pure ⟨f, at_, first.build rfl (.cons second (.cons third row))⟩

theorem typeAliasStatement_sound : Sound (typeAliasStatement self) := by
  intro c i a at_
  refine (takeAs_reads .mark at_).andThen ?_
  rintro w i ⟨b, at_, first⟩
  refine (typeHint_sound known false at_).andThen ?_
  rintro left i ⟨d, at_, second⟩
  refine (mark_reads "=" at_).andThen ?_
  rintro equals i ⟨e, at_, third⟩
  refine (typeHint_sound known false at_).andThen ?_
  rintro right i ⟨f, at_, fourth⟩
  exact .pure ⟨f, at_, first.build rfl
    (.cons (second.as .left) (.cons third (.single (fourth.as .right))))⟩

theorem simpleStatement_sound : Sound (simpleStatement self) := by
  intro c i a at_
  refine operand_reads.andThen ?_
  rintro t i rfl
  have plain : Reads (expressionStatement self) c i (Forms a) := expressionStatement_sound known at_
  refine .ite plain ?_
  refine .ite (wordWithValue_reads known rfl at_) ?_
  refine .ite (deleteStatement_sound known at_) ?_
  refine .ite (raiseStatement_sound known at_) ?_
  refine .ite (markAlone_reads rfl at_) ?_
  refine .ite (markAlone_reads rfl at_) ?_
  refine .ite (markAlone_reads rfl at_) ?_
  refine .ite (wordWithNames_reads rfl at_) ?_
  refine .ite (wordWithNames_reads rfl at_) ?_
  refine .ite (assertStatement_sound known at_) ?_
  refine .ite (importStatement_sound at_) ?_
  refine .ite (importFromStatement_sound at_) ?_
  refine .ite ?_ (.ite ?_ (.ite ?_ plain))
  · refine second?_reads.andThen ?_
    rintro s i rfl
    refine .ite (printStatement_sound known at_) ?_
    refine startsCommand_reads.andThen ?_
    rintro isCommand i rfl
    exact .ite (printStatement_sound known at_) plain
  · refine startsCommand_reads.andThen ?_
    rintro isCommand i rfl
    exact .ite (execStatement_sound known at_) plain
  · refine startsDeclaration_reads.andThen ?_
    rintro isDeclaration i rfl
    exact .ite (typeAliasStatement_sound known at_) plain

theorem simpleLine_reads {c : Context} {i : Input} {a : Nat} (at_ : At i a) :
    Reads (simpleLine self) c i fun parts rest => parts ≠ [] ∧ FormsRow a parts rest := by
  refine (simpleStatement_sound known at_).andThen ?_
  rintro first i ⟨b, at_, lies⟩
  refine Reads.andThen (P := fun s rest => s.1 ≠ [] ∧ FormsRow a s.1.reverse rest) ?_ ?_
  · refine repeated_reads (I := fun s rest => s.1 ≠ [] ∧ FormsRow a s.1.reverse rest) ?_
      ⟨by simp, b, at_, .single lies⟩
    rintro ⟨parts, closed⟩ i ⟨some_, d, at_, row⟩
    dsimp only
    split
    · exact .pure ⟨some_, d, at_, row⟩
    · refine (mark?_reads ";" at_).andThen ?_
      intro o i' read
      cases o with
      | none =>
        cases read
        exact .pure ⟨some_, d, at_, row⟩
      | some semicolon =>
        obtain ⟨e, at_, semicolonLies⟩ := read
        refine next_reads.andThen ?_
        rintro t i ⟨-, rfl⟩
        split
        · exact .pure ⟨by simp, e, at_, row.push semicolonLies⟩
        · refine (simpleStatement_sound known at_).andThen ?_
          rintro next i ⟨f, at_, lies⟩
          exact .pure ⟨by simp, f, at_, (row.push semicolonLies).push lies⟩
  · rintro ⟨parts, closed⟩ i ⟨some_, row⟩
    refine next_reads.andThen ?_
    rintro t i ⟨-, rfl⟩
    split
    · exact .pure ⟨by simpa using some_, row⟩
    · exact .failure

end PoolLint.Syntax.Grammar
