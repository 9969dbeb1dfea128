import PoolLint.Proofs.LaidCollections
import PoolLint.Syntax.Grammar.Expression

/-! Expressions and parameters fill the text they were read from. -/
namespace PoolLint.Syntax.Grammar
open PoolLint.Syntax.Parser Piece

variable {self : Phrase → Parser Piece} (known : Known self)
include known

section Parameter

theorem spreadParameter_reads {kind : Kind} (plain : Node.holdsValue kind = false)
    (isAnnotated : Bool) {c : Context} {i : Input} {a : Nat} (at_ : At i a) :
    Reads (spreadParameter self kind isAnnotated) c i (Forms a) := by
  refine (takeAs_reads .mark at_).andThen ?_
  rintro star i ⟨b, at_, first⟩
  refine (name_sound at_).andThen ?_
  rintro n i ⟨d, at_, second⟩
  have spread := first.build plain (.single (second.as .name))
  extract_lets spreadPiece
  split
  · refine (mark?_reads ":" at_).andThen ?_
    intro o i' read
    cases o with
    | some colon =>
      obtain ⟨e, at_, third⟩ := read
      refine (typeHint_sound known true at_).andThen ?_
      rintro type i ⟨f, at_, fourth⟩
      exact .pure ⟨f, at_, spread.build rfl (.cons third (.single (fourth.as .type)))⟩
    | none =>
      cases read
      exact .pure ⟨d, at_, spread⟩
  · exact .pure ⟨d, at_, spread⟩

theorem withDefault_reads {plain defaulted : Kind} (isPlain : Node.holdsValue plain = false)
    (isPlain' : Node.holdsValue defaulted = false) {c : Context} {i : Input} {a b d : Nat}
    {p : Piece} {parts : List Piece} (first : p.Lies a b) (row : Row b parts d) (at_ : At i d) :
    Reads (withDefault self plain defaulted p parts) c i (Forms a) := by
  refine (mark?_reads "=" at_).andThen ?_
  intro o i' read
  cases o with
  | some equals =>
    obtain ⟨e, at_, mark⟩ := read
    refine (known.expression true at_).andThen ?_
    rintro value i ⟨f, at_, last⟩
    have behind := row.append (.cons mark (.single (last.as .value)))
    exact .pure ⟨f, at_, first.build isPlain' behind⟩
  | none =>
    cases read
    dsimp only
    split
    · rename_i empty
      rw [List.isEmpty_iff.mp empty] at row
      cases row
      exact .pure ⟨b, at_, first⟩
    · exact .pure ⟨d, at_, first.build isPlain row⟩

theorem parameter_sound (isAnnotated : Bool) : Sound (parameter self isAnnotated) := by
  intro c i a at_
  refine operand_reads.andThen ?_
  rintro t i rfl
  split
  · refine second?_reads.andThen ?_
    rintro s i rfl
    split
    · split
      · exact spreadParameter_reads known rfl isAnnotated at_
      · exact markAlone_reads rfl at_
    · exact .failure
  · split
    · exact spreadParameter_reads known rfl isAnnotated at_
    · split
      · exact markAlone_reads rfl at_
      · split
        · refine (known.operation 9 at_).andThen ?_
          rintro p i ⟨b, at_, first⟩
          split
          · exact withDefault_reads known rfl rfl (first.as .name) .nil at_
          · exact .failure
        · refine (name_sound at_).andThen ?_
          rintro n i ⟨b, at_, first⟩
          extract_lets named goesOn
          -- with or without an annotation, the default is read by the same steps
          have behind (colon : Option Piece) (i : Input) (row : FormsRow b colon.toList i) :
              Reads (goesOn colon) c i (Forms a) := by
            obtain ⟨d, at_, row⟩ := row
            cases colon with
            | some colon =>
              refine (typeHint_sound known true at_).andThen ?_
              rintro type i ⟨e, at_, last⟩
              exact withDefault_reads known rfl rfl (first.as .name)
                (row.append (.single (last.as .type))) at_
            | none =>
              cases row
              exact withDefault_reads known rfl rfl (first.as .name) .nil at_
          split
          · refine (mark?_reads ":" at_).andThen ?_
            intro o i' read
            exact behind o i' (read.row at_)
          · refine Reads.andThen ?_ behind
            exact .pure ⟨b, at_, .nil⟩

theorem parameters_sound : Sound (parameters self) := by
  intro c i a at_
  refine (mark_reads "(" at_).andThen ?_
  rintro opening i ⟨b, at_, opened⟩
  refine .inMode fun c => (separated_reads (parameter_sound known true) ")" at_).andThen ?_
  rintro ⟨parts, _⟩ i ⟨d, at_, row⟩
  exact .pure ⟨d, at_, opened.build rfl row⟩

theorem lambdaParameters_reads {c : Context} {i : Input} {a : Nat} (at_ : At i a) :
    Reads (lambdaParameters self) c i (Perhaps i (Forms a)) := by
  refine inner_reads fun c => (aheadMark_reads ":").andThen ?_
  rintro isOver i ⟨-, rfl⟩
  split
  · exact .pure rfl
  · refine (parameter_sound known false at_).andThen ?_
    intro first i forms
    refine (listFrom_reads (parameter_sound known false) _ forms).andThen ?_
    rintro parts i ⟨some_, b, at_, row⟩
    exact .pure ⟨b, at_, row.ofParts rfl some_⟩

end Parameter

theorem atom_sound : Sound (atom self) := by
  intro c i a at_
  refine operand_reads.andThen ?_
  rintro t i rfl
  split
  · split
    · exact takeAs_reads .none at_
    · split
      · exact takeAs_reads .true at_
      · split
        · exact takeAs_reads .false at_
        · exact takeAs_reads .identifier at_
  · exact takeAs_reads .integer at_
  · exact takeAs_reads .float at_
  · exact joinedQuoted_sound known at_
  · split
    · exact parenthesized_sound known at_
    · split
      · exact bracketed_sound known at_
      · split
        · exact braced_sound known at_
        · split
          · exact takeAs_reads .ellipsis at_
          · exact .failure
  · exact .failure

section Trailer

variable {c : Context} {i : Input} {a : Nat} {value : Piece} (forms : Forms a value i)
include forms

omit known in
theorem attributeOf_reads : Reads (attributeOf value) c i (Forms a) := by
  obtain ⟨b, at_, first⟩ := forms
  refine (mark_reads "." at_).andThen ?_
  rintro dot i ⟨d, at_, second⟩
  refine (name_sound at_).andThen ?_
  rintro n i ⟨e, at_, third⟩
  exact .pure ⟨e, at_, (first.as .value).build rfl (.cons second (.single (third.as .name)))⟩

omit forms in
theorem subscriptItem_bound_reads (at_ : At i a) :
    Reads (subscriptItem.bound self) c i (FormsRow a) := by
  refine ahead?_reads.andThen ?_
  rintro t i ⟨-, rfl⟩
  split
  · refine (known.expression true at_).andThen ?_
    rintro p i ⟨b, at_, lies⟩
    exact .pure ⟨b, at_, .single lies⟩
  · exact .pure ⟨a, at_, .nil⟩

omit forms in
theorem subscriptItem_sound : Sound (subscriptItem self) := by
  intro c i a at_
  refine operand_reads.andThen ?_
  rintro t i rfl
  extract_lets goesOn
  have behind (start : List Piece) (i : Input) (row : FormsRow a start i) :
      Reads (goesOn start) c i (Forms a) := by
    obtain ⟨b, at_, startRow⟩ := row
    refine (mark?_reads ":" at_).andThen ?_
    intro o i' read
    cases o with
    | none =>
      cases read
      dsimp only
      split
      · cases startRow with
        | cons first rest =>
          cases rest
          exact .pure ⟨b, at_, first⟩
      · exact .failure
    | some colon =>
      obtain ⟨d, at_, colonLies⟩ := read
      refine (subscriptItem_bound_reads known at_).andThen ?_
      rintro stop i ⟨e, at_, stopRow⟩
      have row := (startRow.append (.single colonLies)).append stopRow
      refine (mark?_reads ":" at_).andThen ?_
      intro o i' read
      cases o with
      | none =>
        cases read
        exact .pure ⟨e, at_, row.ofParts rfl (by simp)⟩
      | some second =>
        obtain ⟨f, at_, secondLies⟩ := read
        refine (subscriptItem_bound_reads known at_).andThen ?_
        rintro stride i ⟨g, at_, strideRow⟩
        exact .pure ⟨g, at_,
          ((row.append (.single secondLies)).append strideRow).ofParts rfl (by simp)⟩
  split
  · refine Reads.andThen ?_ behind
    exact .pure ⟨a, at_, .nil⟩
  · refine Reads.andThen ?_ behind
    refine .map ((known.expression true at_).mono ?_)
    rintro p i ⟨b, at_, lies⟩
    exact ⟨b, at_, .single lies⟩

theorem subscriptOf_reads : Reads (subscriptOf self value) c i (Forms a) := by
  obtain ⟨b, at_, first⟩ := forms
  refine (mark_reads "[" at_).andThen ?_
  rintro opening i ⟨d, at_, second⟩
  refine .inMode fun c => (separated_reads (subscriptItem_sound known) "]" at_).andThen ?_
  rintro ⟨parts, _⟩ i ⟨e, at_, row⟩
  dsimp only
  split
  · exact .failure
  · exact .pure ⟨e, at_, (first.as .value).build rfl (.cons second row)⟩

theorem callOf_reads : Reads (callOf self value) c i (Forms a) := by
  obtain ⟨b, at_, first⟩ := forms
  refine (arguments_sound known at_).andThen ?_
  rintro arguments i ⟨d, at_, second⟩
  exact .pure ⟨d, at_, (first.as .function).build rfl (.single (second.as .arguments))⟩

theorem trailers_reads (calls : Bool) : Reads (trailers self calls value) c i (Forms a) := by
  refine repeated_reads (I := Forms a) ?_ forms
  intro value i forms
  refine ahead?_reads.andThen ?_
  rintro o i ⟨-, rfl⟩
  cases o with
  | none => exact .pure forms
  | some t =>
    dsimp only
    split
    · exact .map (attributeOf_reads forms)
    · split
      · exact .map (subscriptOf_reads known forms)
      · split
        · exact .map (callOf_reads known forms)
        · exact .pure forms

end Trailer

theorem primary_sound : Sound (primary self) := by
  intro c i a at_
  refine operand_reads.andThen ?_
  rintro t i rfl
  split
  · refine (takeAs_reads .mark at_).andThen ?_
    rintro star i ⟨b, at_, first⟩
    refine (atom_sound known at_).andThen ?_
    intro value i forms
    refine (trailers_reads known forms false).andThen ?_
    rintro target i ⟨d, at_, second⟩
    have spread : (Piece.build .listSplat star [target]).Lies a d :=
      first.build rfl (.single second)
    split
    · exact trailers_reads known ⟨d, at_, spread⟩ true
    · exact trailers_reads known ⟨d, at_, spread⟩ true
    · exact trailers_reads known ⟨d, at_, spread⟩ true
    · exact .failure
  · refine (atom_sound known at_).andThen ?_
    intro value i forms
    exact trailers_reads known forms true

omit known in
theorem startsPrefixed_reads {c : Context} {i : Input} : Reads startsPrefixed c i (Still i) := by
  refine operand_reads.andThen ?_
  rintro t i rfl
  split
  · exact .pure rfl
  · split
    · refine second?_reads.andThen ?_
      rintro s i rfl
      cases s with
      | none => exact .pure rfl
      | some s =>
        refine context_reads.andThen ?_
        rintro context _ rfl
        exact .pure rfl
    · exact .pure rfl

omit known in
theorem prefixed_lies {a b d : Nat} {operator value : Piece} (first : operator.Lies a b)
    (second : value.Lies b d) : (prefixed value operator).Lies a d := by
  unfold prefixed
  split
  · exact first.build rfl (.single (second.as .operand))
  · exact (first.as .operator).build rfl (.single (second.as .operand))

omit known in
theorem prefixes_reads {α : Type} {peek : Parser α} (still : ∀ {c i}, Reads peek c i (Still i))
    (starts : α → Bool) {c : Context} {i : Input} {a : Nat} (at_ : At i a) :
    Reads (repeated ([] : List Piece) fun found => do
      if starts (← peek) then return some ((← takeAs .mark) :: found) else return none) c i
      (Gathered a) := by
  refine gathered_reads ?_ ⟨a, at_, .nil⟩
  rintro found i ⟨b, at_, row⟩
  refine still.andThen ?_
  rintro seen i rfl
  split
  · refine (takeAs_reads .mark at_).andThen ?_
    rintro operator i ⟨d, at_, lies⟩
    exact .pure ⟨d, at_, row.push lies⟩
  · exact .pure ⟨b, at_, row⟩

omit known in
theorem binaryOperator_lies {a b d e : Nat} {left operator right : Piece} (first : left.Lies a b)
    (second : operator.Lies b d) (third : right.Lies d e) :
    (Piece.build .binaryOperator (left.as .left)
      [operator.as .operator, right.as .right]).Lies a e :=
  (first.as .left).build rfl (.cons (second.as .operator) (.single (third.as .right)))

theorem operation_sound (level : Nat) : Sound (operation self level) := by
  intro c i a at_
  unfold operation
  split
  · exact primary_sound known at_
  · refine (prefixes_reads startsPrefixed_reads _ at_).andThen ?_
    rintro operators i ⟨b, at_, operatorRow⟩
    refine (primary_sound known at_).andThen ?_
    rintro base i ⟨d, at_, first⟩
    refine (mark?_reads "**" at_).andThen ?_
    intro o i' read
    extract_lets goesOn
    have behind (powered : Piece) (i : Input) (forms : Forms b powered i) :
        Reads (goesOn powered) c i (Forms a) := by
      obtain ⟨e, at_, lies⟩ := forms
      -- the marks in front go around the value from the last one to the first
      refine repeated_reads (I := Forms a) ?_ ⟨e, at_, operatorRow.foldl prefixed_lies lies⟩
      rintro value i ⟨f, at_, left⟩
      refine ahead?_reads.andThen ?_
      rintro t i ⟨-, rfl⟩
      split
      · exact .pure ⟨f, at_, left⟩
      · split
        · exact .pure ⟨f, at_, left⟩
        · rename_i l _ _
          refine (takeAs_reads .mark at_).andThen ?_
          rintro operator i ⟨g, at_, between⟩
          refine (known.operation (l + 1) at_).andThen ?_
          rintro right i ⟨h, at_, right⟩
          exact .pure ⟨h, at_, binaryOperator_lies left between right⟩
    cases o with
    | none =>
      cases read
      refine Reads.andThen ?_ behind
      exact .pure ⟨d, at_, first⟩
    | some stars =>
      obtain ⟨e, at_, second⟩ := read
      refine (known.operation 8 at_).andThen ?_
      rintro right i ⟨f, at_, third⟩
      refine Reads.andThen ?_ behind
      exact .pure ⟨f, at_, binaryOperator_lies first second third⟩

omit known in
theorem comparisonOperator?_reads {c : Context} {i : Input} {a : Nat} (at_ : At i a) :
    Reads comparisonOperator? c i (Perhaps i (FormsRow a)) := by
  have single : Reads (do return some [(← takeAs .mark).as .operator]) c i
      (Perhaps i (FormsRow a)) := by
    refine (takeAs_reads .mark at_).andThen ?_
    rintro operator i ⟨b, at_, lies⟩
    exact .pure ⟨b, at_, .single (lies.as .operator)⟩
  have double {first : Piece} {b : Nat} {j : Input} (at_ : At j b) (lies : first.Lies a b) :
      Reads (do return some [(Piece.build .mark first [← takeAs .mark]).as .operator]) c j
        (Perhaps i (FormsRow a)) := by
    refine (takeAs_reads .mark at_).andThen ?_
    rintro second i ⟨d, at_, lies'⟩
    exact .pure ⟨d, at_, .single ((lies.build rfl (.single lies')).as .operator)⟩
  refine ahead?_reads.andThen ?_
  rintro o i ⟨-, rfl⟩
  cases o with
  | none => exact .pure rfl
  | some t =>
    dsimp only
    split
    · exact single
    · split
      · exact single
      · split
        · refine (takeAs_reads .mark at_).andThen ?_
          rintro is i ⟨b, at_, lies⟩
          refine operand_reads.andThen ?_
          rintro t i rfl
          split
          · exact double at_ lies
          · exact .pure ⟨b, at_, .single (lies.as .operator)⟩
        · refine second?_reads.andThen ?_
          rintro s i rfl
          split
          · refine (takeAs_reads .mark at_).andThen ?_
            rintro not i ⟨b, at_, lies⟩
            exact double at_ lies
          · exact .pure rfl

theorem comparison_sound : Sound (comparison self) := by
  intro c i a at_
  refine (known.operation 1 at_).andThen ?_
  rintro first i ⟨b, at_, lies⟩
  refine Reads.andThen (P := fun parts i => parts ≠ [] ∧ FormsRow a parts.reverse i) ?_ ?_
  · refine repeated_reads (I := fun parts i => parts ≠ [] ∧ FormsRow a parts.reverse i) ?_
      ⟨by simp, b, at_, .single lies⟩
    rintro parts i ⟨some_, d, at_, row⟩
    refine (comparisonOperator?_reads at_).andThen ?_
    intro o i' read
    cases o with
    | none =>
      cases read
      exact .pure ⟨some_, d, at_, row⟩
    | some operator =>
      obtain ⟨e, at_, operatorRow⟩ := read
      refine (known.operation 1 at_).andThen ?_
      rintro right i ⟨f, at_, last⟩
      have longer : Row a (operator.reverse ++ parts).reverse e := by
        rw [List.reverse_append, List.reverse_reverse]
        exact row.append operatorRow
      exact .pure ⟨by simp, f, at_, longer.push last⟩
  · rintro parts i ⟨some_, row⟩
    exact whole_or_parts rfl (by simpa using some_) row

theorem lambda_sound (isBare : Bool) : Sound (lambda self isBare) := by
  intro c i a at_
  refine (takeAs_reads .mark at_).andThen ?_
  rintro word i ⟨b, at_, first⟩
  refine (lambdaParameters_reads known at_).andThen ?_
  intro parameters i' read
  have row : FormsRow b (parameters.toList.map (·.as .parameters)) i' := by
    cases parameters with
    | none =>
      cases read
      exact ⟨b, at_, .nil⟩
    | some parameters =>
      obtain ⟨d, at_, lies⟩ := read
      exact ⟨d, at_, .single (lies.as .parameters)⟩
  obtain ⟨d, at_, row⟩ := row
  refine (inner_reads fun c => mark_reads ":" at_).andThen ?_
  rintro colon i ⟨e, at_, second⟩
  refine (known.expression isBare at_).andThen ?_
  rintro body i ⟨f, at_, last⟩
  exact .pure ⟨f, at_, first.build rfl
    (row.append (.cons second (.single (last.as .body))))⟩

theorem named_sound : Sound (named self) := by
  intro c i a at_
  refine (name_sound at_).andThen ?_
  rintro n i ⟨b, at_, first⟩
  refine (mark_reads ":=" at_).andThen ?_
  rintro colon i ⟨d, at_, second⟩
  refine (known.expression false at_).andThen ?_
  rintro value i ⟨e, at_, third⟩
  exact .pure ⟨e, at_, (first.as .name).build rfl (.cons second (.single (third.as .value)))⟩

theorem negation_sound (isBare : Bool) : Sound (negation self isBare) := by
  intro c i a at_
  refine (prefixes_reads operand_reads _ at_).andThen ?_
  rintro nots i ⟨b, at_, notRow⟩
  refine operand_reads.andThen ?_
  rintro t i rfl
  extract_lets goesOn
  have behind (value : Piece) (i : Input) (forms : Forms b value i) :
      Reads (goesOn value) c i (Forms a) := by
    obtain ⟨d, at_, lies⟩ := forms
    refine .pure ⟨d, at_, notRow.foldl (fun first second => ?_) lies⟩
    exact first.build rfl (.single (second.as .operand))
  split
  · exact (lambda_sound known isBare at_).andThen behind
  · refine second?_reads.andThen ?_
    rintro s i rfl
    split
    · exact (named_sound known at_).andThen behind
    · exact (comparison_sound known at_).andThen behind

omit known in
theorem joinedBy_sound {item : Parser Piece} (sound : Sound item) (word : String) :
    Sound (joinedBy word item) := by
  intro c i a at_
  refine (sound at_).andThen ?_
  intro first i forms
  refine repeated_reads (I := Forms a) ?_ forms
  rintro left i ⟨b, at_, first⟩
  refine (word?_reads word at_).andThen ?_
  intro o i' read
  cases o with
  | none =>
    cases read
    exact .pure ⟨b, at_, first⟩
  | some operator =>
    obtain ⟨d, at_, second⟩ := read
    refine (sound at_).andThen ?_
    rintro right i ⟨e, at_, third⟩
    exact .pure ⟨e, at_, (first.as .left).build rfl
      (.cons (second.as .operator) (.single (third.as .right)))⟩

theorem disjunction_sound (isBare : Bool) : Sound (disjunction self isBare) :=
  joinedBy_sound (joinedBy_sound (negation_sound known isBare) "and") "or"

theorem expression_sound (isBare : Bool) : Sound (Grammar.expression self isBare) := by
  intro c i a at_
  refine (disjunction_sound known isBare at_).andThen ?_
  rintro value i ⟨b, at_, first⟩
  split
  · exact .pure ⟨b, at_, first⟩
  · refine (word?_reads "if" at_).andThen ?_
    intro o i' read
    extract_lets goesOn
    have behind (value : Piece) (i : Input) (forms : Forms a value i) :
        Reads (goesOn value) c i (Forms a) := by
      obtain ⟨d, at_, first⟩ := forms
      refine (word?_reads "as" at_).andThen ?_
      intro o i' read
      cases o with
      | none =>
        cases read
        exact .pure ⟨d, at_, first⟩
      | some as_ =>
        obtain ⟨e, at_, second⟩ := read
        refine (known.expression false at_).andThen ?_
        rintro target i ⟨f, at_, third⟩
        exact .pure ⟨f, at_, (first.as .value).build rfl
          (.cons second (.single (third.as .newName)))⟩
    cases o with
    | none =>
      cases read
      refine Reads.andThen ?_ behind
      exact .pure ⟨b, at_, first⟩
    | some if_ =>
      obtain ⟨d, at_, second⟩ := read
      refine (inner_reads fun c => known.expression true at_).andThen ?_
      rintro condition i ⟨e, at_, third⟩
      refine (inner_reads fun c => word_reads "else" at_).andThen ?_
      rintro else_ i ⟨f, at_, fourth⟩
      refine (known.expression true at_).andThen ?_
      rintro alternative i ⟨g, at_, fifth⟩
      refine Reads.andThen ?_ behind
      have row : Row b [if_, condition.as .condition, else_, alternative.as .alternative] g :=
        .cons second (.cons (third.as .condition) (.cons fourth (.single (fifth.as .alternative))))
      exact .pure ⟨g, at_, (first.as .body).build rfl row⟩

end PoolLint.Syntax.Grammar
