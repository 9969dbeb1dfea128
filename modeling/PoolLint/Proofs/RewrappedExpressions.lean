import PoolLint.Proofs.RewrappedCollections
import PoolLint.Syntax.Grammar.Expression

/-! Expressions are read alike, from the values that bind most strongly to the conditional
expression. -/
namespace PoolLint.Syntax.Grammar
open PoolLint.Syntax.Parser Piece

variable {self : Phrase → Parser Piece} (steady : AllSteady self)
include steady

theorem atom_steady : Steady (atom self) := by
  apply operand_alike.bind
  intro t u tokens
  cases tokens with
  | @intro kind text layout layout' extras extras' endsLine indent span span' _ _ _ =>
  cases kind with
  | word =>
    apply Alike.ite (takeAs_steady .none)
    apply Alike.ite (takeAs_steady .true)
    exact .ite (takeAs_steady .false) (takeAs_steady .identifier)
  | integer => exact takeAs_steady .integer
  | float => exact takeAs_steady .float
  | stringStart => exact joinedQuoted_steady steady
  | mark =>
    apply Alike.ite (parenthesized_steady steady)
    apply Alike.ite (bracketed_steady steady)
    apply Alike.ite (braced_steady steady)
    exact .ite (takeAs_steady .ellipsis) .failure
  | stringContent => exact .failure
  | stringEnd => exact .failure
  | conversion => exact .failure
  | specText => exact .failure
  | finish => exact .failure

section Trailers

variable {value value' : Piece} (values : value.Alike value')
include values

omit steady in
theorem attributeOf_alike : Alike Piece.Alike (attributeOf value) (attributeOf value') := by
  apply (mark_steady ".").bind
  intro dot dot' dots
  apply name_steady.bind
  intro n n' names
  exact .pure ((values.as .value).build rfl (.cons dots (.cons (names.as .name) .nil)))

omit values in
theorem subscriptItem_bound_alike :
    Alike RowAlike (subscriptItem.bound self) (subscriptItem.bound self) := by
  apply ahead?_alike.bind
  intro o o' tokens
  rw [any_alike startsValue_alike tokens]
  apply Alike.ite _ (.pure .nil)
  apply (steady (.expression true)).bind
  intro p p' pieces
  exact .pure (.cons pieces .nil)

omit values in
theorem subscriptItem_steady : Steady (subscriptItem self) := by
  apply operand_alike.bind
  intro t u tokens
  rw [isMark_alike ":" t u tokens]
  extract_lets goesOn
  have behind (start start' : List Piece) (starts : RowAlike start start') :
      Parser.Alike Piece.Alike (goesOn start) (goesOn start') := by
    apply (mark?_alike ":").bind
    intro o o' colons
    cases colons with
    | none =>
      cases starts with
      | nil => exact .failure
      | cons first rest =>
        cases rest with
        | nil => exact .pure first
        | cons second rest => exact .failure
    | @some colon colon' colons =>
      apply (subscriptItem_bound_alike steady).bind
      intro stop stop' stops
      have row : RowAlike (start ++ [colon] ++ stop) (start' ++ [colon'] ++ stop') :=
        List.rel_append (List.rel_append starts (.cons colons .nil)) stops
      apply (mark?_alike ":").bind
      intro o o' colons
      cases colons with
      | none => exact .pure (row.ofParts rfl)
      | some colons =>
        apply (subscriptItem_bound_alike steady).bind
        intro stride stride' strides
        have whole := List.rel_append (List.rel_append row (.cons colons .nil)) strides
        exact .pure (RowAlike.ofParts rfl whole)
  apply Alike.ite
  · apply Alike.bind (R := RowAlike) _ behind
    exact .pure .nil
  · apply Alike.bind (R := RowAlike) _ behind
    apply (steady (.expression true)).map
    intro p p' pieces
    exact .cons pieces .nil

theorem subscriptOf_alike :
    Alike Piece.Alike (subscriptOf self value) (subscriptOf self value') := by
  apply (mark_steady "[").bind
  intro opening opening' openings
  apply Alike.inMode
  apply (separated_alike (subscriptItem_steady steady) "]").bind
  intro parts parts' row
  have length := row.1.length_eq
  dsimp only
  rw [length]
  exact .ite .failure (.pure ((values.as .value).build rfl (.cons openings row.1)))

theorem callOf_alike : Alike Piece.Alike (callOf self value) (callOf self value') := by
  apply (arguments_steady steady).bind
  intro given given' givens
  exact .pure ((values.as .function).build rfl (.cons (givens.as .arguments) .nil))

theorem trailers_alike (calls : Bool) :
    Alike Piece.Alike (trailers self calls value) (trailers self calls value') := by
  apply repeated_alike _ values
  intro value value' values
  apply ahead?_alike.bind
  intro o o' tokens
  cases tokens with
  | none => exact .pure .none
  | some pair =>
    cases pair
    apply Alike.ite
    · apply (attributeOf_alike values).map
      intro p q pieces
      exact .some pieces
    apply Alike.ite
    · apply (subscriptOf_alike steady values).map
      intro p q pieces
      exact .some pieces
    apply Alike.ite
    · apply (callOf_alike steady values).map
      intro p q pieces
      exact .some pieces
    · exact .pure .none

end Trailers

theorem primary_steady : Steady (primary self) := by
  apply operand_alike.bind
  intro t u tokens
  cases tokens
  apply Alike.ite
  · apply (takeAs_steady .mark).bind
    intro star star' stars
    apply (atom_steady steady).bind
    intro value value' values
    apply (trailers_alike steady values false).bind
    intro target target' targets
    have spreads : (Piece.build .listSplat star [target]).Alike
        (Piece.build .listSplat star' [target']) := stars.build rfl (.cons targets .nil)
    rw [targets.kind]
    split
    · exact trailers_alike steady spreads true
    · exact trailers_alike steady spreads true
    · exact trailers_alike steady spreads true
    · exact .failure
  · apply (atom_steady steady).bind
    intro value value' values
    exact trailers_alike steady values true

section Operations

omit steady in
theorem startsPrefixed_alike : Alike Eq startsPrefixed startsPrefixed := by
  apply operand_alike.bind
  intro t u tokens
  cases tokens
  apply Alike.ite (.pure rfl)
  apply Alike.ite _ (.pure rfl)
  apply second?_alike.bind
  intro s s' seconds
  cases seconds with
  | none => exact .pure rfl
  | some pair =>
    cases pair
    apply context_alike.bind
    intro context _ same
    cases same
    exact .pure rfl

omit steady in
theorem prefixed_alike {operator operator' value value' : Piece} (operators : operator.Same operator')
    (values : value.Alike value') :
    (prefixed value operator).Alike (prefixed value' operator') := by
  unfold prefixed
  rw [operators.text]
  split
  · exact operators.toAlike.build rfl (.cons (values.as .operand) .nil)
  · exact operators.build_head (.cons (values.as .operand) .nil) (.inl ⟨rfl, rfl⟩)

omit steady in
/-- Operators are put in front of a value, the last one first. -/
theorem foldl_prefixed_alike {found found' : List Piece} (operators : List.Forall₂ Same found found')
    {value value' : Piece} (values : value.Alike value') :
    (found.foldl prefixed value).Alike (found'.foldl prefixed value') := by
  induction operators generalizing value value' with
  | nil => exact values
  | cons operator rest ih => exact ih (prefixed_alike operator values)

omit steady in
theorem prefixes_alike {α : Type} {R : α → α → Prop} {peek : Parser α}
    (peeks : Parser.Alike R peek peek) (starts : α → Bool)
    (same : ∀ v w, R v w → starts v = starts w) :
    Parser.Alike (List.Forall₂ Same)
      (repeated ([] : List Piece) fun found => do
        if starts (← peek) then return some ((← takeAs .mark) :: found) else return none)
      (repeated ([] : List Piece) fun found => do
        if starts (← peek) then return some ((← takeAs .mark) :: found) else return none) := by
  apply repeated_alike _ .nil
  intro found found' operators
  apply peeks.bind
  intro v w seen
  rw [same v w seen]
  apply Alike.ite _ (.pure .none)
  apply (takeAs_alike .mark).bind
  intro operator operator' pair
  exact .pure (.some (.cons pair operators))

omit steady in
theorem operatorLevel?_alike {o o' : Option Token} (tokens : Option.Rel Token.Alike o o') :
    o.bind operatorLevel? = o'.bind operatorLevel? := by
  cases tokens with
  | none => rfl
  | some pair =>
    cases pair
    rfl

omit steady in
theorem binaryOperator_alike {left left' operator operator' right right' : Piece}
    (lefts : left.Alike left') (operators : operator.Alike operator')
    (rights : right.Alike right') :
    (Piece.build .binaryOperator (left.as .left) [operator.as .operator, right.as .right]).Alike
      (Piece.build .binaryOperator (left'.as .left)
        [operator'.as .operator, right'.as .right]) :=
  (lefts.as .left).build rfl (.cons (operators.as .operator) (.cons (rights.as .right) .nil))

theorem operation_steady (level : Nat) : Steady (operation self level) := by
  apply Alike.ite (primary_steady steady)
  apply (prefixes_alike startsPrefixed_alike _ fun _ _ same => congrArg _ same).bind
  intro found found' operators
  apply (primary_steady steady).bind
  intro base base' bases
  apply (mark?_alike "**").bind
  intro o o' stars
  extract_lets goesOn goesOn'
  have behind (powered powered' : Piece) (values : powered.Alike powered') :
      Alike Piece.Alike (goesOn powered) (goesOn' powered') := by
    apply repeated_alike _ (foldl_prefixed_alike operators values)
    intro value value' values
    apply ahead?_alike.bind
    intro o o' tokens
    rw [operatorLevel?_alike tokens]
    cases o'.bind operatorLevel? with
    | none => exact .pure .none
    | some l =>
      apply Alike.ite (.pure .none)
      apply (takeAs_steady .mark).bind
      intro operator operator' marks
      apply (steady (.operation (l + 1))).bind
      intro right right' rights
      exact .pure (.some (binaryOperator_alike values marks rights))
  cases stars with
  | none =>
    apply Alike.bind (R := Piece.Alike) _ behind
    exact .pure bases
  | some stars =>
    apply (steady (.operation 8)).bind
    intro right right' rights
    apply Alike.bind (R := Piece.Alike) _ behind
    exact .pure (binaryOperator_alike bases stars rights)

end Operations

section Comparisons

omit steady in
theorem comparisonOperator?_alike :
    Alike (Option.Rel RowAlike) comparisonOperator? comparisonOperator? := by
  have single : Alike (Option.Rel RowAlike)
      (do return some [(← takeAs .mark).as .operator])
      (do return some [(← takeAs .mark).as .operator]) := by
    apply (takeAs_steady .mark).bind
    intro operator operator' operators
    exact .pure (.some (.cons (operators.as .operator) .nil))
  have double {first first' : Piece} (firsts : first.Alike first') : Alike (Option.Rel RowAlike)
      (do return some [(Piece.build .mark first [← takeAs .mark]).as .operator])
      (do return some [(Piece.build .mark first' [← takeAs .mark]).as .operator]) := by
    apply (takeAs_steady .mark).bind
    intro second second' seconds
    have words : (Piece.build .mark first [second]).Alike (Piece.build .mark first' [second']) :=
      firsts.build rfl (.cons seconds .nil)
    exact .pure (.some (.cons (words.as .operator) .nil))
  apply ahead?_alike.bind
  intro o o' tokens
  cases tokens with
  | none => exact .pure .none
  | some pair =>
    cases pair
    apply Alike.ite single
    apply Alike.ite single
    apply Alike.ite
    · apply (takeAs_steady .mark).bind
      intro is is' words
      apply operand_alike.bind
      intro t u tokens
      cases tokens
      exact .ite (double words) (.pure (.some (.cons (words.as .operator) .nil)))
    · apply second?_alike.bind
      intro s s' seconds
      rw [any_alike (isWord_alike "in") seconds]
      apply Alike.ite _ (.pure .none)
      apply (takeAs_steady .mark).bind
      intro not not' words
      exact double words

theorem comparison_steady : Steady (comparison self) := by
  apply (steady (.operation 1)).bind
  intro first first' firsts
  apply Alike.bind (R := RowAlike)
  · apply repeated_alike _ (.cons firsts .nil)
    intro parts parts' row
    apply comparisonOperator?_alike.bind
    intro o o' operators
    cases operators with
    | none => exact .pure .none
    | some operator =>
      apply (steady (.operation 1)).bind
      intro right right' rights
      exact .pure (.some (.cons rights (List.rel_append (List.rel_reverse operator) row)))
  · intro parts parts' row
    exact whole_or_parts_alike .comparisonOperator rfl (List.rel_reverse row)

end Comparisons

theorem lambda_steady (isBare : Bool) : Steady (lambda self isBare) := by
  apply (takeAs_steady .mark).bind
  intro word word' words
  apply (lambdaParameters_alike steady).bind
  intro o o' parameters
  apply (inner_alike (mark_steady ":")).bind
  intro colon colon' colons
  apply (steady (.expression isBare)).bind
  intro body body' bodies
  have given : RowAlike (o.toList.map (·.as .parameters)) (o'.toList.map (·.as .parameters)) := by
    cases parameters with
    | none => exact .nil
    | some pair => exact .cons (pair.as .parameters) .nil
  exact .pure (words.build rfl
    (List.rel_append given (.cons colons (.cons (bodies.as .body) .nil))))

theorem named_steady : Steady (named self) := by
  apply name_steady.bind
  intro n n' names
  apply (mark_steady ":=").bind
  intro colon colon' colons
  apply (steady (.expression false)).bind
  intro value value' values
  exact .pure ((names.as .name).build rfl (.cons colons (.cons (values.as .value) .nil)))

omit steady in
/-- Words are put in front of a value, the last one first. -/
theorem foldl_not_alike {found found' : List Piece} (nots : RowAlike found found')
    {value value' : Piece} (values : value.Alike value') :
    (found.foldl (fun v not => Piece.build .notOperator not [v.as .operand]) value).Alike
      (found'.foldl (fun v not => Piece.build .notOperator not [v.as .operand]) value') := by
  induction nots generalizing value value' with
  | nil => exact values
  | cons not rest ih => exact ih (not.build rfl (.cons (values.as .operand) .nil))

theorem negation_steady (isBare : Bool) : Steady (negation self isBare) := by
  apply (prefixes_alike operand_alike _ (isWord_alike "not")).bind
  intro found found' nots
  have row : RowAlike found found' := nots.imp fun _ _ words => words.toAlike
  apply operand_alike.bind
  intro t u tokens
  have behind (value value' : Piece) (values : value.Alike value') :
      Parser.Alike Piece.Alike
        (pure (found.foldl (fun v not => Piece.build .notOperator not [v.as .operand]) value))
        (pure (found'.foldl (fun v not => Piece.build .notOperator not [v.as .operand]) value')) :=
    .pure (foldl_not_alike row values)
  cases tokens
  apply second?_alike.bind
  intro s s' seconds
  rw [any_alike (isMark_alike ":=") seconds]
  apply Alike.ite ((lambda_steady steady isBare).bind behind)
  exact .ite ((named_steady steady).bind behind) ((comparison_steady steady).bind behind)

omit steady in
theorem joinedBy_steady (word : String) {item : Parser Piece} (items : Steady item) :
    Steady (joinedBy word item) := by
  apply items.bind
  intro first first' firsts
  apply repeated_alike _ firsts
  intro left left' lefts
  apply (word?_alike word).bind
  intro o o' words
  cases words with
  | none => exact .pure .none
  | some words =>
    apply items.bind
    intro right right' rights
    exact .pure (.some ((lefts.as .left).build rfl
      (.cons (words.as .operator) (.cons (rights.as .right) .nil))))

theorem disjunction_steady (isBare : Bool) : Steady (disjunction self isBare) :=
  joinedBy_steady "or" (joinedBy_steady "and" (negation_steady steady isBare))

theorem expression_steady (isBare : Bool) : Steady (expression self isBare) := by
  apply (disjunction_steady steady isBare).bind
  intro value value' values
  apply Alike.ite (.pure values)
  apply (word?_alike "if").bind
  intro o o' ifs
  extract_lets goesOn
  have behind (value value' : Piece) (values : value.Alike value') :
      Parser.Alike Piece.Alike (goesOn value) (goesOn value') := by
    apply (word?_alike "as").bind
    intro o o' words
    cases words with
    | none => exact .pure values
    | some words =>
      apply (steady (.expression false)).bind
      intro target target' targets
      exact .pure ((values.as .value).build rfl
        (.cons words (.cons (targets.as .newName) .nil)))
  cases ifs with
  | none =>
    apply Alike.bind (R := Piece.Alike) _ behind
    exact .pure values
  | some ifs =>
    apply (inner_alike (steady (.expression true))).bind
    intro condition condition' conditions
    apply (inner_alike (word_steady "else")).bind
    intro else_ else_' elses
    apply (steady (.expression true)).bind
    intro alternative alternative' alternatives
    apply Alike.bind (R := Piece.Alike) _ behind
    exact .pure ((values.as .body).build rfl (.cons ifs (.cons (conditions.as .condition)
      (.cons elses (.cons (alternatives.as .alternative) .nil)))))

end PoolLint.Syntax.Grammar
