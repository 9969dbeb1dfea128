import PoolLint.Proofs.RewrappedStatements
import PoolLint.Syntax.Tree

/-! Statements with blocks are read alike, and so are whole texts: where two lists of tokens differ
only in line continuations, both have a tree or neither has, and the trees differ only in line
continuations. -/
namespace PoolLint.Syntax

namespace Grammar
open PoolLint.Syntax.Parser Piece

variable {self : Phrase → Parser Piece} (steady : AllSteady self)

theorem startsClause_alike (word : String) :
    Parser.Alike Eq (startsClause word) (startsClause word) := by
  apply next_alike.bind
  intro t u tokens
  apply width_alike.bind
  intro width _ same
  cases same
  cases tokens
  exact .pure rfl

include steady

section Clauses

theorem suite_steady : Steady (suite self) := by
  apply next_alike.bind
  intro t u tokens
  cases tokens
  apply Alike.ite
  · apply width_alike.bind
    intro width _ same
    cases same
    apply Alike.ite ((steady .lines).inBlock _)
    apply input_alike.bind
    intro i j inputs
    exact .pure (empty_alike .block _ _)
  · apply (simpleLine_alike steady).bind
    intro parts parts' row
    exact .pure (row.ofParts rfl)

theorem body_alike : Parser.Alike RowAlike (body self) (body self) := by
  apply (inner_alike (mark_steady ":")).bind
  intro colon colon' colons
  apply (suite_steady steady).bind
  intro block block' blocks
  exact .pure (.cons colons (.cons (blocks.as .body) .nil))

theorem plainClause?_alike (word : String) {kind : Kind} (loose : kind.isLoose = true) :
    Parser.Alike (Option.Rel Piece.Alike) (plainClause? self word kind)
      (plainClause? self word kind) := by
  apply (startsClause_alike word).bind
  intro starts _ same
  cases same
  apply Alike.ite _ (.pure .none)
  apply (takeAs_steady .mark).bind
  intro w w' words
  apply (body_alike steady).bind
  intro parts parts' row
  have clauses : (Piece.build kind w parts).Alike (Piece.build kind w' parts') :=
    words.build loose row
  exact .pure (.some (clauses.as .alternative))

theorem elseClause?_alike :
    Parser.Alike (Option.Rel Piece.Alike) (elseClause? self) (elseClause? self) :=
  plainClause?_alike steady "else" rfl

theorem conditional_alike (kind : Kind) :
    Parser.Alike (fun s s' => RowAlike s.1 s'.1 ∧ s.2 = s'.2 ∧ s.2 = kind) (conditional self kind)
      (conditional self kind) := by
  apply (takeAs_steady .mark).bind
  intro w w' words
  apply (inner_alike (steady (.expression true))).bind
  intro condition condition' conditions
  apply (body_alike steady).bind
  intro parts parts' row
  exact .pure ⟨List.rel_append (.cons words (.cons (conditions.as .condition) .nil)) row, rfl, rfl⟩

theorem ifStatement_steady : Steady (ifStatement self) := by
  apply (conditional_alike steady .ifStatement).bind
  intro ⟨head, kind⟩ ⟨head', kind'⟩ heads
  apply Alike.bind (R := RowAlike)
  · apply repeated_alike _ .nil
    intro found found' row
    apply (startsClause_alike "elif").bind
    intro starts _ same
    cases same
    apply Alike.ite _ (.pure .none)
    apply (conditional_alike steady .elifClause).bind
    intro ⟨parts, kind⟩ ⟨parts', kind'⟩ clauses
    obtain ⟨clause, rfl, rfl⟩ := clauses
    have whole : (Piece.ofParts .elifClause parts).Alike (Piece.ofParts .elifClause parts') :=
      clause.ofParts rfl
    exact .pure (.some (.cons (whole.as .alternative) row))
  · intro elifs elifs' row
    apply (elseClause?_alike steady).bind
    intro else_ else_' elses
    have parts := List.rel_append (List.rel_append heads.1 (List.rel_reverse row))
      (row_of_optional elses)
    exact .pure (RowAlike.ofParts rfl parts)

theorem whileStatement_steady : Steady (whileStatement self) := by
  apply (conditional_alike steady .whileStatement).bind
  intro ⟨head, kind⟩ ⟨head', kind'⟩ heads
  obtain ⟨row, rfl, rfl⟩ := heads
  apply (elseClause?_alike steady).bind
  intro else_ else_' elses
  exact .pure (RowAlike.ofParts rfl (List.rel_append row (row_of_optional elses)))

theorem forStatement_alike {async async' : List Piece} (asyncs : RowAlike async async') :
    Parser.Alike Piece.Alike (forStatement self async) (forStatement self async') := by
  apply (takeAs_steady .mark).bind
  intro w w' words
  apply (inner_alike (targetList_steady steady)).bind
  intro left left' lefts
  apply (inner_alike (word_steady "in")).bind
  intro in_ in_' ins
  apply (inner_alike (expressionList_steady steady)).bind
  intro right right' rights
  apply (body_alike steady).bind
  intro body body' bodies
  apply (elseClause?_alike steady).bind
  intro else_ else_' elses
  have heads : RowAlike [w, left.as .left, in_, right.as .right]
      [w', left'.as .left, in_', right'.as .right] :=
    .cons words (.cons (lefts.as .left) (.cons ins (.cons (rights.as .right) .nil)))
  have parts := List.rel_append (List.rel_append (List.rel_append asyncs heads) bodies)
    (row_of_optional elses)
  exact .pure (RowAlike.ofParts rfl parts)

theorem exceptClause_steady : Steady (exceptClause self) := by
  apply (takeAs_steady .mark).bind
  intro w w' words
  apply (inner_alike (mark?_alike "*")).bind
  intro star star' stars
  apply Alike.bind (R := RowAlike)
  · apply inner_alike
    apply (aheadMark_alike ":").bind
    intro isOver _ same
    cases same
    apply Alike.ite (.pure .nil)
    apply (steady (.expression true)).bind
    intro value value' values
    apply (mark?_alike ",").bind
    intro o o' commas
    cases commas with
    | none => exact .pure (.cons (values.as .value) .nil)
    | some commas =>
      apply (steady (.expression true)).bind
      intro name name' names
      exact .pure (.cons (values.as .value) (.cons commas (.cons (names.as .newName) .nil)))
  · intro caught caught' row
    apply (body_alike steady).bind
    intro body body' bodies
    have parts := List.rel_append (List.rel_append (List.rel_append
      (.cons words .nil) (row_of_optional stars)) row) bodies
    exact .pure (Alike.as (RowAlike.ofParts rfl parts) .alternative)

theorem tryStatement_steady : Steady (tryStatement self) := by
  apply (takeAs_steady .mark).bind
  intro w w' words
  apply (body_alike steady).bind
  intro body body' bodies
  apply Alike.bind (R := RowAlike)
  · apply repeated_alike _ .nil
    intro found found' row
    apply (startsClause_alike "except").bind
    intro starts _ same
    cases same
    apply Alike.ite _ (.pure .none)
    apply (exceptClause_steady steady).bind
    intro clause clause' clauses
    exact .pure (.some (.cons clauses row))
  · intro excepts excepts' row
    have empty : excepts.isEmpty = excepts'.isEmpty := by
      cases row with
      | nil => rfl
      | cons first rest => rfl
    rw [empty]
    extract_lets goesOn goesOn'
    have behind (else_ else_' : Option Piece) (elses : Option.Rel Piece.Alike else_ else_') :
        Parser.Alike Piece.Alike (goesOn else_) (goesOn' else_') := by
      apply (plainClause?_alike steady "finally" rfl).bind
      intro finally_ finally_' finals
      have absent : finally_.isNone = finally_'.isNone := by
        cases finals with
        | none => rfl
        | some pair => rfl
      have clauses := List.rel_append (List.rel_append (List.rel_reverse row) (row_of_optional elses))
        (row_of_optional finals)
      have parts := List.rel_append (List.rel_append (.cons words .nil) bodies) clauses
      dsimp only
      rw [absent]
      exact .ite .stop (.pure (RowAlike.ofParts rfl parts))
    apply Alike.ite
    · exact Alike.bind (R := Option.Rel Piece.Alike) (.pure .none) behind
    · exact (elseClause?_alike steady).bind behind

theorem withStatement_alike {async async' : List Piece} (asyncs : RowAlike async async') :
    Parser.Alike Piece.Alike (withStatement self async) (withStatement self async') := by
  apply (takeAs_steady .mark).bind
  intro w w' words
  apply Alike.bind (R := RowAlike)
  · have item : Steady (do return Piece.build .withItem ((← self (.expression true)).as .value) []) := by
      apply (steady (.expression true)).bind
      intro value value' values
      exact .pure ((values.as .value).build rfl .nil)
    apply inner_alike
    apply item.bind
    intro first first' firsts
    exact listFrom_alike item startsItem_alike firsts
  · intro items items' row
    apply (body_alike steady).bind
    intro body body' bodies
    have clauses : (Piece.ofParts .withClause items).Alike (Piece.ofParts .withClause items') :=
      row.ofParts rfl
    have parts := List.rel_append (List.rel_append asyncs (.cons words (.cons clauses .nil))) bodies
    exact .pure (RowAlike.ofParts rfl parts)

theorem typeParameters?_alike :
    Parser.Alike RowAlike (typeParameters? self) (typeParameters? self) := by
  apply inner_alike
  apply (mark?_alike "[").bind
  intro o o' openings
  cases openings with
  | none => exact .pure .nil
  | some openings =>
    apply Alike.inMode
    apply (separated_alike (typeHint_steady steady true) "]").bind
    intro parts parts' row
    exact .pure (.cons (openings.build rfl row.1) .nil)

theorem functionDefinition_alike {async async' : List Piece} (asyncs : RowAlike async async') :
    Parser.Alike Piece.Alike (functionDefinition self async) (functionDefinition self async') := by
  apply (takeAs_steady .mark).bind
  intro w w' words
  apply name_steady.bind
  intro n n' names
  apply (typeParameters?_alike steady).bind
  intro types types' typeRow
  apply (inner_alike (parameters_steady steady)).bind
  intro parameters parameters' parameterRow
  apply Alike.bind (R := RowAlike)
  · apply inner_alike
    apply (mark?_alike "->").bind
    intro o o' arrows
    cases arrows with
    | none => exact .pure .nil
    | some arrows =>
      apply (typeHint_steady steady false).bind
      intro type type' types
      exact .pure (.cons arrows (.cons (types.as .type) .nil))
  · intro result result' results
    apply (body_alike steady).bind
    intro body body' bodies
    have heads : RowAlike [w, n.as .name] [w', n'.as .name] :=
      .cons words (.cons (names.as .name) .nil)
    have parts := List.rel_append (List.rel_append (List.rel_append (List.rel_append
      (List.rel_append asyncs heads) typeRow) (.cons (parameterRow.as .parameters) .nil)) results)
      bodies
    exact .pure (RowAlike.ofParts rfl parts)

theorem classDefinition_steady : Steady (classDefinition self) := by
  apply (takeAs_steady .mark).bind
  intro w w' words
  apply name_steady.bind
  intro n n' names
  apply (typeParameters?_alike steady).bind
  intro types types' typeRow
  apply Alike.bind (R := RowAlike)
  · apply inner_alike
    apply (aheadMark_alike "(").bind
    intro opens _ same
    cases same
    apply Alike.ite _ (.pure .nil)
    apply (arguments_steady steady).bind
    intro bases bases' pieces
    rw [pieces.kind]
    exact .ite (.pure (.cons (pieces.as .arguments) .nil)) .failure
  · intro bases bases' row
    apply (body_alike steady).bind
    intro body body' bodies
    have heads : RowAlike [w, n.as .name] [w', n'.as .name] :=
      .cons words (.cons (names.as .name) .nil)
    have parts := List.rel_append (List.rel_append (List.rel_append heads typeRow) row) bodies
    exact .pure (RowAlike.ofParts rfl parts)

end Clauses

theorem asyncStatement?_alike {async async' : List Piece} (asyncs : RowAlike async async')
    {t u : Token} (tokens : t.Alike u) :
    Option.Rel (Parser.Alike Piece.Alike) (asyncStatement? self async t)
      (asyncStatement? self async' u) := by
  unfold asyncStatement?
  rw [isWord_alike "def" t u tokens, isWord_alike "for" t u tokens, isWord_alike "with" t u tokens]
  split
  · exact .some (functionDefinition_alike steady asyncs)
  split
  · exact .some (forStatement_alike steady asyncs)
  split
  · exact .some (withStatement_alike steady asyncs)
  · exact .none

theorem decoratedDefinition_steady : Steady (decoratedDefinition self) := by
  apply Alike.bind (R := RowAlike)
  · apply repeated_alike _ .nil
    intro found found' row
    apply next_alike.bind
    intro t u tokens
    cases tokens
    apply Alike.ite _ (.pure .none)
    apply (takeAs_steady .mark).bind
    intro at_ at_' marks
    apply (steady (.expression true)).bind
    intro value value' values
    apply next_alike.bind
    intro t u tokens
    cases tokens
    have decorators : (Piece.build .decorator at_ [value.as .value]).Alike
        (Piece.build .decorator at_' [value'.as .value]) :=
      marks.build rfl (.cons (values.as .value) .nil)
    exact .ite (.pure (.some (.cons decorators row))) .failure
  · intro decorators decorators' row
    apply operand_alike.bind
    intro t u tokens
    apply second?_alike.bind
    intro s s' seconds
    extract_lets goesOn goesOn'
    have behind (definition definition' : Piece) (definitions : definition.Alike definition') :
        Parser.Alike Piece.Alike (goesOn definition) (goesOn' definition') := by
      have parts := List.rel_append (List.rel_reverse row) (.cons (definitions.as .body) .nil)
      exact .pure (RowAlike.ofParts rfl parts)
    cases tokens
    rw [any_alike (isWord_alike "def") seconds]
    apply Alike.ite ((classDefinition_steady steady).bind behind)
    apply Alike.ite ((functionDefinition_alike steady .nil).bind behind)
    apply Alike.ite _ .stop
    apply (takeAs_steady .mark).bind
    intro async async' asyncs
    exact (functionDefinition_alike steady (.cons asyncs .nil)).bind behind

section Match

theorem matchHead_head_alike :
    Parser.Alike RowAlike (matchHead.head self) (matchHead.head self) := by
  apply (takeAs_steady .mark).bind
  intro w w' words
  apply Alike.bind (R := RowAlike)
  · have item : Steady ((fun q => q.as .condition) <$> self (.expression true)) :=
      (steady (.expression true)).map fun p q pieces => pieces.as .condition
    apply inner_alike
    apply (steady (.expression true)).bind
    intro first first' firsts
    exact listFrom_alike item startsItem_alike (firsts.as .condition)
  · intro subjects subjects' row
    apply (inner_alike (mark_steady ":")).bind
    intro colon colon' colons
    apply next_alike.bind
    intro t u tokens
    apply width_alike.bind
    intro width _ same
    cases same
    cases tokens
    have parts := List.rel_append (List.rel_append (.cons words .nil) row) (.cons colons .nil)
    exact .ite (.pure parts) .failure

/-- Where no match statement starts, both inputs are left as they are. -/
theorem matchHead_alike : Parser.Alike (Option.Rel RowAlike) (matchHead self) (matchHead self) := by
  intro c i j inputs
  rcases Node.missing_or_related (matchHead_head_alike steady (c := c) inputs) with
    ⟨none, none'⟩ | ⟨⟨head, i'⟩, ⟨head', j'⟩, some_, some_', heads, behind⟩
  · rw [Runs, matchHead, matchHead, none, none']
    exact .some ⟨.none, inputs⟩
  · rw [Runs, matchHead, matchHead, some_, some_']
    exact .some ⟨.some heads, behind⟩

theorem caseClause_steady : Steady (caseClause self) := by
  have starts : ∀ t u : Token, t.Alike u →
      (!(t.isWord "if" || t.isMark ":")) = (!(u.isWord "if" || u.isMark ":")) := by
    intro t u pair
    cases pair
    rfl
  apply (takeAs_steady .mark).bind
  intro w w' words
  apply Alike.bind (R := RowAlike)
  · apply inner_alike
    apply (steady .casePattern).bind
    intro first first' firsts
    exact listFrom_alike (steady .casePattern) starts firsts
  · intro patterns patterns' row
    apply Alike.bind (R := RowAlike)
    · apply inner_alike
      apply (word?_alike "if").bind
      intro o o' ifs
      cases ifs with
      | none => exact .pure .nil
      | some ifs =>
        apply (steady (.expression true)).bind
        intro condition condition' conditions
        exact .pure (.cons (ifs.build rfl (.cons (conditions.as .condition) .nil)) .nil)
    · intro guard guard' guards
      apply (body_alike steady).bind
      intro body body' bodies
      have parts := List.rel_append (List.rel_append (List.rel_append (.cons words .nil) row) guards)
        bodies
      exact .pure (RowAlike.ofParts rfl parts)

theorem matchStatement_alike {head head' : List Piece} (heads : RowAlike head head') :
    Parser.Alike Piece.Alike (matchStatement self head) (matchStatement self head') := by
  apply next_alike.bind
  intro t u tokens
  cases tokens
  apply Alike.bind (R := RowAlike)
  · apply Alike.inBlock
    apply repeated_alike _ .nil
    intro found found' row
    apply next_alike.bind
    intro t u tokens
    cases tokens
    apply Alike.ite (.pure .none)
    apply Alike.ite _ .failure
    apply (caseClause_steady steady).bind
    intro clause clause' clauses
    exact .pure (.some (.cons clauses row))
  · intro cases cases' row
    have blocks : (Piece.ofParts .block cases.reverse).Alike (Piece.ofParts .block cases'.reverse) :=
      RowAlike.ofParts rfl (List.rel_reverse row)
    have parts := List.rel_append heads (.cons (blocks.as .body) .nil)
    exact .pure (RowAlike.ofParts rfl parts)

end Match

omit steady in
/-- One statement alone. -/
theorem alone_alike {p q : Parser Piece} (pieces : Parser.Alike Piece.Alike p q) :
    Parser.Alike RowAlike (do return [← p]) (do return [← q]) := by
  apply pieces.bind
  intro statement statement' statements
  exact .pure (.cons statements .nil)

theorem statements_alike : Parser.Alike RowAlike (statements self) (statements self) := by
  have line := simpleLine_alike steady
  apply operand_alike.bind
  intro t u tokens
  have async := asyncStatement?_alike steady .nil tokens
  cases tokens
  apply Alike.ite (alone_alike (decoratedDefinition_steady steady))
  apply Alike.ite (alone_alike (ifStatement_steady steady))
  apply Alike.ite (alone_alike (whileStatement_steady steady))
  apply Alike.ite (alone_alike (tryStatement_steady steady))
  apply Alike.ite (alone_alike (classDefinition_steady steady))
  rcases Node.missing_or_related async with ⟨none, none'⟩ | ⟨p, q, some_, some_', statements⟩
  · rw [none, none']
    apply Alike.ite
    · apply second?_alike.bind
      intro s s' seconds
      have further : Option.Rel (Parser.Alike Piece.Alike)
          (s.bind fun s => asyncStatement? self [] s) (s'.bind fun s => asyncStatement? self [] s) := by
        cases seconds with
        | none => exact .none
        | some pair => exact asyncStatement?_alike steady .nil pair
      rcases Node.missing_or_related further with
        ⟨none, none'⟩ | ⟨p, q, some_, some_', -⟩
      · rw [none, none']
        exact line
      · rw [some_, some_']
        apply (takeAs_steady .mark).bind
        intro async async' asyncs
        apply next_alike.bind
        intro t u tokens
        have statement := asyncStatement?_alike steady (.cons asyncs .nil) tokens
        rcases Node.missing_or_related statement with
          ⟨none, none'⟩ | ⟨p, q, some_, some_', statements⟩
        · rw [none, none']
          exact .failure
        · rw [some_, some_']
          exact alone_alike statements
    apply Alike.ite _ line
    apply (matchHead_alike steady).bind
    intro o o' heads
    cases heads with
    | none => exact line
    | some heads => exact alone_alike (matchStatement_alike steady heads)
  · rw [some_, some_']
    exact alone_alike statements

theorem lines_steady : Steady (Grammar.lines self) := by
  apply width_alike.bind
  intro width _ same
  cases same
  apply Alike.bind (R := RowAlike)
  · apply repeated_alike _ .nil
    intro parts parts' row
    apply next_alike.bind
    intro t u tokens
    cases tokens
    apply Alike.ite (.pure .none)
    apply (statements_alike steady).bind
    intro more more' mores
    exact .pure (.some (List.rel_append (List.rel_reverse mores) row))
  · intro parts parts' row
    exact .pure (RowAlike.ofParts rfl (List.rel_reverse row))

theorem phrase_steady : AllSteady (Grammar.phrase self)
  | .expression isBare => expression_steady steady isBare
  | .operation level => operation_steady steady level
  | .assigned => assigned_steady steady
  | .lines => lines_steady steady
  | .casePattern => casePattern_steady steady

omit steady in
theorem reader_steady (depth : Nat) : AllSteady (reader depth) := by
  -- each phrase is read by phrases of a smaller depth
  induction depth with
  | zero =>
    intro phrase
    exact .failure
  | succ depth ih => exact phrase_steady ih

end Grammar

/-- The kind of a tree that is not told by its words can be another one. -/
theorem Node.Alike.withKind {n m : Node} (alike : n.Alike m) {kind : Kind}
    (loose : kind.isLoose = true) : (n.withKind kind).Alike (m.withKind kind) := by
  obtain ⟨old, role, text, span, inside⟩ := n
  obtain ⟨old', role', text', span', inside'⟩ := m
  simp only [Kind.isLoose, Bool.not_eq_true', Bool.or_eq_false_iff, beq_eq_false_iff_ne] at loose
  obtain ⟨⟨⟨word, string⟩, unary⟩, named⟩ := loose
  have notWord (isWord : kind.isWord = Bool.true) : False := by
    rw [word] at isWord
    cases isWord
  exact ⟨rfl, alike.role,
    ⟨alike.texts.rewrapped, fun isWord => (notWord isWord).elim, fun isString => absurd isString string⟩,
    ⟨fun isUnary => absurd isUnary unary, fun isNamed => absurd isNamed named⟩, alike.parts⟩

/-- Tokens that differ only in line continuations have trees that do, or both have none. -/
theorem Node.ofTokens?_alike {ts us : List Token} (tokens : List.Forall₂ Token.Alike ts us) :
    Option.Rel Node.Alike (Node.ofTokens? ts) (Node.ofTokens? us) := by
  unfold Node.ofTokens?
  cases tokens with
  | nil => exact .none
  | @cons t u ts us first rest =>
    have length : (t :: ts).length = (u :: us).length := (List.Forall₂.cons first rest).length_eq
    have inputs : Parser.Input.Alike ⟨t :: ts, t⟩ ⟨u :: us, u⟩ := ⟨.cons first rest, first⟩
    have read := Grammar.reader_steady (6 * (t :: ts).length + 6) .lines (c := ⟨.ends, 0, (t :: ts).length⟩) inputs
    dsimp only
    rw [← length]
    rcases Node.missing_or_related read with
      ⟨none, none'⟩ | ⟨⟨p, i⟩, ⟨q, j⟩, some_, some_', pieces, behind⟩
    · rw [none, none']
      exact .none
    · rw [some_, some_']
      have left : i.tokens.length = j.tokens.length := behind.tokens.length_eq
      dsimp only
      rw [left]
      split
      · exact .some (pieces.node.withKind rfl)
      · exact .none

end PoolLint.Syntax
