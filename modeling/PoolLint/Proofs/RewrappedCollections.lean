import PoolLint.Proofs.RewrappedPhrases
import PoolLint.Syntax.Grammar.Collection
import PoolLint.Syntax.Grammar.Parameter

/-! What stands in brackets is read alike: groups, collections, comprehensions, arguments and
parameters. -/
namespace PoolLint.Syntax.Grammar
open PoolLint.Syntax.Parser Piece

/-- The rest of a list in brackets behind its first item. -/
def listed (item : Parser Piece) (kind single : Kind) (close : String) (opening first : Piece) :
    Parser Piece := do
  match ← mark? "," with
  | none => return Piece.build single opening [first, ← mark close]
  | some comma =>
    let (parts, _) ← separated item close
    return Piece.build kind opening (first :: comma :: parts)

variable {self : Phrase → Parser Piece} (steady : AllSteady self)
include steady

section Loops

theorem targetList_steady : Steady (targetList self) := by
  apply (steady (.operation 9)).bind
  intro first first' firsts
  apply (listFrom_alike (steady (.operation 9)) startsItem_alike firsts).bind
  intro parts parts' row
  extract_lets targets targets'
  have pair : targets.Alike targets' := whole_or_parts_same .expressionList rfl row
  rw [isTarget_alike pair.node]
  exact .ite (.pure pair) .failure

omit steady in
theorem startsLoop_alike : Alike Eq startsLoop startsLoop := by
  apply ahead?_alike.bind
  intro o o' tokens
  cases tokens with
  | none => exact .pure rfl
  | some pair =>
    cases pair
    apply Alike.ite (.pure rfl)
    apply Alike.ite _ (.pure rfl)
    apply second?_alike.bind
    intro s s' tokens
    exact .pure (any_alike (isWord_alike "for") tokens)

theorem forInClause_steady : Steady (forInClause self) := by
  apply (word?_alike "async").bind
  intro async async' asyncs
  apply (word_steady "for").bind
  intro for_ for_' fors
  apply (targetList_steady steady).bind
  intro left left' lefts
  apply (word_steady "in").bind
  intro in_ in_' ins
  apply (steady (.expression false)).bind
  intro first first' firsts
  have item : Steady ((fun q => q.as .right) <$> self (.expression false)) :=
    (steady (.expression false)).map fun p q pieces => pieces.as .right
  apply (listFrom_alike item startsItem_alike (firsts.as .right)).bind
  intro right right' rights
  have row : RowAlike (async.toList ++ [for_, left.as .left, in_] ++ right)
      (async'.toList ++ [for_', left'.as .left, in_'] ++ right') :=
    List.rel_append (List.rel_append (row_of_optional asyncs)
      (.cons fors (.cons (lefts.as .left) (.cons ins .nil)))) rights
  exact .pure (row.ofParts rfl)

theorem comprehensionClauses_alike :
    Alike RowAlike (comprehensionClauses self) (comprehensionClauses self) := by
  apply (forInClause_steady steady).bind
  intro first first' firsts
  apply Alike.bind (R := RowAlike)
  · apply repeated_alike _ (.cons firsts .nil)
    intro parts parts' row
    apply startsLoop_alike.bind
    intro starts _ same
    cases same
    apply Alike.ite
    · apply (forInClause_steady steady).bind
      intro clause clause' clauses
      exact .pure (.some (.cons clauses row))
    · apply (word?_alike "if").bind
      intro o o' words
      cases words with
      | none => exact .pure .none
      | some if_ =>
        apply (steady (.expression false)).bind
        intro condition condition' conditions
        exact .pure (.some
          (.cons (if_.build rfl (.cons (conditions.as .condition) .nil)) row))
  · intro parts parts' row
    exact .pure (List.rel_reverse row)

variable {opening opening' : Piece} (openings : opening.Alike opening')
include openings

theorem comprehension_alike {kind : Kind} (loose : kind.isLoose = true) {body body' : Piece}
    (bodies : body.Alike body') (close : String) :
    Alike Piece.Alike (comprehension self kind opening body close)
      (comprehension self kind opening' body' close) := by
  apply (comprehensionClauses_alike steady).bind
  intro clauses clauses' row
  apply (mark_steady close).bind
  intro closing closing' closings
  exact .pure (openings.build loose
    (.cons (bodies.as .body) (List.rel_append row (.cons closings .nil))))

omit openings steady in
theorem listed_alike {item : Parser Piece} (items : Steady item) {kind single : Kind}
    (loose : kind.isLoose = true) (loose' : single.isLoose = true)
    (openings : opening.Alike opening') {first first' : Piece} (firsts : first.Alike first')
    (close : String) :
    Alike Piece.Alike (listed item kind single close opening first)
      (listed item kind single close opening' first') := by
  apply (mark?_alike ",").bind
  intro o o' commas
  cases commas with
  | none =>
    apply (mark_steady close).bind
    intro closing closing' closings
    exact .pure (openings.build loose' (.cons firsts (.cons closings .nil)))
  | some comma =>
    apply (separated_alike items close).bind
    intro parts parts' row
    exact .pure (openings.build loose (.cons firsts (.cons comma row.1)))

end Loops

/-- What stands in brackets: nothing, a comprehension or a list of elements. -/
theorem enclosed_steady {kind single generator : Kind} (loose : kind.isLoose = true)
    (loose' : single.isLoose = true) (loose'' : generator.isLoose = true) (close : String) :
    Steady (do
      let opening ← takeAs .mark
      inMode .bracketed do
        match ← mark? close with
        | some closing => return Piece.build kind opening [closing]
        | none =>
          let first ← element self
          if ← startsLoop then comprehension self generator opening first close
          else collection self kind single opening first close) := by
  apply (takeAs_steady .mark).bind
  intro opening opening' openings
  apply Alike.inMode
  apply (mark?_alike close).bind
  intro o o' closings
  cases closings with
  | some closings => exact .pure (openings.build loose (.cons closings .nil))
  | none =>
    apply (element_steady steady).bind
    intro first first' firsts
    apply startsLoop_alike.bind
    intro isLoop _ same
    cases same
    apply Alike.ite
    · exact comprehension_alike steady openings loose'' firsts close
    · exact listed_alike (element_steady steady) loose loose' openings firsts close

theorem parenthesized_steady : Steady (parenthesized self) :=
  enclosed_steady steady rfl rfl rfl ")"

theorem bracketed_steady : Steady (bracketed self) := enclosed_steady steady rfl rfl rfl "]"

section Records

theorem pairFrom_alike {key key' : Piece} (keys : key.Alike key') :
    Alike Piece.Alike (pairFrom self key) (pairFrom self key') := by
  apply (mark_steady ":").bind
  intro colon colon' colons
  apply (steady (.expression true)).bind
  intro value value' values
  exact .pure ((keys.as .key).build rfl (.cons colons (.cons (values.as .value) .nil)))

theorem recordEntry_steady : Steady (recordEntry self) := by
  apply operand_alike.bind
  intro t u tokens
  cases tokens
  apply Alike.ite
  · exact marked_alike (steady (.expression true)) rfl
  · apply (steady (.expression true)).bind
    intro key key' keys
    exact pairFrom_alike steady keys

theorem record_alike {opening opening' first first' : Piece} (openings : opening.Alike opening')
    (firsts : first.Alike first') :
    Alike Piece.Alike (record self opening first) (record self opening' first') :=
  listed_alike (recordEntry_steady steady) rfl rfl openings firsts "\x7d"

omit steady in
theorem nothing?_alike (close : String) :
    Alike (Option.Rel RowAlike) (nothing? close) (nothing? close) := by
  apply (mark?_alike close).bind
  intro o o' closings
  cases closings with
  | some closings => exact .pure (.some (.cons closings .nil))
  | none =>
    apply (mark?_alike ",").bind
    intro o o' commas
    cases commas with
    | some commas =>
      apply (mark_steady close).bind
      intro closing closing' closings
      exact .pure (.some (.cons commas (.cons closings .nil)))
    | none => exact .pure .none

theorem braced_steady : Steady (braced self) := by
  apply (takeAs_steady .mark).bind
  intro opening opening' openings
  apply Alike.inMode
  apply (nothing?_alike "\x7d").bind
  intro o o' rows
  cases rows with
  | some row => exact .pure (openings.build rfl row)
  | none =>
    apply operand_alike.bind
    intro t u tokens
    cases tokens
    apply Alike.ite
    · apply (recordEntry_steady steady).bind
      intro entry entry' entries
      exact record_alike steady openings entries
    · apply (element_steady steady).bind
      intro first first' firsts
      apply (aheadMark_alike ":").bind
      intro isPair _ same
      cases same
      apply Alike.ite
      · apply (pairFrom_alike steady firsts).bind
        intro pair pair' pairs
        apply startsLoop_alike.bind
        intro isLoop _ same
        cases same
        apply Alike.ite
        · exact comprehension_alike steady openings rfl pairs "\x7d"
        · exact record_alike steady openings pairs
      · apply startsLoop_alike.bind
        intro isLoop _ same
        cases same
        apply Alike.ite
        · exact comprehension_alike steady openings rfl firsts "\x7d"
        · exact listed_alike (element_steady steady) rfl rfl openings firsts "\x7d"

end Records

section Arguments

theorem argument_steady : Steady (argument self) := by
  apply operand_alike.bind
  intro t u tokens
  cases tokens
  apply Alike.ite (marked_alike (steady (.expression true)) rfl)
  apply Alike.ite (marked_alike (steady (.expression true)) rfl)
  apply second?_alike.bind
  intro s s' seconds
  rw [any_alike (isMark_alike "=") seconds]
  apply Alike.ite _ (steady (.expression true))
  apply name_alike.bind
  intro n n' names
  apply (mark_steady "=").bind
  intro equals equals' marks
  apply (steady (.expression true)).bind
  intro value value' values
  have row : RowAlike [equals, value.as .value] [equals', value'.as .value] :=
    .cons marks (.cons (values.as .value) .nil)
  exact .pure (names.build_head row (.inr ⟨rfl, rfl⟩))

theorem arguments_steady : Steady (arguments self) := by
  apply (mark_steady "(").bind
  intro opening opening' openings
  apply Alike.inMode
  apply (nothing?_alike ")").bind
  intro o o' rows
  cases rows with
  | some row => exact .pure (openings.build rfl row)
  | none =>
    apply (argument_steady steady).bind
    intro first first' firsts
    apply startsLoop_alike.bind
    intro isLoop _ same
    cases same
    apply Alike.ite
    · rw [firsts.kind]
      split
      · exact .failure
      · exact .failure
      · exact .failure
      · exact comprehension_alike steady openings rfl firsts ")"
    · exact listed_alike (argument_steady steady) rfl rfl openings firsts ")"

end Arguments

section Parameters

theorem spreadParameter_steady {kind : Kind} (loose : kind.isLoose = true) (isAnnotated : Bool) :
    Steady (spreadParameter self kind isAnnotated) := by
  apply (takeAs_steady .mark).bind
  intro star star' stars
  apply name_steady.bind
  intro n n' names
  extract_lets spread spread'
  have spreads : spread.Alike spread' := stars.build loose (.cons (names.as .name) .nil)
  apply Alike.ite _ (.pure spreads)
  apply (mark?_alike ":").bind
  intro o o' colons
  cases colons with
  | none => exact .pure spreads
  | some colons =>
    apply (typeHint_steady steady true).bind
    intro type type' types
    exact .pure (spreads.build rfl (.cons colons (.cons (types.as .type) .nil)))

theorem withDefault_alike {plain defaulted : Kind} (loose : plain.isLoose = true)
    (loose' : defaulted.isLoose = true) {p p' : Piece} {parts parts' : List Piece}
    (firsts : p.Alike p') (row : RowAlike parts parts') :
    Alike Piece.Alike (withDefault self plain defaulted p parts)
      (withDefault self plain defaulted p' parts') := by
  apply (mark?_alike "=").bind
  intro o o' marks
  cases marks with
  | some marks =>
    apply (steady (.expression true)).bind
    intro value value' values
    have behind := List.rel_append row (.cons marks (.cons (values.as .value) .nil))
    exact .pure (firsts.build loose' behind)
  | none =>
    cases row with
    | nil => exact .pure firsts
    | cons second rest => exact .pure (firsts.build loose (.cons second rest))

theorem parameter_steady (isAnnotated : Bool) : Steady (parameter self isAnnotated) := by
  apply operand_alike.bind
  intro t u tokens
  cases tokens
  apply Alike.ite
  · apply second?_alike.bind
    intro s s' seconds
    cases seconds with
    | none => exact .failure
    | some pair =>
      cases pair
      exact .ite (spreadParameter_steady steady rfl isAnnotated) (markAlone_steady rfl)
  apply Alike.ite (spreadParameter_steady steady rfl isAnnotated)
  apply Alike.ite (markAlone_steady rfl)
  apply Alike.ite
  · apply (steady (.operation 9)).bind
    intro p p' pieces
    rw [isTarget_alike pieces.node]
    exact .ite (withDefault_alike steady rfl rfl (pieces.as .name) .nil) .failure
  · apply name_steady.bind
    intro n n' names
    extract_lets named goesOn named' goesOn'
    -- with or without an annotation, the default is read by the same steps
    have behind (colon colon' : Option Piece) (colons : Option.Rel Piece.Alike colon colon') :
        Alike Piece.Alike (goesOn colon) (goesOn' colon') := by
      cases colons with
      | none => exact withDefault_alike steady rfl rfl (names.as .name) .nil
      | some colons =>
        apply (typeHint_steady steady true).bind
        intro type type' types
        exact withDefault_alike steady rfl rfl (names.as .name)
          (.cons colons (.cons (types.as .type) .nil))
    apply Alike.ite
    · exact (mark?_alike ":").bind behind
    · apply Alike.bind (R := Option.Rel Piece.Alike) _ behind
      exact .pure .none

theorem parameters_steady : Steady (parameters self) := by
  apply (mark_steady "(").bind
  intro opening opening' openings
  apply Alike.inMode
  apply (separated_alike (parameter_steady steady true) ")").bind
  intro parts parts' row
  exact .pure (openings.build rfl row.1)

theorem lambdaParameters_alike :
    Alike (Option.Rel Piece.Alike) (lambdaParameters self) (lambdaParameters self) := by
  apply inner_alike
  apply (aheadMark_alike ":").bind
  intro isOver _ same
  cases same
  apply Alike.ite (.pure .none)
  have starts : ∀ t u, Token.Alike t u → (!t.isMark ":") = (!u.isMark ":") := by
    intro t u pair
    rw [isMark_alike ":" t u pair]
  apply (parameter_steady steady false).bind
  intro first first' firsts
  apply (listFrom_alike (parameter_steady steady false) starts firsts).bind
  intro parts parts' row
  exact .pure (.some (row.ofParts rfl))

end Parameters

end PoolLint.Syntax.Grammar
