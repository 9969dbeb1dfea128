import PoolLint.Proofs.RewrappedExpressions
import PoolLint.Syntax.Grammar.Simple

/-! Patterns of cases and statements of one line are read alike. Whether a module is imported from
as the one of coming features is told by its name, which has no room for a line continuation unless
it has a dot. -/
namespace PoolLint.Syntax.Grammar
open PoolLint.Syntax.Parser Piece

variable {self : Phrase → Parser Piece} (steady : AllSteady self)

section Names

def Holds (c : Char) (ps : List Piece) : Prop := ∃ p ∈ ps, c ∈ p.node.text.toList

theorem Holds.textBehind {c : Char} {ps : List Piece} (holds : Holds c ps) :
    c ∈ (textBehind ps).toList := by
  obtain ⟨p, member, here⟩ := holds
  induction ps with
  | nil => cases member
  | cons q ps ih =>
    rw [textBehind_cons, String.toList_append, String.toList_append, List.mem_append,
      List.mem_append]
    rcases List.mem_cons.mp member with rfl | behind
    · exact .inl (.inr here)
    · exact .inr (ih behind)

theorem Holds.reverse {c : Char} {ps : List Piece} (holds : Holds c ps) : Holds c ps.reverse := by
  obtain ⟨p, member, here⟩ := holds
  exact ⟨p, List.mem_reverse.mpr member, here⟩

theorem Holds.append {c : Char} {ps : List Piece} (holds : Holds c ps) (qs : List Piece) :
    Holds c (ps ++ qs) := by
  obtain ⟨p, member, here⟩ := holds
  exact ⟨p, List.mem_append_left qs member, here⟩

theorem Holds.ofParts {c : Char} {kind : Kind} {ps : List Piece} (holds : Holds c ps) :
    c ∈ (ofParts kind ps).node.text.toList := by
  obtain ⟨p, member, here⟩ := holds
  cases ps with
  | nil => cases member
  | cons q ps =>
    show c ∈ (q.node.text ++ Piece.textBehind ps).toList
    rw [String.toList_append, List.mem_append]
    rcases List.mem_cons.mp member with rfl | behind
    · exact .inl here
    · exact .inr (Holds.textBehind ⟨p, behind, here⟩)

/-- Pieces whose texts are the same, or dotted. -/
structure NameAlike (p q : Piece) : Prop extends Piece.Alike p q where
  text : SameUnless '.' p.node.text q.node.text

theorem whole_or_parts_named {ps qs : List Piece} :
    Holds '.' ps → Holds '.' qs → RowAlike ps qs → Parser.Alike NameAlike
      (match ps with
        | [p] => pure p
        | parts => pure (Piece.ofParts .dottedName parts))
      (match qs with
        | [p] => pure p
        | parts => pure (Piece.ofParts .dottedName parts)) := by
  intro left right row
  have built : NameAlike (Piece.ofParts .dottedName ps) (Piece.ofParts .dottedName qs) :=
    ⟨row.ofParts rfl, .inr ⟨left.ofParts, right.ofParts⟩⟩
  cases row with
  | nil => exact .pure built
  | cons first rest =>
    cases rest with
    | nil =>
      obtain ⟨p, member, here⟩ := left
      obtain ⟨q, member', here'⟩ := right
      rw [List.mem_singleton.mp member] at here
      rw [List.mem_singleton.mp member'] at here'
      exact .pure ⟨first, .inr ⟨here, here'⟩⟩
    | cons second rest => exact .pure built

theorem dottedName_alike : Parser.Alike NameAlike dottedName dottedName := by
  apply name_alike.bind
  intro first first' firsts
  apply Alike.bind (R := fun parts parts' => RowAlike parts parts' ∧
    (parts = [first] ∧ parts' = [first'] ∨ Holds '.' parts ∧ Holds '.' parts'))
  · apply repeated_alike _ ⟨.cons firsts.toAlike .nil, .inl ⟨rfl, rfl⟩⟩
    intro parts parts' states
    apply (mark?_spelled ".").bind
    intro o o' dots
    cases dots with
    | none => exact .pure .none
    | @some dot dot' pair =>
      apply name_steady.bind
      intro n n' names
      have left : '.' ∈ dot.node.text.toList := by
        rw [pair.spelled]
        decide
      have right : '.' ∈ dot'.node.text.toList := pair.text ▸ left
      exact .pure (.some ⟨.cons names (.cons pair.toAlike states.1),
        .inr ⟨⟨dot, by simp, left⟩, ⟨dot', by simp, right⟩⟩⟩)
  · intro parts parts' states
    obtain ⟨row, ⟨rfl, rfl⟩ | ⟨left, right⟩⟩ := states
    · exact .pure ⟨firsts.toAlike, .inl firsts.text⟩
    · exact whole_or_parts_named left.reverse right.reverse (List.rel_reverse row)

theorem moduleName_alike : Parser.Alike NameAlike moduleName moduleName := by
  apply dottedName_alike.bind
  intro n n' names
  apply Alike.pure
  rw [names.node.kind]
  split
  · exact names
  · refine ⟨names.toAlike.build rfl .nil, ?_⟩
    show SameUnless '.' (n.node.text ++ Piece.textBehind []) (n'.node.text ++ Piece.textBehind [])
    exact names.text.append (.inl rfl)

theorem moduleName_steady : Steady moduleName := moduleName_alike.mono fun _ _ names => names.toAlike

/-- The dots in front of a module, if there are any. -/
structure DotsAlike (dots dots' : List Piece) : Prop where
  row : RowAlike dots dots'
  held : dots ≠ [] → Holds '.' dots ∧ Holds '.' dots'

theorem DotsAlike.cons {dots dots' : List Piece} (alike : DotsAlike dots dots') {dot dot' : Piece}
    (same : dot.Same dot') (held : '.' ∈ dot.node.text.toList) :
    DotsAlike (dot :: dots) (dot' :: dots') where
  row := .cons same.toAlike alike.row
  held _ := ⟨⟨dot, List.mem_cons_self, held⟩, ⟨dot', List.mem_cons_self, same.text ▸ held⟩⟩

theorem dot_mem {t : Token} (isDot : (t.isMark "." || t.isMark "...") = true) :
    '.' ∈ t.text.toList := by
  simp only [Token.isMark, Bool.or_eq_true, Bool.and_eq_true, beq_iff_eq] at isDot
  rcases isDot with ⟨-, text⟩ | ⟨-, text⟩
  · rw [text]
    decide
  · rw [text]
    decide

theorem importSource_alike : Parser.Alike NameAlike importSource importSource := by
  apply Alike.bind (R := DotsAlike)
  · intro c i j inputs
    apply repeated_runs (I := fun dots i dots' j => DotsAlike dots dots' ∧ Input.Alike i j) _
      ⟨⟨.nil, fun some_ => absurd rfl some_⟩, inputs⟩
    intro dots i dots' j ⟨alike, inputs⟩
    apply (operand_runs inputs).bind
    intro t i' u j' seen
    have tokens := seen.tokens
    have head := seen.head
    rw [isMark_alike "." t u tokens, isMark_alike "..." t u tokens, seen.left, seen.right]
    apply Runs.ite
    · intro isDot
      rw [← isMark_alike "." t u tokens, ← isMark_alike "..." t u tokens] at isDot
      apply (takeAs_runs .mark inputs).bind
      intro dot i dot' j taken
      have held : '.' ∈ dot.node.text.toList := by
        rw [taken.left head]
        exact dot_mem isDot
      exact .some ⟨alike.cons taken.same held, taken.inputs⟩
    · intro other
      exact .some ⟨alike, inputs⟩
  · intro dots dots' alike
    obtain ⟨row, held⟩ := alike
    cases row with
    | nil => exact moduleName_alike
    | cons first rest =>
      obtain ⟨left, right⟩ := held (List.cons_ne_nil _ _)
      have reversed := List.rel_reverse (.cons first rest)
      apply operand_alike.bind
      intro t u tokens
      cases tokens
      apply Alike.ite
      · exact .pure ⟨RowAlike.ofParts rfl reversed, .inr ⟨left.reverse.ofParts, right.reverse.ofParts⟩⟩
      · apply moduleName_alike.bind
        intro n n' names
        have whole := List.rel_append reversed (.cons names.toAlike .nil)
        exact .pure ⟨RowAlike.ofParts rfl whole,
          .inr ⟨(left.reverse.append [n]).ofParts, (right.reverse.append [n']).ofParts⟩⟩

theorem sameUnless_beq {s s' : String} (same : SameUnless '.' s s') {word : String}
    (plain : '.' ∉ word.toList) : (s == word) = (s' == word) := by
  rcases same with rfl | ⟨left, right⟩
  · rfl
  · have ne : s ≠ word := fun equal => plain (equal ▸ left)
    have ne' : s' ≠ word := fun equal => plain (equal ▸ right)
    rw [beq_false_of_ne ne, beq_false_of_ne ne']

theorem importItem_steady : Steady importItem := by
  apply moduleName_steady.bind
  intro n n' names
  apply (word?_alike "as").bind
  intro o o' words
  cases words with
  | none => exact .pure (names.as .name)
  | @some as_ as_' words =>
    apply name_steady.bind
    intro new new' news
    have whole : (Piece.build .aliasedImport (n.as .name) [as_, new.as .newName]).Alike
        (Piece.build .aliasedImport (n'.as .name) [as_', new'.as .newName]) :=
      (names.as .name).build rfl (.cons words (.cons (news.as .newName) .nil))
    exact .pure (whole.as .name)

theorem importList_alike : Parser.Alike RowAlike importList importList := by
  apply importItem_steady.bind
  intro first first' firsts
  have starts : ∀ t u, Token.Alike t u →
      (t.kind == Token.Kind.word) = (u.kind == Token.Kind.word) := by
    intro t u pair
    cases pair
    rfl
  exact listFrom_alike importItem_steady starts firsts

theorem importStatement_steady : Steady importStatement := by
  apply (takeAs_steady .mark).bind
  intro w w' words
  apply importList_alike.bind
  intro items items' row
  exact .pure (words.build rfl row)

theorem importFromStatement_steady : Steady importFromStatement := by
  apply (takeAs_steady .mark).bind
  intro w w' words
  apply (inner_alike importSource_alike).bind
  intro source source' sources
  apply (inner_alike (word_steady "import")).bind
  intro import_ import_' imports
  rw [sameUnless_beq sources.text (by decide)]
  extract_lets kind head head'
  have loose : kind.isLoose = true := by
    simp only [kind]
    split <;> rfl
  have heads : RowAlike head head' := .cons (sources.as .moduleName) (.cons imports .nil)
  apply operand_alike.bind
  intro t u tokens
  cases tokens
  apply Alike.ite
  · apply (takeAs_steady .mark).bind
    intro star star' stars
    have all : (Piece.build .wildcardImport star []).Alike (Piece.build .wildcardImport star' []) :=
      stars.build rfl .nil
    exact .pure (words.build loose (List.rel_append heads (.cons all .nil)))
  apply Alike.ite
  · apply (takeAs_steady .mark).bind
    intro opening opening' openings
    apply Alike.inMode
    apply importList_alike.bind
    intro items items' row
    apply (mark_steady ")").bind
    intro closing closing' closings
    have parts := List.rel_append (List.rel_append (List.rel_append heads (.cons openings .nil)) row)
      (.cons closings .nil)
    exact .pure (words.build loose parts)
  · apply importList_alike.bind
    intro items items' row
    exact .pure (words.build loose (List.rel_append heads row))

end Names

section Patterns

theorem numberPattern_number_steady : Steady numberPattern.number := by
  apply operand_alike.bind
  intro t u tokens
  cases tokens with
  | @intro kind text layout layout' extras extras' endsLine indent span span' _ _ _ =>
  cases kind with
  | integer => exact takeAs_steady .integer
  | float => exact takeAs_steady .float
  | word => exact .failure
  | mark => exact .failure
  | stringStart => exact .failure
  | stringContent => exact .failure
  | stringEnd => exact .failure
  | conversion => exact .failure
  | specText => exact .failure
  | finish => exact .failure

theorem numberPattern_steady : Steady numberPattern := by
  apply (mark?_spelled "-").bind
  intro sign sign' signs
  apply numberPattern_number_steady.bind
  intro real real' reals
  extract_lets value value'
  have values : value.Alike value' := by
    cases signs with
    | none => exact reals
    | some sign =>
      exact sign.toSame.build_head (.cons (reals.as .operand) .nil) (.inl ⟨rfl, rfl⟩)
  apply ahead?_alike.bind
  intro o o' tokens
  cases tokens with
  | none => exact .pure values
  | some pair =>
    cases pair
    apply Alike.ite _ (.pure values)
    apply (takeAs_steady .mark).bind
    intro operator operator' operators
    apply numberPattern_number_steady.bind
    intro right right' rights
    exact .pure ((values.as .left).build rfl
      (.cons (operators.as .operator) (.cons (rights.as .right) .nil)))

include steady

theorem keyValuePattern_steady {single : Parser Piece} (singles : Steady single) :
    Steady (keyValuePattern self single) := by
  apply operand_alike.bind
  intro t u tokens
  cases tokens
  apply Alike.ite (marked_alike name_steady rfl)
  apply singles.bind
  intro key key' keys
  apply (mark_steady ":").bind
  intro colon colon' colons
  apply (steady .casePattern).bind
  intro value value' values
  exact .pure ((keys.as .key).build rfl (.cons colons (.cons (values.as .value) .nil)))

theorem namedPattern_steady : Steady (namedPattern self) := by
  apply operand_alike.bind
  intro t u tokens
  cases tokens
  apply Alike.ite (takeAs_steady .none)
  apply Alike.ite (takeAs_steady .true)
  apply Alike.ite (takeAs_steady .false)
  apply dottedName_alike.bind
  intro n n' names
  apply (mark?_alike "(").bind
  intro o o' openings
  cases openings with
  | none => exact .pure names.toAlike
  | some openings =>
    apply Alike.inMode
    apply (separated_alike (steady .casePattern) ")").bind
    intro parts parts' row
    exact .pure ((names.as .name).build rfl (.cons openings row.1))

theorem singlePattern_steady (fuel : Nat) : Steady (singlePattern self fuel) := by
  -- on the patterns that may be inside each other
  induction fuel with
  | zero => exact .failure
  | succ fuel ih =>
    apply operand_alike.bind
    intro t u tokens
    cases tokens with
    | @intro kind text layout layout' extras extras' endsLine indent span span' _ _ _ =>
    apply Alike.ite (marked_alike name_steady rfl)
    apply Alike.ite
    · apply (takeAs_steady .mark).bind
      intro opening opening' openings
      apply Alike.inMode
      apply (separated_alike (steady .casePattern) _).bind
      intro parts parts' row
      refine .pure (openings.build ?_ row.1)
      split <;> rfl
    apply Alike.ite
    · apply (takeAs_steady .mark).bind
      intro opening opening' openings
      apply Alike.inMode
      apply (separated_alike (keyValuePattern_steady steady ih) "\x7d").bind
      intro parts parts' row
      exact .pure (openings.build rfl row.1)
    cases kind with
    | stringStart => exact joinedQuoted_steady steady
    | word => exact namedPattern_steady steady
    | integer => exact numberPattern_steady
    | float => exact numberPattern_steady
    | mark => exact numberPattern_steady
    | stringContent => exact numberPattern_steady
    | stringEnd => exact numberPattern_steady
    | conversion => exact numberPattern_steady
    | specText => exact numberPattern_steady
    | finish => exact numberPattern_steady

theorem unionPattern_steady : Steady (unionPattern self) := by
  apply context_alike.bind
  intro context _ same
  cases same
  have singles : Steady (singlePattern self context.bound) := singlePattern_steady steady _
  apply singles.bind
  intro first first' firsts
  apply (markedList_alike singles "|" firsts).bind
  intro parts parts' row
  exact whole_or_parts_alike .unionPattern rfl (List.rel_reverse row)

theorem casePattern_steady : Steady (casePattern self) := by
  apply operand_alike.bind
  intro t u tokens
  cases tokens
  apply second?_alike.bind
  intro s s' seconds
  rw [any_alike (isMark_alike "=") seconds]
  apply Alike.ite
  · apply name_steady.bind
    intro n n' names
    apply (mark_steady "=").bind
    intro equals equals' marks
    apply (unionPattern_steady steady).bind
    intro value value' values
    exact .pure ((names.as .name).build rfl (.cons marks (.cons (values.as .value) .nil)))
  · apply (unionPattern_steady steady).bind
    intro value value' values
    apply (word?_alike "as").bind
    intro o o' words
    cases words with
    | none => exact .pure values
    | some words =>
      apply name_steady.bind
      intro n n' names
      exact .pure ((values.as .value).build rfl (.cons words (.cons (names.as .newName) .nil)))

end Patterns

section Statements

theorem isOver_alike : Parser.Alike Eq isOver isOver := by
  apply ahead?_alike.bind
  intro o o' tokens
  cases tokens with
  | none => exact .pure rfl
  | some pair =>
    cases pair
    exact .pure rfl

theorem wordWithList_steady {item : Parser Piece} (items : Steady item) {kind : Kind}
    (loose : kind.isLoose = true) :
    Steady (do
      let w ← takeAs .mark
      let first ← item
      let parts ← repeated [first] fun parts => do
        match ← mark? "," with
        | none => return none
        | some comma => return some ((← item) :: comma :: parts)
      return Piece.build kind w parts.reverse) := by
  apply (takeAs_steady .mark).bind
  intro w w' words
  apply items.bind
  intro first first' firsts
  apply (markedList_alike items "," firsts).bind
  intro parts parts' row
  exact .pure (words.build loose (List.rel_reverse row))

theorem wordWithNames_steady {kind : Kind} (loose : kind.isLoose = true) :
    Steady (wordWithNames kind) := wordWithList_steady name_steady loose

theorem startsCommand_alike : Parser.Alike Eq startsCommand startsCommand := by
  apply input_alike.bind
  intro i j inputs
  obtain ⟨tokens, last⟩ := i
  obtain ⟨tokens', last'⟩ := j
  have tokensAlike : List.Forall₂ Token.Alike tokens tokens' := inputs.tokens
  cases tokensAlike with
  | nil => exact .pure rfl
  | cons first rest =>
    cases rest with
    | nil => exact .pure rfl
    | @cons t u ts us second rest =>
      have heads : ts.head?.any (·.isWord "in") = us.head?.any (·.isWord "in") := by
        cases rest with
        | nil => rfl
        | cons third rest => exact isWord_alike "in" _ _ third
      cases second
      dsimp only
      rw [heads]
      apply Alike.ite (.pure rfl)
      apply Alike.ite (.pure rfl)
      apply Alike.ite (.pure rfl)
      exact .ite (.pure rfl) (.pure rfl)

theorem startsDeclaration_alike : Parser.Alike Eq startsDeclaration startsDeclaration := by
  apply second?_alike.bind
  intro s s' seconds
  cases seconds with
  | none => exact .pure rfl
  | some pair =>
    cases pair
    exact .pure rfl

include steady

theorem assignedValue_steady : Steady (assignedValue self) := by
  apply operand_alike.bind
  intro t u tokens
  cases tokens
  exact .ite (yieldPhrase_steady steady) (steady .assigned)

theorem assigned_steady : Steady (Grammar.assigned self) := by
  apply (expressionList_steady steady).bind
  intro left left' lefts
  apply ahead?_alike.bind
  intro o o' tokens
  cases tokens with
  | none => exact .pure lefts
  | some pair =>
    cases pair
    rw [isTarget_alike lefts.node]
    apply Alike.ite
    · apply Alike.ite .stop
      apply (takeAs_steady .mark).bind
      intro equals equals' marks
      apply (assignedValue_steady steady).bind
      intro right right' rights
      exact .pure ((lefts.as .left).build rfl (.cons marks (.cons (rights.as .right) .nil)))
    apply Alike.ite
    · apply Alike.ite .stop
      apply (takeAs_steady .mark).bind
      intro colon colon' colons
      apply (typeHint_steady steady true).bind
      intro type type' types
      apply (mark?_alike "=").bind
      intro o o' marks
      cases marks with
      | none =>
        exact .pure ((lefts.as .left).build rfl (.cons colons (.cons (types.as .type) .nil)))
      | some marks =>
        apply (assignedValue_steady steady).bind
        intro right right' rights
        exact .pure ((lefts.as .left).build rfl (.cons colons (.cons (types.as .type)
          (.cons marks (.cons (rights.as .right) .nil)))))
    apply Alike.ite
    · apply Alike.ite .stop
      apply (takeAs_steady .mark).bind
      intro operator operator' marks
      apply (assignedValue_steady steady).bind
      intro right right' rights
      exact .pure ((lefts.as .left).build rfl
        (.cons (marks.as .operator) (.cons (rights.as .right) .nil)))
    · exact .pure lefts

theorem expressionStatement_steady : Steady (expressionStatement self) := by
  have behind (value value' : Piece) (values : value.Alike value') : Parser.Alike Piece.Alike
      (pure (Piece.build .expressionStatement value []))
      (pure (Piece.build .expressionStatement value' [])) := .pure (values.build rfl .nil)
  apply operand_alike.bind
  intro t u tokens
  cases tokens
  exact .ite ((yieldPhrase_steady steady).bind behind) ((steady .assigned).bind behind)

theorem wordWithValue_steady {kind : Kind} (loose : kind.isLoose = true) :
    Steady (wordWithValue self kind) := by
  apply (takeAs_steady .mark).bind
  intro w w' words
  apply isOver_alike.bind
  intro isOver _ same
  cases same
  apply Alike.ite (.pure (words.build loose .nil))
  apply (expressionList_steady steady).bind
  intro value value' values
  exact .pure (words.build loose (.cons (values.as .value) .nil))

theorem deleteStatement_steady : Steady (deleteStatement self) := by
  apply (takeAs_steady .mark).bind
  intro w w' words
  apply (expressionList_steady steady).bind
  intro value value' values
  exact .pure (words.build rfl (.cons (values.as .value) .nil))

theorem raiseStatement_steady : Steady (raiseStatement self) := by
  apply (takeAs_steady .mark).bind
  intro w w' words
  apply ahead?_alike.bind
  intro o o' tokens
  rw [any_alike startsItem_alike tokens]
  extract_lets goesOn goesOn'
  have behindValue (value value' : List Piece) (values : RowAlike value value') :
      Parser.Alike Piece.Alike (goesOn value) (goesOn' value') := by
    apply (word?_alike "from").bind
    intro o o' froms
    cases froms with
    | none =>
      apply Alike.bind (R := RowAlike) (.pure .nil)
      intro cause cause' causes
      exact .pure (words.build rfl (List.rel_append values causes))
    | some from_ =>
      apply (steady (.expression true)).bind
      intro right right' rights
      apply Alike.bind (R := RowAlike) (.pure (.cons from_ (.cons (rights.as .right) .nil)))
      intro cause cause' causes
      exact .pure (words.build rfl (List.rel_append values causes))
  apply Alike.ite
  · apply Alike.bind (R := RowAlike) _ behindValue
    apply (expressionList_steady steady).map
    intro value value' values
    exact .cons (values.as .value) .nil
  · exact Alike.bind (R := RowAlike) (.pure .nil) behindValue

theorem assertStatement_steady : Steady (assertStatement self) :=
  wordWithList_steady (steady (.expression true)) rfl

theorem printStatement_steady : Steady (printStatement self) := by
  apply (takeAs_steady .mark).bind
  intro w w' words
  apply (mark?_alike ">>").bind
  intro o o' marks
  extract_lets goesOn goesOn'
  have behind (first first' : Piece) (firsts : first.Alike first') :
      Parser.Alike Piece.Alike (goesOn first) (goesOn' first') := by
    apply (listFrom_alike (steady (.expression true)) startsItem_alike firsts).bind
    intro parts parts' row
    exact .pure (words.build rfl row)
  cases marks with
  | none => exact (steady (.expression true)).bind behind
  | some marks =>
    apply (steady (.expression true)).bind
    intro value value' values
    apply Alike.bind (R := Piece.Alike) _ behind
    exact .pure (marks.build rfl (.cons values .nil))

theorem execStatement_joinedOrName_steady : Steady (execStatement.joinedOrName self) := by
  apply operand_alike.bind
  intro t u tokens
  cases tokens
  exact .ite (quoted_steady steady) name_steady

theorem execStatement_steady : Steady (execStatement self) := by
  apply (takeAs_steady .mark).bind
  intro w w' words
  apply (execStatement_joinedOrName_steady steady).bind
  intro code code' codes
  apply (word?_alike "in").bind
  intro o o' ins
  cases ins with
  | none => exact .pure (words.build rfl (.cons codes .nil))
  | some ins =>
    apply (steady (.expression true)).bind
    intro first first' firsts
    apply (listFrom_alike (steady (.expression true)) startsItem_alike firsts).bind
    intro parts parts' row
    exact .pure (words.build rfl (.cons codes (.cons ins row)))

theorem typeAliasStatement_steady : Steady (typeAliasStatement self) := by
  apply (takeAs_steady .mark).bind
  intro w w' words
  apply (typeHint_steady steady false).bind
  intro left left' lefts
  apply (mark_steady "=").bind
  intro equals equals' marks
  apply (typeHint_steady steady false).bind
  intro right right' rights
  exact .pure (words.build rfl
    (.cons (lefts.as .left) (.cons marks (.cons (rights.as .right) .nil))))

theorem simpleStatement_steady : Steady (simpleStatement self) := by
  have plain := expressionStatement_steady steady
  have printed := printStatement_steady steady
  apply operand_alike.bind
  intro t u tokens
  cases tokens
  apply Alike.ite plain
  apply Alike.ite (wordWithValue_steady steady rfl)
  apply Alike.ite (deleteStatement_steady steady)
  apply Alike.ite (raiseStatement_steady steady)
  apply Alike.ite (markAlone_steady rfl)
  apply Alike.ite (markAlone_steady rfl)
  apply Alike.ite (markAlone_steady rfl)
  apply Alike.ite (wordWithNames_steady rfl)
  apply Alike.ite (wordWithNames_steady rfl)
  apply Alike.ite (assertStatement_steady steady)
  apply Alike.ite importStatement_steady
  apply Alike.ite importFromStatement_steady
  apply Alike.ite
  · have onLine : ∀ s s' : Token, s.Alike s' →
        (s.isMark ">>" && !s.endsLine) = (s'.isMark ">>" && !s'.endsLine) := by
      intro s s' pair
      cases pair
      rfl
    apply second?_alike.bind
    intro s s' seconds
    rw [any_alike onLine seconds]
    apply Alike.ite printed
    apply startsCommand_alike.bind
    intro isCommand _ same
    cases same
    exact .ite printed plain
  apply Alike.ite
  · apply startsCommand_alike.bind
    intro isCommand _ same
    cases same
    exact .ite (execStatement_steady steady) plain
  apply Alike.ite _ plain
  apply startsDeclaration_alike.bind
  intro isDeclaration _ same
  cases same
  exact .ite (typeAliasStatement_steady steady) plain

theorem simpleLine_alike : Parser.Alike RowAlike (simpleLine self) (simpleLine self) := by
  apply (simpleStatement_steady steady).bind
  intro first first' firsts
  apply Alike.bind (R := fun s s' => RowAlike s.1 s'.1 ∧ s.2 = s'.2)
  · apply repeated_alike _ ⟨.cons firsts .nil, rfl⟩
    intro ⟨parts, closed⟩ ⟨parts', closed'⟩ states
    obtain ⟨row, flags⟩ := states
    cases flags
    apply Alike.ite (.pure .none)
    apply (mark?_alike ";").bind
    intro o o' marks
    cases marks with
    | none => exact .pure .none
    | some semicolon =>
      apply next_alike.bind
      intro t u tokens
      cases tokens
      apply Alike.ite
      · exact .pure (.some ⟨.cons semicolon row, rfl⟩)
      · apply (simpleStatement_steady steady).bind
        intro next next' nexts
        exact .pure (.some ⟨.cons nexts (.cons semicolon row), rfl⟩)
  · intro ⟨parts, closed⟩ ⟨parts', closed'⟩ states
    apply next_alike.bind
    intro t u tokens
    cases tokens
    exact .ite (.pure (List.rel_reverse states.1)) .failure

end Statements

end PoolLint.Syntax.Grammar
