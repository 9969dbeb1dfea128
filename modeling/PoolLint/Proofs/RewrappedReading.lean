import PoolLint.Proofs.RewrappedTrees
import PoolLint.Syntax.Grammar.Phrase

/-! Readers over tokens that differ only in the line continuations in front of them: both readers
fail, or both answer values that differ only in line continuations and leave such tokens. One lemma
for each way to put readers together, and one for each elementary reader. -/
namespace PoolLint.Syntax

/-- Tokens that stand on the same kind of line behind layouts that differ only in line
continuations. Between quotes there is no layout. -/
inductive Token.Alike : Token → Token → Prop
  | intro {kind : Token.Kind} {text layout layout' : String} {extras extras' : List Node}
      {endsLine : Bool} {indent : Nat} {span span' : Span}
      (rewrapped : Rewrapped layout.toList layout'.toList)
      (inQuotes : kind = .stringContent ∨ kind = .stringEnd → layout = layout')
      (comments : Node.AllAlike extras extras') :
      Alike ⟨kind, text, layout, extras, endsLine, indent, span⟩
        ⟨kind, text, layout', extras', endsLine, indent, span'⟩

/-- Kinds of constructs whose text may have line continuations in it and tells nothing more. -/
def Kind.isLoose (kind : Kind) : Bool :=
  !(kind.isWord || kind == .string || kind == .unaryOperator || kind == .keywordArgument)

namespace Piece

structure Alike (p q : Piece) : Prop where
  layout : Rewrapped p.layout.toList q.layout.toList
  extras : Node.AllAlike p.extras q.extras
  node : p.node.Alike q.node

/-- Pieces of a single word or mark. -/
structure Same (p q : Piece) : Prop extends Alike p q where
  text : p.node.text = q.node.text

/-- Rows of pieces that differ only in line continuations. -/
abbrev RowAlike : List Piece → List Piece → Prop := List.Forall₂ Alike

variable {p q : Piece} {ps qs : List Piece}

theorem Alike.as (alike : p.Alike q) (role : Role) : (p.as role).Alike (q.as role) := by
  obtain ⟨layout, extras, ⟨kind, role', text, span, inside⟩⟩ := p
  obtain ⟨layout', extras', ⟨kind', role'', text', span', inside'⟩⟩ := q
  exact ⟨alike.layout, alike.extras, alike.node.kind, rfl, alike.node.texts, alike.node.heads,
    alike.node.parts⟩

theorem Alike.kind (alike : p.Alike q) : p.kind = q.kind := alike.node.kind

theorem ofToken_same {t u : Token} (alike : t.Alike u) (kind : Kind) :
    (ofToken t kind).Same (ofToken u kind) := by
  obtain ⟨rewrapped, inQuotes, comments⟩ := alike
  exact ⟨⟨rewrapped, comments, rfl, rfl, ⟨.refl _, fun _ => rfl, fun _ => .inl rfl⟩,
    ⟨fun _ => rfl, fun _ => rfl⟩, .nil⟩, rfl⟩

theorem empty_alike (kind : Kind) (place place' : Position) :
    (empty kind place).Alike (empty kind place') :=
  ⟨.refl _, .nil, rfl, rfl, ⟨.refl _, fun _ => rfl, fun _ => .inl rfl⟩,
    ⟨fun _ => rfl, fun _ => rfl⟩, .nil⟩

theorem append_rewrapped {s s' t t' : String} (first : Rewrapped s.toList s'.toList)
    (second : Rewrapped t.toList t'.toList) : Rewrapped (s ++ t).toList (s' ++ t').toList := by
  rw [String.toList_append, String.toList_append]
  exact first.append second

theorem textBehind_cons : textBehind (p :: ps) = p.layout ++ p.node.text ++ textBehind ps := by
  have behind (s : String) :
      ps.foldl (fun text p => text ++ p.layout ++ p.node.text) s = s ++ textBehind ps := by
    unfold textBehind
    induction ps generalizing s with
    | nil => simp
    | cons p ps ih => rw [List.foldl_cons, List.foldl_cons, ih, ih ("" ++ _ ++ _)]; simp [String.append_assoc]
  have whole := behind ("" ++ p.layout ++ p.node.text)
  rwa [String.empty_append] at whole

theorem textBehind_alike (row : RowAlike ps qs) :
    Rewrapped (textBehind ps).toList (textBehind qs).toList := by
  induction row with
  | nil => exact .nil
  | cons pair rest ih =>
    rw [textBehind_cons, textBehind_cons]
    exact append_rewrapped (append_rewrapped pair.layout pair.node.texts.rewrapped) ih

theorem parts_alike (row : RowAlike ps qs) :
    Node.AllAlike (ps.flatMap fun p => p.extras ++ [p.node])
      (qs.flatMap fun p => p.extras ++ [p.node]) := by
  induction row with
  | nil => exact .nil
  | cons pair rest ih => exact (pair.extras.append (.single pair.node)).append ih

/-- What is built of pieces has their line continuations as parts. -/
theorem Alike.build_of_heads {kind : Kind} (first : p.Alike q) (row : RowAlike ps qs)
    (word : kind.isWord = false)
    (quoted : kind = .string → (build kind p ps).node.text = (build kind q qs).node.text ∨
      '\x7b' ∈ (build kind p ps).node.text.toList ∧ '\x7b' ∈ (build kind q qs).node.text.toList)
    (heads : Node.HeadsAlike kind (build kind p ps).node.children (build kind q qs).node.children) :
    (build kind p ps).Alike (build kind q qs) where
  layout := first.layout
  extras := first.extras
  node := {
    kind := rfl
    role := rfl
    texts := {
      rewrapped := append_rewrapped first.node.texts.rewrapped (textBehind_alike row)
      word := fun isWord => absurd isWord (by simp [build, word])
      quoted := quoted }
    heads := heads
    parts := (Node.AllAlike.single first.node).append (parts_alike row) }

theorem Alike.build {kind : Kind} (loose : kind.isLoose = true) (first : p.Alike q)
    (row : RowAlike ps qs) : (build kind p ps).Alike (build kind q qs) := by
  simp only [Kind.isLoose, Bool.not_eq_true', Bool.or_eq_false_iff, beq_eq_false_iff_ne] at loose
  obtain ⟨⟨⟨word, string⟩, unary⟩, named⟩ := loose
  exact first.build_of_heads row word (fun isString => absurd isString string)
    ⟨fun isUnary => absurd isUnary unary, fun isNamed => absurd isNamed named⟩

theorem textOf?_build {kind : Kind} {role : Role} :
    Node.textOf? role (build kind (p.as role) ps).node.children = some p.node.text := by
  obtain ⟨layout, extras, ⟨kind', role', text, span, inside⟩⟩ := p
  simp [Piece.build, Piece.as, Node.withRole, Node.textOf?]

/-- The first part of these constructs is a single word. -/
theorem Same.build_head {kind : Kind} {role : Role} (same : p.Same q) (row : RowAlike ps qs)
    (head : kind = .unaryOperator ∧ role = .operator ∨ kind = .keywordArgument ∧ role = .name) :
    (build kind (p.as role) ps).Alike (build kind (q.as role) qs) := by
  have texts : Node.textOf? role (build kind (p.as role) ps).node.children =
      Node.textOf? role (build kind (q.as role) qs).node.children := by
    rw [textOf?_build, textOf?_build, same.text]
  rcases head with ⟨rfl, rfl⟩ | ⟨rfl, rfl⟩
  · exact (same.toAlike.as _).build_of_heads row rfl nofun ⟨fun _ => texts, nofun⟩
  · exact (same.toAlike.as _).build_of_heads row rfl nofun ⟨nofun, fun _ => texts⟩

theorem row_of_optional {o o' : Option Piece} (pieces : Option.Rel Alike o o') :
    RowAlike o.toList o'.toList := by
  cases pieces with
  | none => exact .nil
  | some pair => exact .cons pair .nil

theorem RowAlike.ofParts {kind : Kind} (loose : kind.isLoose = true) (row : RowAlike ps qs) :
    (ofParts kind ps).Alike (ofParts kind qs) := by
  cases row with
  | nil => exact empty_alike kind _ _
  | cons first rest => exact first.build loose rest

theorem whole_or_parts_same (kind : Kind) (loose : kind.isLoose = true) :
    RowAlike ps qs → (match ps with
      | [p] => p
      | parts => ofParts kind parts).Alike (match qs with
      | [p] => p
      | parts => ofParts kind parts) := by
  intro row
  have built := row.ofParts loose
  cases row with
  | nil => exact built
  | cons first rest =>
    cases rest with
    | nil => exact first
    | cons second rest => exact built

end Piece

namespace Parser

/-- Inputs whose tokens differ only in the line continuations in front of them. -/
structure Input.Alike (i j : Input) : Prop where
  tokens : List.Forall₂ Token.Alike i.tokens j.tokens
  last : i.last.Alike j.last

/-- Both readers fail, or both succeed with a property of what they answer and leave. -/
def Runs {α β : Type} (p : Parser α) (q : Parser β) (c : Context) (i j : Input)
    (Q : α → Input → β → Input → Prop) : Prop :=
  Option.Rel (fun a b => Q a.1 a.2 b.1 b.2) (p c i) (q c j)

/-- Readers that answer related values wherever their inputs are alike. -/
def Alike {α β : Type} (R : α → β → Prop) (p : Parser α) (q : Parser β) : Prop :=
  ∀ ⦃c i j⦄, Input.Alike i j → Runs p q c i j fun v i w j => R v w ∧ Input.Alike i j

/-- A reader of pieces that line continuations make no difference to. -/
def Steady (p : Parser Piece) : Prop := Alike Piece.Alike p p

theorem Runs.bind {α β γ δ : Type} {p : Parser α} {q : Parser β} {f : α → Parser γ}
    {g : β → Parser δ} {c : Context} {i j : Input} {P : α → Input → β → Input → Prop}
    {Q : γ → Input → δ → Input → Prop} (first : Runs p q c i j P)
    (next : ∀ v i w j, P v i w j → Runs (f v) (g w) c i j Q) :
    Runs (p >>= f) (q >>= g) c i j Q := by
  rcases Node.missing_or_related first with
    ⟨none, none'⟩ | ⟨⟨v, i'⟩, ⟨w, j'⟩, some_, some_', holds⟩
  · have left : (p >>= f) c i = .none := by
      apply Option.bind_eq_none_iff.mpr
      intro a found
      rw [none] at found
      cases found
    have right : (q >>= g) c j = .none := by
      apply Option.bind_eq_none_iff.mpr
      intro a found
      rw [none'] at found
      cases found
    rw [Runs, left, right]
    exact .none
  · have left : (p >>= f) c i = f v c i' := by
      show (p c i).bind _ = _
      rw [some_]
      rfl
    have right : (q >>= g) c j = g w c j' := by
      show (q c j).bind _ = _
      rw [some_']
      rfl
    rw [Runs, left, right]
    exact next v i' w j' holds

theorem Runs.mono {α β : Type} {p : Parser α} {q : Parser β} {c : Context} {i j : Input}
    {P Q : α → Input → β → Input → Prop} (runs : Runs p q c i j P)
    (weaker : ∀ v i w j, P v i w j → Q v i w j) : Runs p q c i j Q := by
  rcases Node.missing_or_related runs with ⟨none, none'⟩ | ⟨v, w, some_, some_', holds⟩
  · rw [Runs, none, none']
    exact .none
  · rw [Runs, some_, some_']
    exact .some (weaker _ _ _ _ holds)

theorem Runs.ite {α β : Type} {p p' : Parser α} {q q' : Parser β} {c : Context} {i j : Input}
    {Q : α → Input → β → Input → Prop} {b : Prop} [Decidable b] (first : b → Runs p q c i j Q)
    (second : ¬ b → Runs p' q' c i j Q) :
    Runs (if b then p else p') (if b then q else q') c i j Q := by
  split
  · exact first ‹_›
  · exact second ‹_›

namespace Alike

variable {α β γ δ : Type} {R : α → β → Prop} {S : γ → δ → Prop} {p : Parser α} {q : Parser β}
  {f : α → Parser γ} {g : β → Parser δ}

theorem pure {v : α} {w : β} (related : R v w) : Alike R (Pure.pure v) (Pure.pure w) :=
  fun _ _ _ alike => .some ⟨related, alike⟩

theorem failure : Alike R (Alternative.failure : Parser α) (Alternative.failure : Parser β) :=
  fun _ _ _ _ => .none

theorem bind (first : Alike R p q) (next : ∀ v w, R v w → Alike S (f v) (g w)) :
    Alike S (p >>= f) (q >>= g) :=
  fun _ _ _ alike => (first alike).bind fun v _ w _ ⟨related, alike⟩ => next v w related alike

theorem mono {R' : α → β → Prop} (alike : Alike R p q) (weaker : ∀ v w, R v w → R' v w) :
    Alike R' p q :=
  fun _ _ _ inputs => (alike inputs).mono fun v _ w _ ⟨related, behind⟩ => ⟨weaker v w related, behind⟩

theorem map {h : α → γ} {k : β → δ} (first : Alike R p q) (next : ∀ v w, R v w → S (h v) (k w)) :
    Alike S (h <$> p) (k <$> q) :=
  first.bind fun v w related => pure (next v w related)

theorem stop : Alike S (Alternative.failure >>= f) (Alternative.failure >>= g) :=
  (failure (R := fun _ _ => False)).bind fun _ _ impossible => impossible.elim

theorem inMode (mode : LineMode) (alike : Alike R p q) : Alike R (inMode mode p) (inMode mode q) :=
  fun _ _ _ inputs => alike inputs

theorem inField (alike : Alike R p q) : Alike R (inField p) (inField q) :=
  fun _ _ _ inputs => alike inputs

theorem inBlock (width : Nat) (alike : Alike R p q) :
    Alike R (inBlock width p) (inBlock width q) :=
  fun _ _ _ inputs => alike inputs

theorem ite {b : Prop} [Decidable b] {p' : Parser α} {q' : Parser β} (first : Alike R p q)
    (second : Alike R p' q') : Alike R (if b then p else p') (if b then q else q') := by
  split
  · exact first
  · exact second

end Alike

section Elementary

theorem context_alike : Alike Eq (read : Parser Context) (read : Parser Context) :=
  fun _ _ _ alike => .some ⟨rfl, alike⟩

theorem input_alike : Alike Input.Alike input input :=
  fun _ _ _ alike => .some ⟨alike, alike⟩

theorem width_alike : Alike Eq Parser.width Parser.width :=
  fun _ _ _ alike => .some ⟨rfl, alike⟩

/-- Tokens that are next in both inputs, which are left as they are. -/
structure Seen (i j : Input) (t : Token) (i' : Input) (u : Token) (j' : Input) : Prop where
  tokens : t.Alike u
  head : i.tokens.head? = some t
  left : i' = i
  right : j' = j

theorem Seen.weaken {i j i' j' : Input} {t u : Token} (seen : Seen i j t i' u j')
    (inputs : Input.Alike i j) : t.Alike u ∧ Input.Alike i' j' := by
  obtain ⟨tokens, -, rfl, rfl⟩ := seen
  exact ⟨tokens, inputs⟩

theorem input_runs {c : Context} {i j : Input} :
    Runs input input c i j fun v i' w j' => v = i ∧ w = j ∧ i' = i ∧ j' = j :=
  .some ⟨rfl, rfl, rfl, rfl⟩

theorem context_runs {c : Context} {i j : Input} :
    Runs (read : Parser Context) (read : Parser Context) c i j fun v i' w j' =>
      v = w ∧ i' = i ∧ j' = j :=
  .some ⟨rfl, rfl, rfl⟩

theorem next_runs {c : Context} {i j : Input} (inputs : Input.Alike i j) :
    Runs next next c i j (Seen i j) := by
  obtain ⟨tokens, last⟩ := i
  obtain ⟨tokens', last'⟩ := j
  have tokensAlike : List.Forall₂ Token.Alike tokens tokens' := inputs.tokens
  cases tokensAlike with
  | nil => exact .none
  | cons pair rest => exact .some ⟨pair, rfl, rfl, rfl⟩

theorem next_alike : Alike Token.Alike next next :=
  fun _ _ _ inputs => (next_runs inputs).mono fun _ _ _ _ seen => seen.weaken inputs

theorem second?_alike : Alike (Option.Rel Token.Alike) second? second? := by
  apply input_alike.bind
  intro i j inputs
  obtain ⟨tokens, last⟩ := i
  obtain ⟨tokens', last'⟩ := j
  have tokensAlike : List.Forall₂ Token.Alike tokens tokens' := inputs.tokens
  apply Alike.pure
  cases tokensAlike with
  | nil => exact .none
  | cons pair rest =>
    cases rest with
    | nil => exact .none
    | cons pair rest => exact .some pair

structure Taken (kind : Kind) (i : Input) (p : Piece) (i' : Input) (q : Piece) (j' : Input) :
    Prop where
  pieces : ∃ t u, t.Alike u ∧ i.tokens.head? = some t ∧ p = .ofToken t kind ∧ q = .ofToken u kind
  inputs : Input.Alike i' j'

theorem Taken.same {kind : Kind} {i i' j' : Input} {p q : Piece} (taken : Taken kind i p i' q j') :
    p.Same q := by
  obtain ⟨t, u, tokens, -, rfl, rfl⟩ := taken.pieces
  exact Piece.ofToken_same tokens kind

theorem Taken.left {kind : Kind} {i i' j' : Input} {p q : Piece} {t : Token}
    (taken : Taken kind i p i' q j') (head : i.tokens.head? = some t) : p = .ofToken t kind := by
  obtain ⟨t', u, -, head', left, -⟩ := taken.pieces
  rw [head] at head'
  cases head'
  exact left

/-- Between quotes no line is continued in front of a token. -/
theorem Taken.content {kind : Kind} {i i' j' : Input} {p q : Piece} {t : Token}
    (taken : Taken kind i p i' q j') (head : i.tokens.head? = some t)
    (inQuotes : t.kind = .stringContent ∨ t.kind = .stringEnd) :
    p.layout ++ p.node.text = q.layout ++ q.node.text := by
  obtain ⟨t', u, tokens, head', left, right⟩ := taken.pieces
  rw [head] at head'
  cases head'
  rw [left, right]
  obtain ⟨rewrapped, same, comments⟩ := tokens
  exact congrArg (· ++ _) (same inQuotes)

theorem takeAs_runs (kind : Kind) {c : Context} {i j : Input} (inputs : Input.Alike i j) :
    Runs (takeAs kind) (takeAs kind) c i j (Taken kind i) := by
  apply Runs.bind (P := fun t i' u j' => t.Alike u ∧ i.tokens.head? = some t ∧ Input.Alike i' j')
  · apply input_runs.bind
    intro v i' w j' ⟨here, here', left, right⟩
    subst here here' left right
    obtain ⟨tokens, last⟩ := i'
    obtain ⟨tokens', last'⟩ := j'
    have tokensAlike : List.Forall₂ Token.Alike tokens tokens' := inputs.tokens
    cases tokensAlike with
    | nil => exact .none
    | cons pair rest =>
      have first := pair
      cases pair
      apply Runs.ite
      · intro isLast
        exact .none
      · intro goesOn
        exact .some ⟨first, rfl, rest, first⟩
  · intro t i' u j' ⟨tokens, head, behind⟩
    exact .some ⟨⟨t, u, tokens, head, rfl, rfl⟩, behind⟩

theorem takeAs_alike (kind : Kind) : Alike Piece.Same (takeAs kind) (takeAs kind) :=
  fun _ _ _ inputs => (takeAs_runs kind inputs).mono fun _ _ _ _ taken => ⟨taken.same, taken.inputs⟩

theorem takeAs_steady (kind : Kind) : Steady (takeAs kind) :=
  (takeAs_alike kind).mono fun _ _ same => same.toAlike

theorem ahead?_runs {c : Context} {i j : Input} (inputs : Input.Alike i j) :
    Runs ahead? ahead? c i j fun o i' o' j' => Option.Rel Token.Alike o o' ∧
      (∀ t ∈ o, i.tokens.head? = some t) ∧ i' = i ∧ j' = j := by
  apply (next_runs inputs).bind
  intro t i' u j' ⟨tokens, head, left, right⟩
  subst left right
  have isHead : ∀ t' ∈ some t, i'.tokens.head? = some t' := by
    intro t' same
    cases same
    exact head
  apply context_runs.bind
  intro context i _ j ⟨same, left, right⟩
  subst same left right
  have goesOn : Runs (Pure.pure (some t)) (Pure.pure (some u)) c i j fun o i' o' j' =>
      Option.Rel Token.Alike o o' ∧ (∀ t ∈ o, i.tokens.head? = some t) ∧ i' = i ∧ j' = j :=
    .some ⟨.some tokens, isHead, rfl, rfl⟩
  cases tokens
  apply Runs.ite _ fun _ => goesOn
  intro endsLine
  cases context.mode with
  | ends => exact .some ⟨.none, nofun, rfl, rfl⟩
  | goesOn => exact .ite (fun _ => .none) fun _ => goesOn
  | bracketed => exact goesOn

theorem ahead?_alike : Alike (Option.Rel Token.Alike) ahead? ahead? := by
  intro c i j inputs
  apply (ahead?_runs inputs).mono
  intro o i' o' j' ⟨tokens, _, left, right⟩
  rw [left, right]
  exact ⟨tokens, inputs⟩

theorem operand_runs {c : Context} {i j : Input} (inputs : Input.Alike i j) :
    Runs operand operand c i j (Seen i j) := by
  apply (next_runs inputs).bind
  intro t i' u j' seen
  have tokens := seen.tokens
  have last := inputs.last
  obtain ⟨-, head, left, right⟩ := seen
  subst left right
  apply input_runs.bind
  intro v i w j ⟨here, here', left, right⟩
  subst here here' left right
  apply context_runs.bind
  intro context i' _ j' ⟨same, left, right⟩
  subst same left right
  have goesOn : Runs (Pure.pure t) (Pure.pure u) c i' j' (Seen i' j') :=
    .some ⟨tokens, head, rfl, rfl⟩
  obtain ⟨rest, last⟩ := i'
  obtain ⟨rest', last'⟩ := j'
  cases tokens
  cases last
  exact .ite (fun _ => .none) fun _ => goesOn

theorem operand_alike : Alike Token.Alike operand operand :=
  fun _ _ _ inputs => (operand_runs inputs).mono fun _ _ _ _ seen => seen.weaken inputs

theorem any_alike {p : Token → Bool} (same : ∀ t u, Token.Alike t u → p t = p u)
    {o o' : Option Token} (tokens : Option.Rel Token.Alike o o') : o.any p = o'.any p := by
  cases tokens with
  | none => rfl
  | some pair => exact same _ _ pair

theorem isMark_alike (s : String) (t u : Token) (pair : t.Alike u) : t.isMark s = u.isMark s := by
  cases pair
  rfl

theorem isWord_alike (s : String) (t u : Token) (pair : t.Alike u) : t.isWord s = u.isWord s := by
  cases pair
  rfl

theorem aheadMark_alike (s : String) : Alike Eq (aheadMark s) (aheadMark s) := by
  apply ahead?_alike.bind
  intro o o' tokens
  exact .pure (any_alike (isMark_alike s) tokens)

theorem aheadWord_alike (s : String) : Alike Eq (aheadWord s) (aheadWord s) := by
  apply ahead?_alike.bind
  intro o o' tokens
  exact .pure (any_alike (isWord_alike s) tokens)

/-- The mark that is asked for, in both. -/
structure Spelled (s : String) (p q : Piece) : Prop extends Piece.Same p q where
  spelled : p.node.text = s

theorem mark?_spelled (s : String) : Alike (Option.Rel (Spelled s)) (mark? s) (mark? s) := by
  intro c i j inputs
  apply Runs.bind (P := fun b i' b' j' => b = b' ∧
    (b = true → ∃ t, i.tokens.head? = some t ∧ t.text = s) ∧ i' = i ∧ j' = j)
  · apply (ahead?_runs inputs).bind
    intro o i' o' j' ⟨tokens, head, left, right⟩
    apply Option.Rel.some
    refine ⟨any_alike (isMark_alike s) tokens, ?_, left, right⟩
    intro isMark
    obtain ⟨t, isNext, isMark⟩ := (Option.any_eq_true _ _).mp isMark
    obtain ⟨-, text⟩ := (Bool.and_eq_true _ _).mp isMark
    exact ⟨t, head t isNext, beq_iff_eq.mp text⟩
  · intro b i' b' j' ⟨same, head, left, right⟩
    subst same left right
    apply Runs.ite
    · intro isMark
      obtain ⟨t, isNext, text⟩ := head isMark
      apply (takeAs_runs .mark inputs).bind
      intro p i' q j' taken
      have spelled : p.node.text = s := by
        rw [taken.left isNext]
        exact text
      exact .some ⟨.some ⟨taken.same, spelled⟩, taken.inputs⟩
    · intro other
      exact .some ⟨.none, inputs⟩

theorem mark?_alike (s : String) : Alike (Option.Rel Piece.Alike) (mark? s) (mark? s) := by
  apply (mark?_spelled s).mono
  intro o o' pieces
  cases pieces with
  | none => exact .none
  | some pair => exact .some pair.toAlike

theorem word?_alike (s : String) : Alike (Option.Rel Piece.Alike) (word? s) (word? s) := by
  apply (aheadWord_alike s).bind
  intro isWord _ same
  cases same
  apply Alike.ite
  · apply (takeAs_steady .mark).bind
    intro p q pieces
    exact .pure (.some pieces)
  · exact .pure .none

theorem mark_steady (s : String) : Steady (mark s) := by
  apply (mark?_alike s).bind
  intro o o' pieces
  cases pieces with
  | none => exact .failure
  | some pair => exact .pure pair

theorem word_steady (s : String) : Steady (word s) := by
  apply (word?_alike s).bind
  intro o o' pieces
  cases pieces with
  | none => exact .failure
  | some pair => exact .pure pair

theorem name_alike : Alike Piece.Same name name := by
  apply operand_alike.bind
  intro t u tokens
  cases tokens
  exact .ite (takeAs_alike .identifier) .failure

theorem name_steady : Steady name := name_alike.mono fun _ _ same => same.toAlike

end Elementary

section Repeated

variable {α β : Type} {R : α → β → Prop}

/-- What a round of two loops leaves: the end of both, or the next round of both. -/
def Rounds (I Q : α → Input → β → Input → Prop) (v : α) (w : β) (o : Option α) (i : Input)
    (o' : Option β) (j : Input) : Prop :=
  match o, o' with
  | none, none => Q v i w j
  | some v, some w => I v i w j
  | _, _ => False

theorem loop_runs {I Q : α → Input → β → Input → Prop} {c : Context}
    {step : α → Parser (Option α)} {step' : β → Parser (Option β)}
    (round : ∀ v i w j, I v i w j → Runs (step v) (step' w) c i j (Rounds I Q v w)) (fuel : Nat)
    {v : α} {w : β} {i j : Input} (start : I v i w j) :
    Runs (loop step fuel v) (loop step' fuel w) c i j Q := by
  -- on the rounds that are left; the invariant holds where one begins
  induction fuel generalizing v w i j with
  | zero => exact .none
  | succ fuel ih =>
    apply (round v i w j start).bind
    intro o i o' j goesOn
    match o, o', goesOn with
    | none, none, ends => exact .some ends
    | some v, some w, further => exact ih further

theorem repeated_runs {I Q : α → Input → β → Input → Prop} {c : Context}
    {step : α → Parser (Option α)} {step' : β → Parser (Option β)}
    (round : ∀ v i w j, I v i w j → Runs (step v) (step' w) c i j (Rounds I Q v w))
    {v : α} {w : β} {i j : Input} (start : I v i w j) :
    Runs (repeated v step) (repeated w step') c i j Q := loop_runs round _ start

theorem repeated_alike {step : α → Parser (Option α)} {step' : β → Parser (Option β)}
    (round : ∀ v w, R v w → Alike (Option.Rel R) (step v) (step' w)) {v : α} {w : β}
    (start : R v w) : Alike R (repeated v step) (repeated w step') := by
  intro c i j inputs
  apply repeated_runs (I := fun v i w j => R v w ∧ Input.Alike i j) _ ⟨start, inputs⟩
  intro v i w j ⟨related, inputs⟩
  rcases Node.missing_or_related (round v w related (c := c) inputs) with
    ⟨none, none'⟩ | ⟨⟨o, i'⟩, ⟨o', j'⟩, some_, some_', values, behind⟩
  · rw [Runs, none, none']
    exact .none
  · rw [Runs, some_, some_']
    cases values with
    | none => exact .some ⟨related, behind⟩
    | some next => exact .some ⟨next, behind⟩

variable {item : Parser Piece} (steady : Steady item)
include steady

theorem markedList_alike (s : String) {first first' : Piece} (start : first.Alike first') :
    Alike Piece.RowAlike
      (repeated [first] fun parts => do
        match ← mark? s with
        | none => return none
        | some m => return some ((← item) :: m :: parts))
      (repeated [first'] fun parts => do
        match ← mark? s with
        | none => return none
        | some m => return some ((← item) :: m :: parts)) := by
  apply repeated_alike _ (.cons start .nil)
  intro parts parts' row
  apply (mark?_alike s).bind
  intro o o' marks
  cases marks with
  | none => exact .pure .none
  | some mark =>
    apply steady.bind
    intro p q pieces
    exact .pure (.some (.cons pieces (.cons mark row)))

theorem separated_alike (close : String) :
    Alike (fun s s' => Piece.RowAlike s.1 s'.1 ∧ s.2 = s'.2) (separated item close)
      (separated item close) := by
  apply Alike.bind
    (R := fun s s' => Piece.RowAlike s.1 s'.1 ∧ s.2 = s'.2)
  · apply repeated_alike _ ⟨.nil, rfl⟩
    intro ⟨parts, closed, comma⟩ ⟨parts', closed', comma'⟩ states
    obtain ⟨row, flags⟩ := states
    cases flags
    apply Alike.ite (.pure .none)
    apply (mark?_alike close).bind
    intro o o' marks
    cases marks with
    | some closing => exact .pure (.some ⟨.cons closing row, rfl⟩)
    | none =>
      extract_lets goesOn goesOn'
      -- a further piece, behind a comma, is read by the steps that read the first one
      have further : Alike (Option.Rel fun s s' => Piece.RowAlike s.1 s'.1 ∧ s.2 = s'.2)
          (goesOn ()) (goesOn' ()) := by
        apply steady.bind
        intro p q pieces
        apply (mark?_alike ",").bind
        intro o o' marks
        cases marks with
        | some comma => exact .pure (.some ⟨.cons comma (.cons pieces row), rfl⟩)
        | none => exact .pure (.some ⟨.cons pieces row, rfl⟩)
      have empty : parts.isEmpty = parts'.isEmpty := by cases row <;> rfl
      rw [empty]
      exact .ite .stop further
  · intro ⟨parts, closed, comma⟩ ⟨parts', closed', comma'⟩ states
    obtain ⟨row, flags⟩ := states
    cases flags
    exact .ite (.pure ⟨List.rel_reverse row, rfl⟩) .failure

theorem listFrom_alike {starts : Token → Bool} (same : ∀ t u, Token.Alike t u → starts t = starts u)
    {first first' : Piece} (start : first.Alike first') :
    Alike Piece.RowAlike (listFrom first starts item) (listFrom first' starts item) := by
  apply Alike.bind (R := fun s s' => Piece.RowAlike s.1 s'.1 ∧ s.2 = s'.2)
  · apply repeated_alike _ ⟨.cons start .nil, rfl⟩
    intro ⟨parts, closed⟩ ⟨parts', closed'⟩ states
    obtain ⟨row, flags⟩ := states
    cases flags
    apply Alike.ite (.pure .none)
    apply (mark?_alike ",").bind
    intro o o' marks
    cases marks with
    | none => exact .pure .none
    | some comma =>
      apply ahead?_alike.bind
      intro o o' tokens
      rw [any_alike same tokens]
      apply Alike.ite
      · apply steady.bind
        intro p q pieces
        exact .pure (.some ⟨.cons pieces (.cons comma row), rfl⟩)
      · exact .pure (.some ⟨.cons comma row, rfl⟩)
  · intro ⟨parts, closed⟩ ⟨parts', closed'⟩ states
    exact .pure (List.rel_reverse states.1)

omit steady in
theorem whole_or_parts_alike (kind : Kind) (loose : kind.isLoose = true)
    {parts parts' : List Piece} : Piece.RowAlike parts parts' →
    Alike Piece.Alike
      (match parts with
        | [p] => pure p
        | parts => pure (Piece.ofParts kind parts))
      (match parts' with
        | [p] => pure p
        | parts => pure (Piece.ofParts kind parts)) := by
  intro row
  have whole := Piece.whole_or_parts_same kind loose row
  cases row with
  | nil => exact .pure whole
  | cons first rest =>
    cases rest with
    | nil => exact .pure whole
    | cons second rest => exact .pure whole

end Repeated

theorem inner_alike {α β : Type} {R : α → β → Prop} {p : Parser α} {q : Parser β}
    (alike : Alike R p q) : Alike R (Grammar.inner p) (Grammar.inner q) := by
  apply context_alike.bind
  intro context _ same
  cases same
  exact .ite (alike.inMode .goesOn) alike

end Parser
end PoolLint.Syntax
