import PoolLint.Proofs.LaidOutTrees
import PoolLint.Syntax.Token.Reader

/-! The tokens of a text fill it: each starts where its layout ends, its text reaches to its end, and
the comments and line continuations in front of it stand one behind the other in its layout. -/
namespace PoolLint.Syntax

/-- Laid out nodes that stand one behind the other between two bytes. -/
inductive Strip : Nat → List Node → Nat → Prop
  | nil {a b : Nat} (le : a ≤ b) : Strip a [] b
  | cons {a b : Nat} {n : Node} {ns : List Node} (le : a ≤ n.span.start.byte) (laid : n.LaidOut)
      (rest : Strip n.span.stop.byte ns b) : Strip a (n :: ns) b

namespace Node

theorem laidOut_of_children {n : Node} (here : n.Laid) (below : ∀ m ∈ n.children, m.LaidOut) :
    n.LaidOut := by
  intro place m found
  cases place with
  | nil =>
    cases found
    exact here
  | cons position place =>
    obtain ⟨child, first, rest⟩ := Option.bind_eq_some_iff.mp found
    exact below child (List.mem_of_getElem? first) place m rest

end Node

namespace Strip

variable {a b c : Nat} {n : Node} {ns ms : List Node}

theorem le (strip : Strip a ns b) : a ≤ b := by
  induction strip with
  | nil le => exact le
  | cons le laid _ ih => exact Nat.le_trans le (Nat.le_trans laid.here.start_le ih)

theorem from_le (le : a ≤ b) (strip : Strip b ns c) : Strip a ns c := by
  cases strip with
  | nil le' => exact .nil (Nat.le_trans le le')
  | cons le' laid rest => exact .cons (Nat.le_trans le le') laid rest

theorem append (first : Strip a ns b) (second : Strip b ms c) : Strip a (ns ++ ms) c := by
  induction first with
  | nil le => exact second.from_le le
  | cons le laid _ ih => exact .cons le laid (ih second)

theorem single (laid : n.LaidOut) : Strip n.span.start.byte [n] n.span.stop.byte :=
  .cons (Nat.le_refl _) laid (.nil (Nat.le_refl _))

theorem sublist (strip : Strip a ns b) (some_ : ms.Sublist ns) : Strip a ms b := by
  induction strip generalizing ms with
  | nil le =>
    cases some_
    exact .nil le
  | cons le laid rest ih =>
    cases some_ with
    | cons _ inRest => exact (ih inRest).from_le (Nat.le_trans le laid.here.start_le)
    | cons_cons _ inRest => exact .cons le laid (ih inRest)

theorem laidOut (strip : Strip a ns b) : ∀ n ∈ ns, n.LaidOut := by
  induction strip with
  | nil le =>
    intro n member
    cases member
  | cons le laid _ ih => exact List.forall_mem_cons.mpr ⟨laid, ih⟩

theorem inside (strip : Strip a ns b) :
    ∀ n ∈ ns, a ≤ n.span.start.byte ∧ n.span.stop.byte ≤ b := by
  induction strip with
  | nil le =>
    intro n member
    cases member
  | cons le laid rest ih =>
    refine List.forall_mem_cons.mpr ⟨⟨le, rest.le⟩, ?_⟩
    intro n member
    obtain ⟨start, stop⟩ := ih n member
    have first := laid.here.start_le
    omega

theorem ordered (strip : Strip a ns b) : ns.Pairwise fun n m => n.span.Before m.span := by
  induction strip with
  | nil le => exact .nil
  | cons le laid rest ih => exact .cons (fun m member => (rest.inside m member).1) ih

end Strip

/-- A node whose children fill a strip of it. -/
theorem Node.laidOut_mk {kind : Kind} {role : Role} {text : String} {span : Span}
    {children : List Node} (size : span.start.byte + text.utf8ByteSize = span.stop.byte)
    (parts : Strip span.start.byte children span.stop.byte)
    (longer : kind = .pair ∨ kind = .keywordArgument →
      ∀ value ∈ children.find? (·.role == .value), value.span.size < span.size) :
    (Node.mk kind role text span children).LaidOut :=
  laidOut_of_children ⟨size, parts.inside, parts.ordered, longer⟩ parts.laidOut

section Bytes

variable (c : Char) (cs ds : List Char)

@[simp] theorem bytes_cons : (String.ofList (c :: cs)).utf8ByteSize =
    c.utf8Size + (String.ofList cs).utf8ByteSize := by
  rw [String.ofList_cons, String.utf8ByteSize_append, String.utf8ByteSize_singleton]

@[simp] theorem bytes_append : (String.ofList (cs ++ ds)).utf8ByteSize =
    (String.ofList cs).utf8ByteSize + (String.ofList ds).utf8ByteSize := by
  rw [String.ofList_append, String.utf8ByteSize_append]

theorem Position.after_byte (p : Position) : (p.after c).byte = p.byte + c.utf8Size := by
  unfold Position.after
  split
  · rename_i newline
    rw [beq_iff_eq.mp newline]
    rfl
  · rfl

theorem Position.afterAll_byte (p : Position) :
    (p.afterAll cs).byte = p.byte + (String.ofList cs).utf8ByteSize := by
  induction cs generalizing p with
  | nil => rfl
  | cons c cs ih =>
    rw [bytes_cons, ← Nat.add_assoc, ← after_byte]
    exact ih (p.after c)

end Bytes

theorem Cursor.skip_min_position (cursor : Cursor) (n : Nat) :
    (cursor.skip (min n cursor.rest.length)).position = (cursor.skip n).position := by
  simp only [Cursor.skip]
  rw [← List.take_eq_take_min]

theorem Cursor.skip_byte (cursor : Cursor) (n : Nat) : (cursor.skip n).position.byte =
    cursor.position.byte + (String.ofList (cursor.rest.take n)).utf8ByteSize :=
  Position.afterAll_byte _ _

namespace Token

/-- A token and its layout fill the bytes from a place to the end of the token. -/
structure Stands (t : Token) (a : Nat) : Prop where
  layout : a + t.layout.utf8ByteSize = t.span.start.byte
  text : t.span.start.byte + t.text.utf8ByteSize = t.span.stop.byte
  extras : Strip a t.extras t.span.start.byte

/-- Tokens that fill the bytes between two places. -/
inductive Chain : Nat → List Token → Nat → Prop
  | nil {a : Nat} : Chain a [] a
  | cons {a b : Nat} {t : Token} {ts : List Token} (here : t.Stands a)
      (rest : Chain t.span.stop.byte ts b) : Chain a (t :: ts) b

theorem Chain.append {a b c : Nat} {ts us : List Token} (first : Chain a ts b)
    (second : Chain b us c) : Chain a (ts ++ us) c := by
  induction first with
  | nil => exact second
  | cons here _ ih => exact .cons here (ih second)

theorem Chain.single {a : Nat} {t : Token} (here : t.Stands a) : Chain a [t] t.span.stop.byte :=
  .cons here .nil

namespace Layout

/-- What has been read of a layout reaches from a place to the cursor. -/
structure Fills (l : Layout) (a : Nat) (cursor : Cursor) : Prop where
  chars : a + (String.ofList l.chars.reverse).utf8ByteSize = cursor.position.byte
  extras : Strip a l.extras.reverse cursor.position.byte

theorem empty_fills (cursor : Cursor) : empty.Fills cursor.position.byte cursor :=
  ⟨rfl, .nil (Nat.le_refl _)⟩

variable {l : Layout} {a : Nat} {cursor : Cursor}

theorem add_chars (c : Char) : (l.add c).chars = c :: l.chars := by
  unfold add
  dsimp only
  split
  · rfl
  · repeat' split
    all_goals rfl

theorem add_extras (c : Char) : (l.add c).extras = l.extras := by
  unfold add
  dsimp only
  split
  · rfl
  · repeat' split
    all_goals rfl

theorem Fills.add (fills : l.Fills a cursor) (c : Char) (cs : List Char) :
    (l.add c).Fills a ⟨cursor.position.after c, cs⟩ := by
  have chars := fills.chars
  constructor
  · rw [add_chars, List.reverse_cons, bytes_append, bytes_cons, ← Nat.add_assoc, chars]
    exact (Position.after_byte c _).symm
  · rw [add_extras, ← List.append_nil l.extras.reverse]
    refine fills.extras.append (.nil ?_)
    rw [Position.after_byte]
    exact Nat.le_add_right _ _

theorem Fills.addExtra (fills : l.Fills a cursor) {kind : Syntax.Kind}
    (plain : ¬ (kind = .pair ∨ kind = .keywordArgument)) (length : Nat) :
    (l.addExtra kind cursor length).Fills a (cursor.skip length) := by
  have chars := fills.chars
  have reach := cursor.skip_byte length
  constructor
  · simp only [Layout.addExtra, List.reverse_append, List.reverse_reverse, bytes_append]
    omega
  · simp only [Layout.addExtra, List.reverse_cons]
    have laid : (Node.mk kind .plain (String.ofList (cursor.rest.take length))
        ⟨cursor.position, (cursor.skip length).position⟩ []).LaidOut := by
      refine Node.laidOut_mk reach.symm (.nil ?_) fun value => absurd value plain
      dsimp only
      omega
    exact fills.extras.append (Strip.single laid)

theorem readFrom_fills {fuel : Nat} {l' : Layout} {cursor' : Cursor} (fills : l.Fills a cursor)
    (read : readFrom fuel l cursor = some (l', cursor')) : l'.Fills a cursor' := by
  induction fuel generalizing l cursor with
  | zero =>
    cases read
    exact fills
  | succ fuel ih =>
    unfold readFrom at read
    split at read
    · cases read
      exact fills
    · rename_i c cs rest
      split at read
      · exact ih (fills.add c cs) read
      · split at read
        · exact ih (fills.addExtra (by decide) _) read
        · split at read
          · split at read
            · cases read
            · exact ih (fills.addExtra (by decide) _) read
          · cases read
            exact fills

theorem token_stands (fills : l.Fills a cursor) (kind : Token.Kind) (length : Nat) :
    (l.token kind cursor length).Stands a :=
  ⟨fills.chars, (cursor.skip_byte length).symm, fills.extras⟩

end Layout

namespace Reader

theorem withoutContinuations_sublist (extras : List Node) :
    (withoutContinuations extras).Sublist extras := by
  have shorter := (List.dropWhile_sublist (fun n : Node => n.kind == .lineContinuation)
    (l := extras.reverse)).reverse
  rwa [List.reverse_reverse] at shorter

/-- A token that stands at a place, as it is read off at a cursor. -/
def ReadAt (t : Token) (a : Nat) (cursor : Cursor) : Prop :=
  t.Stands a ∧ (cursor.skip t.text.length).position = t.span.stop

theorem token_readAt {l : Layout} {a : Nat} {cursor : Cursor} (fills : l.Fills a cursor)
    (kind : Token.Kind) (length : Nat) : ReadAt (l.token kind cursor length) a cursor := by
  refine ⟨Layout.token_stands fills kind length, ?_⟩
  simp only [Layout.token, String.length_ofList, List.length_take]
  exact cursor.skip_min_position length

theorem tokenAfter?_readAt {l : Layout} {a : Nat} {cursor : Cursor} (fills : l.Fills a cursor)
    {frames frames' : List Frame} {t : Token}
    (read : tokenAfter? l cursor frames = some (t, frames')) : ReadAt t a cursor := by
  unfold tokenAfter? at read
  split at read
  · cases read
  · split at read
    · rename_i q length _
      cases read
      obtain ⟨stands, stop⟩ := token_readAt fills .stringStart length
      exact ⟨⟨stands.layout, stands.text, stands.extras.sublist (withoutContinuations_sublist _)⟩,
        stop⟩
    · split at read
      · cases read
        exact token_readAt fills _ _
      · split at read
        · cases read
          exact token_readAt fills _ _
        · split at read
          · cases read
            exact token_readAt fills _ _
          · split at read
            · cases read
            · split at read
              · cases read
              · cases read
                exact token_readAt fills _ _

theorem bareToken_stands (kind : Token.Kind) (cursor : Cursor) (length : Nat) :
    (bareToken kind cursor length).Stands cursor.position.byte :=
  Layout.token_stands (Layout.empty_fills cursor) kind length

theorem bareToken_chain (kind : Token.Kind) (cursor : Cursor) (length : Nat) :
    Chain cursor.position.byte [bareToken kind cursor length] (cursor.skip length).position.byte :=
  .single (bareToken_stands kind cursor length)

theorem quoteTokens_chain (q : Quote) (cursor : Cursor) (length : Nat) (ending : Quote.Ending) :
    Chain cursor.position.byte (quoteTokens q cursor length ending).1
      (quoteTokens q cursor length ending).2.position.byte := by
  have content : Chain cursor.position.byte
      (if length == 0 then [] else [bareToken .stringContent cursor length])
      (cursor.skip length).position.byte := by
    split
    · rename_i none
      rw [beq_iff_eq.mp none]
      exact .nil
    · exact bareToken_chain .stringContent cursor length
  cases ending with
  | field => exact content.append (bareToken_chain .mark _ 1)
  | quote => exact content.append (bareToken_chain .stringEnd _ q.closingLength)

/-- A step reads tokens that fill the text up to its next place. -/
theorem step?_chain {r next : Reader} {tokens : List Token}
    (step : r.step? = some (tokens, next)) :
    Chain r.cursor.position.byte tokens next.cursor.position.byte := by
  unfold step? at step
  split at step
  · -- inside a quoted text
    rename_i q outer _
    split at step
    · cases step
    · cases step
      exact quoteTokens_chain q r.cursor _ _
  · -- inside a format
    split at step
    · cases step
    · split at step
      · cases step
        exact bareToken_chain .mark r.cursor 1
      · split at step
        · cases step
          exact bareToken_chain .mark r.cursor 1
        · cases step
          exact bareToken_chain .specText r.cursor _
  · split at step
    · cases step
    · rename_i l cursor read
      have fills : l.Fills r.cursor.position.byte cursor :=
        Layout.readFrom_fills (Layout.empty_fills r.cursor) read
      split at step
      · split at step
        · cases step
          exact .cons ⟨fills.chars, (cursor.skip_byte 0).symm, fills.extras⟩ .nil
        · cases step
      · split at step
        · cases step
        · rename_i token frames after
          cases step
          obtain ⟨stands, stop⟩ := tokenAfter?_readAt fills after
          rw [stop]
          exact .single stands

theorem run_chain {fuel : Nat} {r : Reader} {tokens : List Token}
    (done : Chain 0 r.done.reverse r.cursor.position.byte)
    (read : run fuel r = some tokens) : ∃ stop, Chain 0 tokens stop := by
  -- what is done fills the text up to the cursor
  induction fuel generalizing r with
  | zero => cases read
  | succ fuel ih =>
    unfold run at read
    split at read
    · cases read
    · rename_i some_ next step
      have further : Chain 0 (some_.reverse ++ r.done).reverse next.cursor.position.byte := by
        rw [List.reverse_append, List.reverse_reverse]
        exact done.append (step?_chain step)
      dsimp only at read
      split at read
      · cases read
        exact ⟨_, further⟩
      · exact ih further read

end Reader

theorem read?_chain {cs : List Char} {tokens : List Token} (read : read? cs = some tokens) :
    ∃ stop, Chain 0 tokens stop := by
  unfold read? at read
  split at read
  · cases read
  · exact Reader.run_chain .nil read

end Token
end PoolLint.Syntax
