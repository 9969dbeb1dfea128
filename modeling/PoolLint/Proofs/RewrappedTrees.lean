import Mathlib.Data.List.Forall2
import PoolLint.Proofs.Places
import PoolLint.Text.Blank

/-! Texts and trees that differ only in line continuations. Between the parts of a construct a
continuation is a part of its own, and inside the text of a construct it is a backslash and a line
end; names, numbers and quoted texts without fields have no room for one. -/
namespace PoolLint.Syntax

/-- Texts that differ only in pairs of a backslash and a line end. -/
inductive Rewrapped : List Char → List Char → Prop
  | nil : Rewrapped [] []
  | cons (c : Char) {cs ds : List Char} (rest : Rewrapped cs ds) : Rewrapped (c :: cs) (c :: ds)
  | left {cs ds : List Char} (rest : Rewrapped cs ds) : Rewrapped ('\\' :: '\n' :: cs) ds
  | right {cs ds : List Char} (rest : Rewrapped cs ds) : Rewrapped cs ('\\' :: '\n' :: ds)

namespace Rewrapped

theorem refl (cs : List Char) : Rewrapped cs cs := by
  induction cs with
  | nil => exact .nil
  | cons c cs ih => exact .cons c ih

theorem symm {cs ds : List Char} (alike : Rewrapped cs ds) : Rewrapped ds cs := by
  induction alike with
  | nil => exact .nil
  | cons c rest ih => exact .cons c ih
  | left rest ih => exact .right ih
  | right rest ih => exact .left ih

theorem append {as bs cs ds : List Char} (first : Rewrapped as bs) (second : Rewrapped cs ds) :
    Rewrapped (as ++ cs) (bs ++ ds) := by
  induction first with
  | nil => exact second
  | cons c rest ih => exact .cons c ih
  | left rest ih => exact .left ih
  | right rest ih => exact .right ih

theorem eq_of_plain {cs ds : List Char} (alike : Rewrapped cs ds) (left : '\\' ∉ cs)
    (right : '\\' ∉ ds) : cs = ds := by
  induction alike with
  | nil => rfl
  | cons c rest ih =>
    rw [ih (fun member => left (List.mem_cons_of_mem c member))
      (fun member => right (List.mem_cons_of_mem c member))]
  | left rest ih => exact absurd List.mem_cons_self left
  | right rest ih => exact absurd List.mem_cons_self right

/-- Up to a character that no continuation has, texts differ only in continuations too. -/
theorem takeWhile {p : Char → Bool} (slash : p '\\' = true) (newline : p '\n' = true)
    {cs ds : List Char} (alike : Rewrapped cs ds) :
    Rewrapped (cs.takeWhile p) (ds.takeWhile p) := by
  induction alike with
  | nil => exact .nil
  | cons c rest ih =>
    by_cases goesOn : p c = true
    · rw [List.takeWhile_cons_of_pos goesOn, List.takeWhile_cons_of_pos goesOn]
      exact .cons c ih
    · rw [List.takeWhile_cons_of_neg goesOn, List.takeWhile_cons_of_neg goesOn]
      exact .nil
  | left rest ih =>
    rw [List.takeWhile_cons_of_pos slash, List.takeWhile_cons_of_pos newline]
    exact .left ih
  | right rest ih =>
    rw [List.takeWhile_cons_of_pos slash, List.takeWhile_cons_of_pos newline]
    exact .right ih

end Rewrapped

/-- The text without any pair of a backslash and a line end. -/
def unwrapped : List Char → List Char
  | '\\' :: '\n' :: cs => unwrapped cs
  | c :: cs => c :: unwrapped cs
  | [] => []

theorem rewrapped_of_unwrapped {cs ds : List Char} (same : unwrapped cs = unwrapped ds) :
    Rewrapped cs ds := by
  induction cs using unwrapped.induct generalizing ds with
  | case1 cs ih =>
    rw [unwrapped] at same
    exact .left (ih same)
  | case2 c cs other ih =>
    rw [unwrapped.eq_2 _ _ other] at same
    -- on the pairs in front of the same character
    induction ds using unwrapped.induct with
    | case1 ds ih' =>
      rw [unwrapped] at same
      exact .right (ih' same)
    | case2 d ds other' =>
      rw [unwrapped.eq_2 _ _ other'] at same
      obtain ⟨rfl, behind⟩ := List.cons.inj same
      exact .cons c (ih behind)
    | case3 => cases same
  | case3 =>
    induction ds using unwrapped.induct with
    | case1 ds ih =>
      rw [unwrapped] at same
      exact .right (ih same)
    | case2 d ds other =>
      rw [unwrapped.eq_2 _ _ other] at same
      cases same
    | case3 => exact .nil

/-- Kinds of nodes that are a single word. -/
def Kind.isWord : Kind → Bool
  | .identifier | .integer | .float | .true | .false | .none => Bool.true
  | _ => Bool.false

/-- The texts of nodes of a kind. Of a quoted text only the fields have room for continuations. -/
structure TextsAlike (kind : Kind) (text text' : String) : Prop where
  rewrapped : Rewrapped text.toList text'.toList
  word : kind.isWord → text = text'
  quoted : kind = .string → text = text' ∨ '\x7b' ∈ text.toList ∧ '\x7b' ∈ text'.toList

theorem TextsAlike.symm {kind : Kind} {text text' : String} (alike : TextsAlike kind text text') :
    TextsAlike kind text' text where
  rewrapped := alike.rewrapped.symm
  word isWord := (alike.word isWord).symm
  quoted isString := (alike.quoted isString).imp Eq.symm And.symm

namespace Node

def textOf? (role : Role) (ns : List Node) : Option String :=
  (ns.find? (·.role == role)).map text

/-- The sign of a number and the name of an argument are single words. -/
structure HeadsAlike (kind : Kind) (inside inside' : List Node) : Prop where
  operator : kind = .unaryOperator → textOf? .operator inside = textOf? .operator inside'
  name : kind = .keywordArgument → textOf? .name inside = textOf? .name inside'

def continuation (text : String) (span : Span) : Node := .mk .lineContinuation .plain text span []

/-- Rows of trees that differ only in line continuations and places. -/
inductive AllAlike : List Node → List Node → Prop
  | nil : AllAlike [] []
  | cons {kind : Kind} {role : Role} {text text' : String} {span span' : Span}
      {inside inside' ns ms : List Node} (texts : TextsAlike kind text text')
      (heads : HeadsAlike kind inside inside') (parts : AllAlike inside inside')
      (rest : AllAlike ns ms) :
      AllAlike (.mk kind role text span inside :: ns) (.mk kind role text' span' inside' :: ms)
  | left {text : String} {span : Span} {ns ms : List Node} (rest : AllAlike ns ms) :
      AllAlike (continuation text span :: ns) ms
  | right {text : String} {span : Span} {ns ms : List Node} (rest : AllAlike ns ms) :
      AllAlike ns (continuation text span :: ms)

/-- Trees that differ only in line continuations and places. -/
structure Alike (n m : Node) : Prop where
  kind : n.kind = m.kind
  role : n.role = m.role
  texts : TextsAlike n.kind n.text m.text
  heads : HeadsAlike n.kind n.children m.children
  parts : AllAlike n.children m.children

theorem HeadsAlike.symm {kind : Kind} {inside inside' : List Node}
    (alike : HeadsAlike kind inside inside') : HeadsAlike kind inside' inside :=
  ⟨fun unary => (alike.operator unary).symm, fun named => (alike.name named).symm⟩

namespace AllAlike

variable {ns ms : List Node}

theorem symm (alike : AllAlike ns ms) : AllAlike ms ns := by
  induction alike with
  | nil => exact .nil
  | cons texts heads _ _ ihIn ihRest => exact .cons texts.symm heads.symm ihIn ihRest
  | left _ ih => exact .right ih
  | right _ ih => exact .left ih

theorem append {ns' ms' : List Node} (first : AllAlike ns ms) (second : AllAlike ns' ms') :
    AllAlike (ns ++ ns') (ms ++ ms') := by
  induction first with
  | nil => exact second
  | cons texts heads parts _ _ ih => exact .cons texts heads parts ih
  | left _ ih => exact .left ih
  | right _ ih => exact .right ih

theorem single {n m : Node} (alike : n.Alike m) : AllAlike [n] [m] := by
  obtain ⟨kind, role, text, span, inside⟩ := n
  obtain ⟨kind', role', text', span', inside'⟩ := m
  obtain ⟨rfl, rfl, texts, heads, parts⟩ := alike
  exact .cons texts heads parts .nil

/-- Of the nodes of a class without line continuations, each stands where the other one does. -/
theorem filter {p : Node → Bool} (apart : ∀ text span, p (continuation text span) = Bool.false)
    (same : ∀ n m, n.Alike m → p n = p m) (alike : AllAlike ns ms) :
    List.Forall₂ Alike (ns.filter p) (ms.filter p) := by
  induction alike with
  | nil => exact .nil
  | @cons kind role text text' span span' inside inside' ns ms texts heads parts rest _ ih =>
    have pair : Alike (.mk kind role text span inside) (.mk kind role text' span' inside') :=
      ⟨rfl, rfl, texts, heads, parts⟩
    rw [List.filter_cons, List.filter_cons, ← same _ _ pair]
    split
    · exact .cons pair ih
    · exact ih
  | left _ ih => rwa [List.filter_cons_of_neg (by simp [apart])]
  | right _ ih => rwa [List.filter_cons_of_neg (by simp [apart])]

theorem find? {role : Role} (part : role ≠ .plain) (alike : AllAlike ns ms) :
    Option.Rel Alike (ns.find? (·.role == role)) (ms.find? (·.role == role)) := by
  have apart : (Role.plain == role) = Bool.false := beq_false_of_ne part.symm
  induction alike with
  | nil => exact .none
  | @cons kind role' text text' span span' inside inside' ns ms texts heads parts rest _ ih =>
    rw [List.find?_cons, List.find?_cons]
    simp only [role_mk]
    cases role' == role with
    | true => exact .some ⟨rfl, rfl, texts, heads, parts⟩
    | false => exact ih
  | left _ ih =>
    rw [List.find?_cons]
    simpa [continuation, apart] using ih
  | right _ ih =>
    rw [List.find?_cons]
    simpa [continuation, apart] using ih

end AllAlike

/-- Two values that may not be there are both missing, or both there and related. -/
theorem missing_or_related {α β : Type} {R : α → β → Prop} {a : Option α} {b : Option β}
    (related : Option.Rel R a b) :
    a = .none ∧ b = .none ∨ ∃ x y, a = some x ∧ b = some y ∧ R x y := by
  cases related with
  | none => exact .inl ⟨rfl, rfl⟩
  | some pair => exact .inr ⟨_, _, rfl, rfl, pair⟩

theorem getElem?_related {α β : Type} {R : α → β → Prop} {as : List α} {bs : List β}
    (pairs : List.Forall₂ R as bs) (i : Nat) : Option.Rel R as[i]? bs[i]? := by
  induction pairs generalizing i with
  | nil => exact .none
  | cons pair rest ih =>
    cases i with
    | zero => exact .some pair
    | succ i => exact ih i

namespace Alike

variable {n m : Node}

theorem symm (alike : n.Alike m) : m.Alike n where
  kind := alike.kind.symm
  role := alike.role.symm
  texts := alike.kind ▸ alike.texts.symm
  heads := alike.kind ▸ alike.heads.symm
  parts := alike.parts.symm

theorem child? {role : Role} (part : role ≠ .plain) (alike : n.Alike m) :
    Option.Rel Alike (n.child? role) (m.child? role) := alike.parts.find? part

theorem childrenIn {role : Role} (part : role ≠ .plain) (alike : n.Alike m) :
    List.Forall₂ Alike (n.childrenIn role) (m.childrenIn role) := by
  apply alike.parts.filter
  · intro text span
    exact beq_false_of_ne part.symm
  · intro n m pair
    rw [pair.role]

end Alike

/-- The nodes of a kind other than line continuations correspond to each other, in order. -/
theorem AllAlike.preorderAll {kind : Kind} (other : kind ≠ .lineContinuation) {ns ms : List Node}
    (alike : AllAlike ns ms) :
    List.Forall₂ Alike ((Node.preorderAll (fun _ => .true) ns).filter (·.kind == kind))
      ((Node.preorderAll (fun _ => .true) ms).filter (·.kind == kind)) := by
  have apart : (Kind.lineContinuation == kind) = Bool.false := beq_false_of_ne other.symm
  induction alike with
  | nil => exact .nil
  | @cons kind' role text text' span span' inside inside' ns ms texts heads parts rest ihIn ihRest =>
    simp only [Node.preorderAll, preorder, if_true, List.cons_append, List.filter_cons,
      List.filter_append, kind_mk]
    have behind := List.rel_append ihIn ihRest
    cases kind' == kind with
    | true => exact .cons ⟨rfl, rfl, texts, heads, parts⟩ behind
    | false => exact behind
  | left _ ih =>
    simpa [Node.preorderAll, preorder, continuation, apart] using ih
  | right _ ih =>
    simpa [Node.preorderAll, preorder, continuation, apart] using ih

theorem Alike.ofKind {kind : Kind} (other : kind ≠ .lineContinuation) {n m : Node}
    (alike : n.Alike m) : List.Forall₂ Alike (n.ofKind kind) (m.ofKind kind) := by
  have nodes := (AllAlike.single alike).preorderAll other
  simpa only [Node.preorderAll, List.append_nil, ← walk_eq_preorder, Node.ofKind] using nodes

end Node

end PoolLint.Syntax
