import Mathlib.Data.List.Forall2
import PoolLint.Lowering
import PoolLint.Proofs.RewrappedTrees

/-! Trees from which comments were deleted, as many as one likes, wherever a list of arguments or a
record holds them. Deleting parts of a tree leaves every text that is read as it is; the other texts
are excerpts of the source, and it does not matter whether they still show the comments. -/
namespace PoolLint.Syntax

/-- Kinds of nodes that hold entries, with comments between them. -/
def Kind.holdsEntries : Kind → Bool
  | .argumentList | .dictionary => Bool.true
  | _ => Bool.false

/-- Roles of nodes that are known by their text. -/
def Role.isSpelled : Role → Bool
  | .function | .operator | .name | .newName | .moduleName => true
  | _ => false

namespace Node

/-- Whether the text of a node is more than an excerpt of the source. -/
def isRead (kind : Kind) (role : Role) : Bool :=
  (Lowering.literalKind? kind).isSome || role.isSpelled

/-- A row of parts of a node of a kind, and the same row with comments deleted in it. -/
inductive AllThinned : Kind → List Node → List Node → Prop
  | nil {parent : Kind} : AllThinned parent [] []
  | cons {parent kind : Kind} {role : Role} {text text' : String} {span : Span}
      {inside inside' ns ms : List Node} (texts : isRead kind role → text = text')
      (parts : AllThinned kind inside inside') (rest : AllThinned parent ns ms) :
      AllThinned parent (.mk kind role text span inside :: ns)
        (.mk kind role text' span inside' :: ms)
  | comment {parent : Kind} {role : Role} {text : String} {span : Span} {ns ms : List Node}
      (holds : parent.holdsEntries) (rest : AllThinned parent ns ms) :
      AllThinned parent (.mk .comment role text span [] :: ns) ms

/-- A tree, and the same tree with comments deleted in it. -/
structure Thinned (n m : Node) : Prop where
  kind : n.kind = m.kind
  role : n.role = m.role
  span : n.span = m.span
  texts : isRead n.kind n.role → n.text = m.text
  parts : AllThinned n.kind n.children m.children

section Deletion

def isBareComment (n : Node) : Bool := n.kind == .comment && n.children.isEmpty

mutual

/-- The tree without any comment among the entries of its nodes. -/
def uncommented : Node → Node
  | .mk kind role text span children => .mk kind role text span (uncommentedAll kind children)

def uncommentedAll (parent : Kind) : List Node → List Node
  | [] => []
  | n :: rest =>
    if parent.holdsEntries && n.isBareComment then uncommentedAll parent rest
    else n.uncommented :: uncommentedAll parent rest

end

mutual

theorem thinned_uncommented (n : Node) : n.Thinned n.uncommented := by
  obtain ⟨kind, role, text, span, children⟩ := n
  rw [uncommented]
  exact ⟨rfl, rfl, rfl, fun _ => rfl, allThinned_uncommented kind children⟩

theorem allThinned_uncommented (parent : Kind) (ns : List Node) :
    AllThinned parent ns (uncommentedAll parent ns) := by
  cases ns with
  | nil => exact .nil
  | cons n rest =>
    have behind := allThinned_uncommented parent rest
    have here := thinned_uncommented n
    obtain ⟨kind, role, text, span, children⟩ := n
    rw [uncommentedAll]
    split
    · rename_i deleted
      simp only [isBareComment, kind_mk, children_mk, Bool.and_eq_true, beq_iff_eq,
        List.isEmpty_iff] at deleted
      obtain ⟨holds, rfl, rfl⟩ := deleted
      exact .comment holds behind
    · rw [uncommented] at here ⊢
      exact .cons here.texts here.parts behind

end

end Deletion

namespace AllThinned

variable {parent : Kind} {ns ms : List Node}

theorem single (parent : Kind) {n m : Node} (thinned : n.Thinned m) :
    AllThinned parent [n] [m] := by
  obtain ⟨kind, role, text, span, inside⟩ := n
  obtain ⟨kind', role', text', span', inside'⟩ := m
  obtain ⟨rfl, rfl, rfl, texts, parts⟩ := thinned
  exact .cons texts parts .nil

/-- Of the nodes of a class without comments, each is still there. -/
theorem filter {p : Node → Bool} (apart : ∀ n : Node, n.kind = .comment → p n = false)
    (same : ∀ n m, n.Thinned m → p n = p m) (thinned : AllThinned parent ns ms) :
    List.Forall₂ Thinned (ns.filter p) (ms.filter p) := by
  induction thinned with
  | nil => exact .nil
  | @cons parent kind role text text' span inside inside' ns ms texts parts rest _ ih =>
    have pair : Thinned (.mk kind role text span inside) (.mk kind role text' span inside') :=
      ⟨rfl, rfl, rfl, texts, parts⟩
    rw [List.filter_cons, List.filter_cons, ← same _ _ pair]
    split
    · exact .cons pair ih
    · exact ih
  | @comment parent role text span ns ms holds rest ih =>
    have left := apart (.mk .comment role text span []) rfl
    rwa [List.filter_cons_of_neg (by simp [left])]

/-- Where there are no entries, nothing is deleted. -/
theorem forall₂ (plain : parent.holdsEntries = false) (thinned : AllThinned parent ns ms) :
    List.Forall₂ Thinned ns ms := by
  induction thinned with
  | nil => exact .nil
  | cons texts parts rest _ ih => exact .cons ⟨rfl, rfl, rfl, texts, parts⟩ (ih plain)
  | comment holds rest ih =>
    rw [plain] at holds
    cases holds

/-- The nodes of a walk correspond to each other, but for the comments. -/
theorem preorderAll (enters p : Node → Bool) (same : ∀ n m, n.Thinned m → enters n = enters m)
    (apart : ∀ n : Node, n.kind = .comment → p n = false)
    (alike : ∀ n m, n.Thinned m → p n = p m) (thinned : AllThinned parent ns ms) :
    List.Forall₂ Thinned ((Node.preorderAll enters ns).filter p)
      ((Node.preorderAll enters ms).filter p) := by
  induction thinned with
  | nil => exact .nil
  | @cons parent kind role text text' span inside inside' ns ms texts parts rest ihIn ihRest =>
    have pair : Thinned (.mk kind role text span inside) (.mk kind role text' span inside') :=
      ⟨rfl, rfl, rfl, texts, parts⟩
    have entered : List.Forall₂ Thinned
        ((if enters (.mk kind role text span inside) then Node.preorderAll enters inside
          else []).filter p)
        ((if enters (.mk kind role text' span inside') then Node.preorderAll enters inside'
          else []).filter p) := by
      rw [← same _ _ pair]
      split
      · exact ihIn
      · exact .nil
    simp only [Node.preorderAll, preorder, List.cons_append, List.filter_cons, List.filter_append,
      ← alike _ _ pair]
    split
    · exact .cons pair (List.rel_append entered ihRest)
    · exact List.rel_append entered ihRest
  | @comment parent role text span ns ms holds rest ih =>
    have left := apart (.mk .comment role text span []) rfl
    simpa [Node.preorderAll, preorder, left] using ih

end AllThinned

theorem map_thinned {α : Type} {f : Node → α} {ns ms : List Node}
    (nodes : List.Forall₂ Thinned ns ms) (same : ∀ n ∈ ns, ∀ m, n.Thinned m → f n = f m) :
    ns.map f = ms.map f := by
  induction nodes with
  | nil => rfl
  | cons pair rest ih =>
    rw [List.map_cons, List.map_cons, same _ List.mem_cons_self _ pair,
      ih fun n member => same n (List.mem_cons_of_mem _ member)]

namespace Thinned

variable {n m : Node}

theorem forall₂ (plain : n.kind.holdsEntries = false) (thinned : n.Thinned m) :
    List.Forall₂ Thinned n.children m.children := thinned.parts.forall₂ plain

theorem childrenIn (role : Role) (plain : n.kind.holdsEntries = false) (thinned : n.Thinned m) :
    List.Forall₂ Thinned (n.childrenIn role) (m.childrenIn role) := by
  refine List.rel_filter (fun a b pair => ?_) (thinned.forall₂ plain)
  simp only [pair.role]

theorem child? (role : Role) (plain : n.kind.holdsEntries = false) (thinned : n.Thinned m) :
    Option.Rel Thinned (n.child? role) (m.child? role) := by
  have pairs := getElem?_related (thinned.childrenIn role plain) 0
  rwa [Node.child?, Node.child?, ← List.head?_filter, ← List.head?_filter, List.head?_eq_getElem?,
    List.head?_eq_getElem?]

/-- A part that is known by its text is missing in both, or has the same text in both. -/
theorem spelled (role : Role) (spelled : role.isSpelled) (plain : n.kind.holdsEntries = false)
    (thinned : n.Thinned m) : n.child? role = none ∧ m.child? role = none ∨
      ∃ x y, n.child? role = some x ∧ m.child? role = some y ∧ x.text = y.text := by
  refine (missing_or_related (thinned.child? role plain)).imp_right ?_
  rintro ⟨x, y, found, found', pair⟩
  have inRole : x.role = role := by simpa using List.find?_some found
  exact ⟨x, y, found, found', pair.texts (by simp [isRead, inRole, spelled])⟩

theorem entries (thinned : n.Thinned m) : List.Forall₂ Thinned n.entries m.entries := by
  simp only [Node.entries, Node.namedChildren, List.filter_filter]
  apply thinned.parts.filter
  · intro e comment
    simp [comment]
  · intro a b pair
    simp only [Node.isNamed, pair.kind]

/-- The nodes of a kind other than comments correspond to each other, in order. -/
theorem ofKind {kind : Kind} (other : kind ≠ .comment) (thinned : n.Thinned m) :
    List.Forall₂ Thinned (n.ofKind kind) (m.ofKind kind) := by
  have nodes := (AllThinned.single .module thinned).preorderAll (fun _ => true) (·.kind == kind)
    (fun _ _ _ => rfl) (fun e comment => by simp [comment, other.symm])
    (fun a b pair => by simp [pair.kind])
  simpa only [Node.preorderAll, List.append_nil, ← walk_eq_preorder, Node.ofKind] using nodes

end Thinned

end Node

end PoolLint.Syntax
