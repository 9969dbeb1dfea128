import PoolLint.Imports
import PoolLint.Proofs.RewrappedTrees

/-! What the imports of a file bind does not depend on line continuations, as long as none stands
inside a name that is bound. -/
namespace PoolLint

/-- A text without a backslash has no line continuation in it. -/
def Unbroken (s : String) : Prop := '\\' ∉ s.toList

/-- Two texts are the same if no line continuation stands in either. -/
def SameIfUnbroken (s t : String) : Prop := Unbroken s → Unbroken t → s = t

theorem Syntax.Rewrapped.same {s t : String} (alike : Rewrapped s.toList t.toList) :
    SameIfUnbroken s t :=
  fun left right => String.toList_inj.mp (alike.eq_of_plain left right)

theorem unbroken_append {s t : String} : Unbroken (s ++ t) ↔ Unbroken s ∧ Unbroken t := by
  rw [Unbroken, String.toList_append, List.mem_append, not_or]
  rfl

theorem unbroken_of_squeezed {s : String} (unbroken : Unbroken (Text.squeezed s)) : Unbroken s := by
  intro member
  apply unbroken
  rw [Text.squeezed, String.toList_ofList, Text.squeeze]
  exact List.mem_filter.mpr ⟨member, rfl⟩

namespace Imports
open Syntax

/-- Neither the name that is bound nor what it stands for has a line continuation in it. -/
structure Whole (b : Binding) : Prop where
  localName : Unbroken b.localName
  qualified : Unbroken b.qualified

theorem splitHead_same {s t : String} (alike : Rewrapped s.toList t.toList) :
    SameIfUnbroken (splitHead s).1 (splitHead t).1 := by
  apply Rewrapped.same
  simp only [splitHead, String.toList_ofList]
  exact alike.takeWhile (by decide) (by decide)

theorem unbroken_inModule {module name : String} (unbroken : Unbroken (inModule module name)) :
    Unbroken module ∧ Unbroken name := by
  unfold inModule at unbroken
  split at unbroken
  · exact unbroken_append.mp unbroken
  · obtain ⟨module_, name_⟩ := unbroken_append.mp unbroken
    exact ⟨(unbroken_append.mp module_).1, name_⟩

theorem inModule_same {source source' name name' : String}
    (sources : Rewrapped source.toList source'.toList) (names : Rewrapped name.toList name'.toList) :
    SameIfUnbroken (inModule (Text.squeezed source) name) (inModule (Text.squeezed source') name') := by
  intro left right
  obtain ⟨module_, name_⟩ := unbroken_inModule left
  obtain ⟨module_', name_'⟩ := unbroken_inModule right
  rw [sources.same (unbroken_of_squeezed module_) (unbroken_of_squeezed module_'),
    names.same name_ name_']

/-- The name that is bound and what it stands for, before blanks are taken out. -/
def imported? (n : Node) : Option (String × String) :=
  if n.kind == .aliasedImport then (aliased? n).map fun p => (p.2, p.1)
  else some ((splitHead n.text).1, (splitHead n.text).1)

def importedFrom? (module : String) (n : Node) : Option (String × String) :=
  if n.kind == .aliasedImport then (aliased? n).map fun p => (p.2, inModule module p.1)
  else some ((splitHead n.text).1, inModule module n.text)

theorem importBinding?_eq (n : Node) :
    importBinding? n = (imported? n).map fun p => bind p.1 p.2 := by
  unfold importBinding? imported?
  split
  · rw [Option.map_map]
    rfl
  · rfl

theorem importFromBinding?_eq (module : String) (n : Node) :
    importFromBinding? module n = (importedFrom? module n).map fun p => bind p.1 p.2 := by
  unfold importFromBinding? importedFrom?
  split
  · rw [Option.map_map]
    rfl
  · rfl

def PairSame (p q : String × String) : Prop := SameIfUnbroken p.1 q.1 ∧ SameIfUnbroken p.2 q.2

theorem aliased?_alike {n m : Node} (alike : n.Alike m) :
    Option.Rel (fun p q => Rewrapped p.1.toList q.1.toList ∧ Rewrapped p.2.toList q.2.toList)
      (aliased? n) (aliased? m) := by
  have names := alike.child? (show Role.name ≠ .plain by decide)
  have newNames := alike.child? (show Role.newName ≠ .plain by decide)
  unfold aliased?
  rcases Node.missing_or_related names with ⟨left, right⟩ | ⟨name, name', left, right, name_⟩
  · simp only [left, right]
    exact .none
  · rcases Node.missing_or_related newNames with ⟨left', right'⟩ | ⟨new, new', left', right', new_⟩
    · simp only [left, right, left', right']
      exact .none
    · simp only [left, right, left', right']
      exact .some ⟨name_.texts.rewrapped, new_.texts.rewrapped⟩

theorem imported?_alike {n m : Node} (alike : n.Alike m) :
    Option.Rel PairSame (imported? n) (imported? m) := by
  have head := splitHead_same alike.texts.rewrapped
  unfold imported?
  rw [← alike.kind]
  split
  · rcases Node.missing_or_related (aliased?_alike alike) with
      ⟨left, right⟩ | ⟨p, q, left, right, name, newName⟩
    · rw [left, right]
      exact .none
    · rw [left, right]
      exact .some ⟨newName.same, name.same⟩
  · exact .some ⟨head, head⟩

theorem importedFrom?_alike {source source' : String}
    (sources : Rewrapped source.toList source'.toList) {n m : Node} (alike : n.Alike m) :
    Option.Rel PairSame (importedFrom? (Text.squeezed source) n)
      (importedFrom? (Text.squeezed source') m) := by
  have texts := alike.texts.rewrapped
  unfold importedFrom?
  rw [← alike.kind]
  split
  · rcases Node.missing_or_related (aliased?_alike alike) with
      ⟨left, right⟩ | ⟨p, q, left, right, name, newName⟩
    · rw [left, right]
      exact .none
    · rw [left, right]
      exact .some ⟨newName.same, inModule_same sources name⟩
  · exact .some ⟨splitHead_same texts, inModule_same sources texts⟩

theorem bind_same {p q : String × String} (pair : PairSame p q) (left : Whole (bind p.1 p.2))
    (right : Whole (bind q.1 q.2)) : bind p.1 p.2 = bind q.1 q.2 := by
  rw [pair.1 (unbroken_of_squeezed left.localName) (unbroken_of_squeezed right.localName),
    pair.2 (unbroken_of_squeezed left.qualified) (unbroken_of_squeezed right.qualified)]

/-- The names of a statement bind the same, provided that they are bound whole. -/
theorem filterMap_same {f g : Node → Option (String × String)} {ns ms : List Node}
    (nodes : List.Forall₂ Node.Alike ns ms)
    (pairs : ∀ n m, n.Alike m → Option.Rel PairSame (f n) (g m))
    (left : ∀ b ∈ ns.filterMap fun n => (f n).map fun p => bind p.1 p.2, Whole b)
    (right : ∀ b ∈ ms.filterMap fun m => (g m).map fun p => bind p.1 p.2, Whole b) :
    (ns.filterMap fun n => (f n).map fun p => bind p.1 p.2) =
      ms.filterMap fun m => (g m).map fun p => bind p.1 p.2 := by
  induction nodes with
  | nil => rfl
  | @cons n m ns ms alike rest ih =>
    rcases Node.missing_or_related (pairs n m alike) with ⟨none, none'⟩ | ⟨p, q, some_, some_', pair⟩
    · rw [List.filterMap_cons_none (by rw [none]; rfl)] at left ⊢
      rw [List.filterMap_cons_none (by rw [none']; rfl)] at right ⊢
      exact ih left right
    · rw [List.filterMap_cons_some (by rw [some_]; rfl)] at left ⊢
      rw [List.filterMap_cons_some (by rw [some_']; rfl)] at right ⊢
      have behind := ih (fun b member => left b (List.mem_cons_of_mem _ member))
        fun b member => right b (List.mem_cons_of_mem _ member)
      have here := bind_same pair (left _ List.mem_cons_self) (right _ List.mem_cons_self)
      exact congrArg₂ List.cons here behind

theorem bindingsOf_same {n m : Node} (alike : n.Alike m) (left : ∀ b ∈ bindingsOf n, Whole b)
    (right : ∀ b ∈ bindingsOf m, Whole b) : bindingsOf n = bindingsOf m := by
  have names := alike.childrenIn (show Role.name ≠ .plain by decide)
  have sources := alike.child? (show Role.moduleName ≠ .plain by decide)
  unfold bindingsOf at left right ⊢
  rw [← alike.kind] at right ⊢
  simp only [funext importBinding?_eq, funext (importFromBinding?_eq _)] at left right ⊢
  split
  · rename_i plain
    simp only [plain] at left right
    exact filterMap_same names (fun _ _ pair => imported?_alike pair) left right
  · rename_i plain
    simp only [plain] at left right
    rcases Node.missing_or_related sources with ⟨none, none'⟩ | ⟨s, s', found, found', source⟩
    · rw [none, none']
    · rw [found] at left ⊢
      rw [found'] at right ⊢
      exact filterMap_same names
        (fun _ _ pair => importedFrom?_alike source.texts.rewrapped pair) left right
  · rfl

theorem preorderAll_same {ns ms : List Node} (alike : Node.AllAlike ns ms)
    (left : ∀ b ∈ (Node.preorderAll (!isImport ·) ns).flatMap bindingsOf, Whole b)
    (right : ∀ b ∈ (Node.preorderAll (!isImport ·) ms).flatMap bindingsOf, Whole b) :
    (Node.preorderAll (!isImport ·) ns).flatMap bindingsOf =
      (Node.preorderAll (!isImport ·) ms).flatMap bindingsOf := by
  induction alike with
  | nil => rfl
  | @cons kind role text text' span span' inside inside' ns ms texts heads parts rest ihIn ihRest =>
    have pair : Node.Alike (.mk kind role text span inside) (.mk kind role text' span' inside') :=
      ⟨rfl, rfl, texts, heads, parts⟩
    have enters : isImport (.mk kind role text span inside) =
        isImport (.mk kind role text' span' inside') := rfl
    simp only [Node.preorderAll, Node.preorder, List.flatMap_append, List.cons_append,
      List.flatMap_cons, List.mem_append, ← enters] at left right ⊢
    have here := bindingsOf_same pair (fun b member => left b (.inl member))
      fun b member => right b (.inl member)
    have behind := ihRest (fun b member => left b (.inr (.inr member)))
      fun b member => right b (.inr (.inr member))
    rw [here, behind]
    split
    · rename_i entered
      simp only [entered, if_true] at left right
      rw [ihIn (fun b member => left b (.inr (.inl member)))
        fun b member => right b (.inr (.inl member))]
    · rfl
  | left _ ih => exact ih left right
  | right _ ih => exact ih left right

/-- Two files bind the same names, provided that they bind them whole. -/
theorem bindings_same {root root' : Node} (alike : root.Alike root')
    (left : ∀ b ∈ bindings root, Whole b) (right : ∀ b ∈ bindings root', Whole b) :
    bindings root = bindings root' := by
  have all (n : Node) : bindings n = (Node.preorderAll (!isImport ·) [n]).flatMap bindingsOf := by
    rw [bindings, Node.walk_eq_preorder, Node.preorderAll, Node.preorderAll, List.append_nil]
  rw [all] at left right
  rw [all, all]
  exact preorderAll_same (.single alike) left right

end Imports

end PoolLint
