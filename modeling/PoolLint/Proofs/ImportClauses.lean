import PoolLint.Proofs.ImportedNames
import PoolLint.Proofs.Places

/-! The import clauses of a file. A clause is a name in an import statement, wherever in the file
that stands, and clauses follow each other as in the source. The last clause that binds the first
part of a name says what the name stands for. -/
namespace PoolLint.Imports
open Syntax

section Squeezed

theorem squeezed_append (s t : String) :
    Text.squeezed (s ++ t) = Text.squeezed s ++ Text.squeezed t := by
  simp only [Text.squeezed, Text.squeeze, String.toList_append, List.filter_append,
    String.ofList_append]

/-- No blank is a dot, so a name has the same parts without its blanks. -/
theorem Split.squeezed {name head rest : String} (split : Split name head rest) :
    Split (Text.squeezed name) (Text.squeezed head) (Text.squeezed rest) where
  whole := by rw [split.whole, squeezed_append]
  undotted := by
    rw [Text.squeezed, String.toList_ofList]
    exact fun member => split.undotted (List.mem_of_mem_filter member)
  dotted := by
    rw [Text.squeezed, String.toList_ofList, Text.squeeze]
    rcases split.dotted with empty | dot
    · exact .inl (by rw [empty]; rfl)
    · obtain ⟨cs, shape⟩ := List.head?_eq_some_iff.mp dot
      exact .inr (by rw [shape, List.filter_cons_of_pos (by decide)]; rfl)

theorem Split.unique {name head rest head' rest' : String} (split : Split name head rest)
    (split' : Split name head' rest') : head = head' ∧ rest = rest' := by
  have same := split.eq_splitHead.symm.trans split'.eq_splitHead
  exact ⟨congrArg Prod.fst same, congrArg Prod.snd same⟩

end Squeezed

def isImporting : Kind → Bool
  | .importStatement | .importFromStatement | .futureImportStatement => true
  | _ => false

/-- A name in an import statement, and where it stands. A star in place of names is none. -/
structure Clause where
  place : List Nat
  position : Nat
  statement : Node
  name : Node

/-- The clause stands in a tree, in no import statement but its own. -/
structure Clause.In (root : Node) (c : Clause) : Prop where
  found : Node.Reaches (!isImport ·) root c.place c.statement
  kind : isImporting c.statement.kind
  name : (c.statement.childrenIn .name)[c.position]? = some c.name

/-- Clauses follow each other in source order, and from left to right in one statement. -/
def Clause.Before (c d : Clause) : Prop :=
  c.place < d.place ∨ c.place = d.place ∧ c.position < d.position

/-- A name in a module: behind a dot, which a relative module can bring along. -/
inductive Qualified (module name : String) : String → Prop
  | package (dotted : module.toList.getLast? = some '.') : Qualified module name (module ++ name)
  | module (undotted : module.toList.getLast? ≠ some '.') :
      Qualified module name (module ++ "." ++ name)

def IsFrom (kind : Kind) : Prop := kind = .importFromStatement ∨ kind = .futureImportStatement

/-- The part of a name before its first dot. -/
def FirstPart (name part : String) : Prop := ∃ rest, Split name part rest

/-- What a name in a statement binds, and to what. All texts are taken without their blanks. What is
bound by a name from a module, which has to be a single word in a legal source, is left open. -/
inductive Binds (takes : String → String → Prop) (statement n : Node) : String → String → Prop
  | plain {part : String} (kind : statement.kind = .importStatement)
      (unaliased : n.kind ≠ .aliasedImport) (first : FirstPart (Text.squeezed n.text) part) :
      Binds takes statement n part part
  | renamed {name newName : Node} (kind : statement.kind = .importStatement)
      (aliased : n.kind = .aliasedImport) (original : n.child? .name = some name)
      (given : n.child? .newName = some newName) :
      Binds takes statement n (Text.squeezed newName.text) (Text.squeezed name.text)
  | imported {source : Node} {local_ full : String} (kind : IsFrom statement.kind)
      (origin : statement.child? .moduleName = some source) (unaliased : n.kind ≠ .aliasedImport)
      (taken : takes (Text.squeezed n.text) local_)
      (qualified : Qualified (Text.squeezed source.text) (Text.squeezed n.text) full) :
      Binds takes statement n local_ full
  | importedAs {source name newName : Node} {full : String} (kind : IsFrom statement.kind)
      (origin : statement.child? .moduleName = some source) (aliased : n.kind = .aliasedImport)
      (original : n.child? .name = some name) (given : n.child? .newName = some newName)
      (qualified : Qualified (Text.squeezed source.text) (Text.squeezed name.text) full) :
      Binds takes statement n (Text.squeezed newName.text) full

/-- The last clause of a tree that binds a name. -/
structure Last (takes : String → String → Prop) (root : Node) (name full : String) (c : Clause) :
    Prop where
  inside : c.In root
  binds : Binds takes c.statement c.name name full
  last : ∀ (d : Clause) other, d.In root → Binds takes d.statement d.name name other → ¬ c.Before d

/-- What a name stands for: its first part is replaced by what the last clause binds it to. -/
inductive ResolvesTo (takes : String → String → Prop) (root : Node) (name : String) : String → Prop
  | bound {head rest full : String} {c : Clause} (split : Split name head rest)
      (last : Last takes root head full c) : ResolvesTo takes root name (full ++ rest)
  | free {head rest : String} (split : Split name head rest)
      (unbound : ∀ (c : Clause) full, c.In root → ¬ Binds takes c.statement c.name head full) :
      ResolvesTo takes root name name

section Clauses

/-- The clauses of a tree in source order. -/
def clauses (root : Node) : List Clause :=
  ((root.walked (!isImport ·)).flatMap fun p =>
    (p.2.childrenIn .name).zipIdx.map fun n => ⟨p.1, n.2, p.2, n.1⟩).filter
      (isImporting ·.statement.kind)

theorem mem_clauses (root : Node) (c : Clause) : c ∈ clauses root ↔ c.In root := by
  obtain ⟨place, position, statement, name⟩ := c
  simp only [clauses, List.mem_filter, List.mem_flatMap, List.mem_map, Prod.exists,
    Clause.mk.injEq]
  constructor
  · rintro ⟨⟨_, _, met, _, _, member, rfl, rfl, rfl, rfl⟩, kind⟩
    exact ⟨(Node.mem_walked _ _ _ _).mp met, kind, List.mk_mem_zipIdx_iff_getElem?.mp member⟩
  · rintro ⟨found, kind, named⟩
    exact ⟨⟨place, statement, (Node.mem_walked _ _ _ _).mpr found, name, position,
      List.mk_mem_zipIdx_iff_getElem?.mpr named, rfl, rfl, rfl, rfl⟩, kind⟩

theorem clauses_sorted (root : Node) : (clauses root).Pairwise Clause.Before := by
  refine (List.pairwise_flatMap.mpr ⟨fun p _ => ?_, ?_⟩).filter _
  · rw [List.pairwise_map]
    have positions : ((p.2.childrenIn .name).zipIdx.map (·.2)).Pairwise (· < ·) := by
      rw [List.zipIdx_map_snd]
      exact List.pairwise_lt_range'
    exact (List.pairwise_map.mp positions).imp fun before => .inr ⟨rfl, before⟩
  · refine (Node.walked_sorted _ root).imp ?_
    intro p q before c first d second
    obtain ⟨_, -, rfl⟩ := List.mem_map.mp first
    obtain ⟨_, -, rfl⟩ := List.mem_map.mp second
    exact .inl before

theorem Clause.Before.asymm {c d : Clause} (before : c.Before d) : ¬ d.Before c := by
  rintro (behind | ⟨same, behind⟩)
  · rcases before with before | ⟨same, -⟩
    · exact List.lt_asymm before behind
    · exact List.lt_irrefl _ (same ▸ behind)
  · rcases before with before | ⟨-, before⟩
    · exact List.lt_irrefl _ (same ▸ before)
    · omega

/-- The last clause that binds a name stands in front of clauses that do not bind it. -/
theorem last_of_shape {takes : String → String → Prop} {root : Node} {name full : String}
    {before after : List Clause} {c : Clause} (shape : clauses root = before ++ c :: after)
    (binds : Binds takes c.statement c.name name full)
    (others : ∀ d ∈ after, ∀ other, ¬ Binds takes d.statement d.name name other) :
    Last takes root name full c where
  inside := (mem_clauses root c).mp (by rw [shape]; simp)
  binds := binds
  last d other inside binds' behind := by
    have sorted := clauses_sorted root
    have member := (mem_clauses root d).mpr inside
    rw [shape, List.pairwise_append, List.pairwise_cons] at sorted
    rw [shape, List.mem_append, List.mem_cons] at member
    rcases member with first | rfl | later
    · exact behind.asymm (sorted.2.2 d first c List.mem_cons_self)
    · exact behind.asymm behind
    · exact others d later other binds'

theorem Last.shape {takes : String → String → Prop} {root : Node} {name full : String} {c : Clause}
    (last : Last takes root name full c) : ∃ before after, clauses root = before ++ c :: after ∧
      ∀ d ∈ after, ∀ other, ¬ Binds takes d.statement d.name name other := by
  obtain ⟨before, after, shape⟩ := List.append_of_mem ((mem_clauses root c).mpr last.inside)
  refine ⟨before, after, shape, fun d later other binds => ?_⟩
  have sorted := clauses_sorted root
  rw [shape, List.pairwise_append, List.pairwise_cons] at sorted
  have inside := (mem_clauses root d).mp (by rw [shape]; simp [later])
  exact last.last d other inside binds (sorted.2.1.1 d later)

/-- A list has no element with a property, or a last one. -/
theorem none_or_last {α : Type} (p : α → Prop) (xs : List α) : (∀ x ∈ xs, ¬ p x) ∨
    ∃ before x after, xs = before ++ x :: after ∧ p x ∧ ∀ y ∈ after, ¬ p y := by
  induction xs with
  | nil => exact .inl fun x member => (List.not_mem_nil member).elim
  | cons x rest ih =>
    rcases ih with none | ⟨before, y, after, rfl, holds, others⟩
    · by_cases holds : p x
      · exact .inr ⟨[], x, rest, rfl, holds, none⟩
      · exact .inl (List.forall_mem_cons.mpr ⟨holds, none⟩)
    · exact .inr ⟨x :: before, y, after, rfl, holds, others⟩

/-- Every name stands for something. -/
theorem exists_resolvesTo (takes : String → String → Prop) (root : Node) (name : String) :
    ∃ full, ResolvesTo takes root name full := by
  have split := split_splitHead name
  rcases none_or_last (fun c => ∃ full, Binds takes c.statement c.name (splitHead name).1 full)
    (clauses root) with none | ⟨before, c, after, shape, ⟨full, binds⟩, others⟩
  · refine ⟨name, .free split fun c full inside binds => ?_⟩
    exact none c ((mem_clauses root c).mpr inside) ⟨full, binds⟩
  · exact ⟨_, .bound split (last_of_shape shape binds fun d later other binds' =>
      others d later ⟨other, binds'⟩)⟩

end Clauses

end PoolLint.Imports
