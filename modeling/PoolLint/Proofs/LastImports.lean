import PoolLint.FileFacts
import PoolLint.Proofs.ImportClauses

/-! What a name stands for is decided by the last clause that binds its first part. The bindings of
a file are those of its clauses one after the other, so what overwrites an earlier binding is a later
clause. Names that a relative import bound last never name a target without a dot in front. -/
namespace PoolLint.Imports
open Syntax

section Bindings

def bindingOf? (statement n : Node) : Option Binding :=
  match statement.kind with
  | .importStatement => importBinding? n
  | .importFromStatement => (statement.child? .moduleName).bind fun source =>
      importFromBinding? (Text.squeezed source.text) n
  | _ => none

theorem bindingsOf_eq (statement : Node) :
    bindingsOf statement = (statement.childrenIn .name).filterMap (bindingOf? statement) := by
  unfold bindingsOf bindingOf?
  cases statement.kind with
  | importStatement => rfl
  | importFromStatement =>
    cases statement.child? .moduleName with
    | none => simp
    | some source => rfl
  | _ => simp

theorem bindings_eq (root : Node) :
    bindings root = (clauses root).filterMap fun c => bindingOf? c.statement c.name := by
  have names (ns : List Node) : ns.zipIdx.map (·.1) = ns := List.zipIdx_map_fst 0 ns
  rw [bindings, Node.walk_eq_preorder, ← Node.map_snd_walked, List.flatMap_map, clauses,
    List.filterMap_filter, List.filterMap_flatMap]
  refine List.flatMap_congr fun p _ => ?_
  rw [bindingsOf_eq, List.filterMap_map]
  conv_lhs => rw [← names (p.2.childrenIn .name), List.filterMap_map]
  refine List.filterMap_congr fun n _ => ?_
  dsimp only [Function.comp_apply]
  split
  · rfl
  · -- nothing is bound outside of import statements
    rename_i other
    unfold bindingOf?
    split
    · exact absurd (by rw [‹p.2.kind = _›]; rfl) other
    · exact absurd (by rw [‹p.2.kind = _›]; rfl) other
    · rfl

theorem bind_eq_some {name full localName qualified : String} :
    some (bind localName qualified) = some (Binding.mk name full) ↔
      Text.squeezed localName = name ∧ Text.squeezed qualified = full := by
  simp [bind]

theorem qualified_iff {module name full : String} :
    Qualified (Text.squeezed module) (Text.squeezed name) full ↔
      Text.squeezed (inModule (Text.squeezed module) name) = full := by
  have dot : Text.squeezed "." = "." := by decide
  unfold inModule
  by_cases dotted : (Text.squeezed module).toList.getLast? = some '.'
  · simp only [dotted, beq_self_eq_true, if_true, squeezed_append, Text.squeezed_squeezed]
    constructor
    · rintro (_ | undotted)
      · rfl
      · exact absurd dotted undotted
    · rintro rfl
      exact .package dotted
  · have unequal : ((Text.squeezed module).toList.getLast? == some '.') = false :=
      beq_false_of_ne dotted
    simp only [unequal, Bool.false_eq_true, if_false, squeezed_append, Text.squeezed_squeezed, dot]
    constructor
    · rintro (dotted' | _)
      · exact absurd dotted' dotted
      · rfl
    · rintro rfl
      exact .module dotted

theorem firstPart_iff {name part : String} :
    FirstPart (Text.squeezed name) part ↔ Text.squeezed (splitHead name).1 = part := by
  have split := (split_splitHead name).squeezed
  constructor
  · rintro ⟨rest, split'⟩
    exact (split.unique split').1
  · rintro rfl
    exact ⟨_, split⟩

theorem aliased?_eq_some {n : Node} {original given : String} :
    aliased? n = some (original, given) ↔ ∃ name newName, n.child? .name = some name ∧
      n.child? .newName = some newName ∧ name.text = original ∧ newName.text = given := by
  unfold aliased?
  cases n.child? .name with
  | none => simp
  | some name => cases n.child? .newName <;> simp

section Statements

variable {statement n : Node} {name full : String}

theorem importBinding?_iff (kind : statement.kind = .importStatement) :
    importBinding? n = some ⟨name, full⟩ ↔ Binds FirstPart statement n name full := by
  have unlike : ¬ IsFrom statement.kind := by simp [IsFrom, kind]
  unfold importBinding?
  constructor
  · intro made
    split at made
    · rename_i aliased
      obtain ⟨⟨original, given⟩, pair, made⟩ := Option.map_eq_some_iff.mp made
      obtain ⟨x, y, found, found', rfl, rfl⟩ := aliased?_eq_some.mp pair
      obtain ⟨rfl, rfl⟩ := bind_eq_some.mp (congrArg some made)
      exact .renamed kind (beq_iff_eq.mp aliased) found found'
    · rename_i unaliased
      obtain ⟨rfl, rfl⟩ := bind_eq_some.mp made
      exact .plain kind (by simpa using unaliased) (firstPart_iff.mpr rfl)
  · rintro (⟨-, unaliased, first⟩ | ⟨-, aliased, found, found'⟩ | ⟨isFrom⟩ | ⟨isFrom⟩)
    · rw [if_neg (by simpa using unaliased), bind_eq_some]
      exact ⟨firstPart_iff.mp first, firstPart_iff.mp first⟩
    · have pair := aliased?_eq_some.mpr ⟨_, _, found, found', rfl, rfl⟩
      rw [if_pos (beq_iff_eq.mpr aliased), pair]
      rfl
    · exact absurd isFrom unlike
    · exact absurd isFrom unlike

theorem importFromBinding?_iff {source : Node} (kind : statement.kind = .importFromStatement)
    (origin : statement.child? .moduleName = some source) :
    importFromBinding? (Text.squeezed source.text) n = some ⟨name, full⟩ ↔
      Binds FirstPart statement n name full := by
  have isFrom : IsFrom statement.kind := .inl kind
  have same {other : Node} (found : statement.child? .moduleName = some other) : other = source :=
    Option.some.inj (found.symm.trans origin)
  unfold importFromBinding?
  constructor
  · intro made
    split at made
    · rename_i aliased
      obtain ⟨⟨original, given⟩, pair, made⟩ := Option.map_eq_some_iff.mp made
      obtain ⟨x, y, found, found', rfl, rfl⟩ := aliased?_eq_some.mp pair
      obtain ⟨rfl, rfl⟩ := bind_eq_some.mp (congrArg some made)
      exact .importedAs isFrom origin (beq_iff_eq.mp aliased) found found' (qualified_iff.mpr rfl)
    · rename_i unaliased
      obtain ⟨rfl, rfl⟩ := bind_eq_some.mp made
      exact .imported isFrom origin (by simpa using unaliased) (firstPart_iff.mpr rfl)
        (qualified_iff.mpr rfl)
  · rintro (⟨plain⟩ | ⟨plain⟩ | ⟨-, origin', unaliased, first, qualified⟩ |
      ⟨-, origin', aliased, found, found', qualified⟩)
    · exact absurd (kind.symm.trans plain) (by decide)
    · exact absurd (kind.symm.trans plain) (by decide)
    · rw [same origin'] at qualified
      rw [if_neg (by simpa using unaliased), bind_eq_some]
      exact ⟨firstPart_iff.mp first, qualified_iff.mp qualified⟩
    · rw [same origin'] at qualified
      have pair := aliased?_eq_some.mpr ⟨_, _, found, found', rfl, rfl⟩
      rw [if_pos (beq_iff_eq.mpr aliased), pair, Option.map_some, bind_eq_some]
      exact ⟨rfl, qualified_iff.mp qualified⟩

theorem bindingOf?_iff (present : statement.kind ≠ .futureImportStatement) :
    bindingOf? statement n = some ⟨name, full⟩ ↔ Binds FirstPart statement n name full := by
  by_cases plain : statement.kind = .importStatement
  · rw [bindingOf?, plain]
    exact importBinding?_iff plain
  · by_cases isFrom : statement.kind = .importFromStatement
    · simp only [bindingOf?, isFrom]
      cases origin : statement.child? .moduleName with
      | none =>
        simp only [Option.bind_none, false_iff, reduceCtorEq]
        rintro (⟨plain'⟩ | ⟨plain'⟩ | ⟨-, origin'⟩ | ⟨-, origin'⟩)
        · exact plain plain'
        · exact plain plain'
        · cases origin.symm.trans origin'
        · cases origin.symm.trans origin'
      | some source => exact importFromBinding?_iff isFrom origin
    · have silent : bindingOf? statement n = none := by
        unfold bindingOf?
        split
        · exact absurd ‹_› plain
        · exact absurd ‹_› isFrom
        · rfl
      rw [silent]
      simp only [false_iff, reduceCtorEq]
      rintro (⟨plain'⟩ | ⟨plain'⟩ | ⟨isFrom' | future⟩ | ⟨isFrom' | future⟩)
      · exact plain plain'
      · exact plain plain'
      · exact isFrom isFrom'
      · exact present future
      · exact isFrom isFrom'
      · exact present future

/-- Statements about the future bind nothing, whatever else they do. -/
theorem bindingOf?_sound (made : bindingOf? statement n = some ⟨name, full⟩) :
    Binds FirstPart statement n name full := by
  refine (bindingOf?_iff fun future => ?_).mp made
  rw [bindingOf?, future] at made
  cases made

end Statements

end Bindings

section Resolution

variable {root : Node}

theorem resolve_of_last {callee head rest full : String} {c : Clause}
    (split : Split (Text.squeezed callee) head rest) (last : Last FirstPart root head full c)
    (present : c.statement.kind ≠ .futureImportStatement) :
    resolve (bindings root) callee = full ++ rest := by
  obtain ⟨before, after, shape, others⟩ := last.shape
  have made := (bindingOf?_iff present).mpr last.binds
  refine (expands_iff _ _ _).mp (.bound head rest
    (before.filterMap fun c => bindingOf? c.statement c.name)
    (after.filterMap fun c => bindingOf? c.statement c.name) ⟨head, full⟩ split ?_ rfl ?_)
  · rw [bindings_eq, shape, List.filterMap_append, List.filterMap_cons]
    simp only [made]
  · rintro ⟨name, other⟩ member rfl
    obtain ⟨d, later, made'⟩ := List.mem_filterMap.mp member
    exact others d later other (bindingOf?_sound made')

theorem resolve_of_unbound {callee head rest : String}
    (split : Split (Text.squeezed callee) head rest)
    (unbound : ∀ (c : Clause) full, c.In root → ¬ Binds FirstPart c.statement c.name head full) :
    resolve (bindings root) callee = Text.squeezed callee := by
  refine (expands_iff _ _ _).mp (.free head rest split ?_)
  rintro ⟨name, full⟩ member rfl
  rw [bindings_eq] at member
  obtain ⟨c, inside, made⟩ := List.mem_filterMap.mp member
  exact unbound c full ((mem_clauses root c).mp inside) (bindingOf?_sound made)

/-- The last clause that binds the first part of a name, if any does, is not about the future. -/
def IsPresent (root : Node) (name : String) : Prop :=
  ∀ head rest full c, Split name head rest → Last FirstPart root head full c →
    c.statement.kind ≠ .futureImportStatement

/-- The last clause that binds the first part of a name imports from a relative module. -/
def IsRelative (root : Node) (name : String) : Prop :=
  ∃ head rest full c source, Split name head rest ∧ Last FirstPart root head full c ∧
    c.statement.kind = .importFromStatement ∧ c.statement.child? .moduleName = some source ∧
    (Text.squeezed source.text).toList.head? = some '.'

theorem resolve_iff {callee : String} (present : IsPresent root (Text.squeezed callee))
    (full : String) : resolve (bindings root) callee = full ↔
      ResolvesTo FirstPart root (Text.squeezed callee) full := by
  have sound {other : String} (means : ResolvesTo FirstPart root (Text.squeezed callee) other) :
      resolve (bindings root) callee = other := by
    cases means with
    | bound split last => exact resolve_of_last split last (present _ _ _ _ split last)
    | free split unbound => exact resolve_of_unbound split unbound
  constructor
  · rintro rfl
    obtain ⟨other, means⟩ := exists_resolvesTo FirstPart root (Text.squeezed callee)
    exact sound means ▸ means
  · exact sound

theorem head_append {s t : String} (head : s.toList.head? = some '.') :
    (s ++ t).toList.head? = some '.' := by
  obtain ⟨cs, shape⟩ := List.head?_eq_some_iff.mp head
  rw [String.toList_append, shape]
  rfl

theorem Qualified.head {module name full : String} (qualified : Qualified module name full)
    (relative : module.toList.head? = some '.') : full.toList.head? = some '.' := by
  cases qualified with
  | package => exact head_append relative
  | module => exact head_append (head_append relative)

theorem resolve_relative {callee : String} (relative : IsRelative root (Text.squeezed callee)) :
    (resolve (bindings root) callee).toList.head? = some '.' := by
  obtain ⟨head, rest, full, c, source, split, last, kind, origin, dotted⟩ := relative
  have present : c.statement.kind ≠ .futureImportStatement := by rw [kind]; decide
  rw [resolve_of_last split last present]
  refine head_append ?_
  rcases last.binds with ⟨plain⟩ | ⟨plain⟩ | ⟨-, origin', -, -, qualified⟩ |
    ⟨-, origin', -, -, -, qualified⟩
  · exact absurd (kind.symm.trans plain) (by decide)
  · exact absurd (kind.symm.trans plain) (by decide)
  · cases origin.symm.trans origin'
    exact qualified.head dotted
  · cases origin.symm.trans origin'
    exact qualified.head dotted

/-- A name stands for what the last clause that binds its first part makes of it. If that clause
imports from a relative module, calls under the name construct no target without a dot in front. -/
theorem last_clause_decides (root : Node) :
    (∀ callee full, IsPresent root (Text.squeezed callee) →
      (resolve (bindings root) callee = full ↔
        ResolvesTo FirstPart root (Text.squeezed callee) full)) ∧
      ∀ file fault targets site, IsRelative root (Text.squeezed site.callee) →
        (∀ target ∈ targets, target.toList.head? ≠ some '.') →
        (FileFacts.of file fault root).isTarget targets site = false := by
  refine ⟨fun callee full present => resolve_iff present full, ?_⟩
  intro file fault targets site relative absolute
  have dotted := resolve_relative relative
  rw [FileFacts.isTarget, FileFacts.of, ← Bool.not_eq_true]
  intro isTarget
  exact absolute _ (List.contains_iff_mem.mp isTarget) dotted

end Resolution

section Examples

theorem split_jdbc : Split "jdbc.Client" "jdbc" ".Client" :=
  ⟨by decide, by decide, .inr (by decide)⟩

/-- A name that is imported twice, the second time inside a function and from the package around. The
star behind it binds no name. -/
def reboundText : String :=
  "import jdbc\ndef f():\n    from . import jdbc\nfrom m import *\njdbc.Client(1)\n"

/-- Whether the second of two clauses imports `jdbc` from the package around. -/
def isRebound (root : Node) : Bool :=
  match clauses root with
  | [_, d] => d.statement.kind == .importFromStatement &&
      (d.statement.child? .moduleName).any (fun source =>
        (Text.squeezed source.text).toList.head? == some '.') &&
      bindingOf? d.statement d.name == some ⟨"jdbc", ".jdbc"⟩
  | _ => false

theorem relative_of_isRebound {root : Node} (is : isRebound root = true) :
    IsRelative root "jdbc.Client" := by
  unfold isRebound at is
  split at is
  · rename_i c d shape
    simp only [Bool.and_eq_true, beq_iff_eq, Option.any_eq_true] at is
    obtain ⟨⟨kind, source, origin, dotted⟩, made⟩ := is
    have last := last_of_shape (show clauses root = [c] ++ d :: [] from shape)
      (bindingOf?_sound made) fun _ member => (List.not_mem_nil member).elim
    exact ⟨_, _, _, d, source, split_jdbc, last, kind, origin, dotted⟩
  · cases is

theorem reboundText_decided : ∃ root, Node.ofText? reboundText.toList = some root ∧
    IsPresent root "jdbc.Client" ∧ IsRelative root "jdbc.Client" ∧
    ResolvesTo FirstPart root "jdbc.Client" ".jdbc.Client" ∧
    (FileFacts.of ⟨0, ["app.py"]⟩ none root).isTarget ["jdbc.Client"] ⟨"jdbc.Client", [], default⟩ =
      false := by
  have read : (Node.ofText? reboundText.toList).any fun root => isRebound root &&
      (clauses root).all (·.statement.kind != .futureImportStatement) &&
      resolve (bindings root) "jdbc.Client" == ".jdbc.Client" := by
    decide +kernel
  obtain ⟨root, parsed, holds⟩ := (Option.any_eq_true _ _).mp read
  simp only [Bool.and_eq_true, List.all_eq_true, bne_iff_ne, beq_iff_eq] at holds
  obtain ⟨⟨rebound, noFuture⟩, resolved⟩ := holds
  have relative := relative_of_isRebound rebound
  have present : IsPresent root "jdbc.Client" := fun _ _ _ c _ last =>
    noFuture c ((mem_clauses root c).mpr last.inside)
  have squeezed : Text.squeezed "jdbc.Client" = "jdbc.Client" := by decide
  obtain ⟨decides, apart⟩ := last_clause_decides root
  have means := (decides "jdbc.Client" ".jdbc.Client" (squeezed.symm ▸ present)).mp resolved
  rw [squeezed] at means
  exact ⟨root, parsed, present, relative, means,
    apart _ _ _ _ (squeezed.symm ▸ relative) (by decide)⟩

/-- A text and a name that would stand for something else if names from a module were bound as they
are written, in statements about the future too. -/
def Misread (text callee : String) : Prop :=
  ∃ root full, Node.ofText? text.toList = some root ∧
    ResolvesTo Eq root (Text.squeezed callee) full ∧ resolve (bindings root) callee ≠ full

/-- The grammar lets a dotted name be imported from a module. -/
def dottedText : String := "from m import a.b\n"

/-- A feature of the language under another name. -/
def futureText : String := "from __future__ import annotations as jdbc\n"

private theorem dottedText_misread : Misread dottedText "a.c" := by
  have read : (Node.ofText? dottedText.toList).any fun root =>
      resolve (bindings root) "a.c" == "m.a.b.c" && (clauses root).all fun c =>
        c.statement.kind == .importFromStatement && c.name.kind == .dottedName &&
          Text.squeezed c.name.text == "a.b" := by
    decide +kernel
  obtain ⟨root, parsed, holds⟩ := (Option.any_eq_true _ _).mp read
  simp only [Bool.and_eq_true, List.all_eq_true, beq_iff_eq] at holds
  obtain ⟨resolved, dotted⟩ := holds
  have split : Split (Text.squeezed "a.c") "a" ".c" := ⟨by decide, by decide, .inr (by decide)⟩
  have squeezed : Text.squeezed "a.c" = "a.c" := by decide
  refine ⟨root, _, parsed, .free split ?_, by rw [resolved, squeezed]; decide⟩
  intro c full inside binds
  obtain ⟨⟨kind, unaliased⟩, text⟩ := dotted c ((mem_clauses root c).mpr inside)
  generalize other : "a" = head at binds
  cases binds with
  | plain plain | renamed plain => exact absurd (kind.symm.trans plain) (by decide)
  | imported _ _ _ taken => exact absurd (text.symm.trans (taken.trans other.symm)) (by decide)
  | importedAs _ _ aliased => exact absurd (unaliased.symm.trans aliased) (by decide)

def isFuture (root : Node) : Bool :=
  match clauses root with
  | [c] => c.statement.kind == .futureImportStatement && c.name.kind == .aliasedImport &&
      (c.statement.child? .moduleName).any (Text.squeezed ·.text == "__future__") &&
      (c.name.child? .name).any (Text.squeezed ·.text == "annotations") &&
      (c.name.child? .newName).any (Text.squeezed ·.text == "jdbc")
  | _ => false

private theorem futureText_misread : Misread futureText "jdbc.Client" := by
  have read : (Node.ofText? futureText.toList).any fun root =>
      resolve (bindings root) "jdbc.Client" == "jdbc.Client" && isFuture root := by
    decide +kernel
  obtain ⟨root, parsed, holds⟩ := (Option.any_eq_true _ _).mp read
  obtain ⟨resolved, is⟩ := (Bool.and_eq_true _ _).mp holds
  unfold isFuture at is
  split at is
  · rename_i c shape
    simp only [Bool.and_eq_true, beq_iff_eq, Option.any_eq_true] at is
    obtain ⟨⟨⟨⟨kind, aliased⟩, source, origin, module⟩, name, original, named⟩,
      newName, given, called⟩ := is
    have qualified : Qualified (Text.squeezed source.text) (Text.squeezed name.text)
        "__future__.annotations" := by
      rw [module, named]
      exact .module (by decide)
    have binds : Binds Eq c.statement c.name (Text.squeezed newName.text) _ :=
      .importedAs (.inr kind) origin aliased original given qualified
    rw [called] at binds
    have last := last_of_shape (show clauses root = [] ++ c :: [] from shape) binds
      fun _ member => (List.not_mem_nil member).elim
    have squeezed : Text.squeezed "jdbc.Client" = "jdbc.Client" := by decide
    refine ⟨root, _, parsed, .bound (squeezed ▸ split_jdbc) last, ?_⟩
    rw [beq_iff_eq.mp resolved]
    decide
  · cases is

/-- Names from a module are not always bound as they are written. -/
theorem whole_names_misread : Misread dottedText "a.c" ∧ Misread futureText "jdbc.Client" :=
  ⟨dottedText_misread, futureText_misread⟩

end Examples

end PoolLint.Imports
