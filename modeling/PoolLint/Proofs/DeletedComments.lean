import PoolLint.Proofs.LoweredNodes
import PoolLint.Proofs.Outlines
import PoolLint.Proofs.ThinnedTrees

/-! Comments among the arguments of a call or the entries of a record are nothing to a scan. Without
them the calls of a file have the same outlines and the file binds the same names, so the scan notes
and finds the same. -/
namespace PoolLint
open Syntax

def Noted.map {α β : Type} (f : α → β) (n : Noted α) : Noted β := ⟨f n.value, n.steps⟩

theorem Noted.map_inj {α β : Type} {f : α → β} {n m : Noted α} :
    n.map f = m.map f ↔ f n.value = f m.value ∧ n.steps = m.steps := by
  simp only [map, Noted.mk.injEq]

theorem Noted.gathered {α β : Type} {f : α → β} {as bs : List (Noted α)}
    (same : as.map (map f) = bs.map (map f)) :
    (as.map (·.value)).map f = (bs.map (·.value)).map f ∧
      as.flatMap (·.steps) = bs.flatMap (·.steps) := by
  have values := congrArg (List.map Noted.value) same
  have steps := congrArg (List.flatMap Noted.steps) same
  simp only [List.map_map, List.flatMap_map, Function.comp_def, map] at values steps ⊢
  exact ⟨values, steps⟩

namespace Lowering

def DictEntries.outline (entries : DictEntries) : DictEntries :=
  ⟨Field.outlines entries.fields, entries.steps, entries.isComplete⟩

theorem outlines_related {α β : Type} {f : α → β} {a b : Option α} (same : a.map f = b.map f) :
    a = none ∧ b = none ∨ ∃ x y, a = some x ∧ b = some y ∧ f x = f y := by
  cases a with
  | none => exact .inl ⟨rfl, Option.map_eq_none_iff.mp same.symm⟩
  | some x =>
    obtain ⟨y, found, equal⟩ := Option.map_eq_some_iff.mp same.symm
    exact .inr ⟨x, y, rfl, found, equal.symm⟩

/-- Rows of parts of a node of a kind that are read alike. A row of entries is only ever read as a
whole, and any other row part by part. -/
structure SameRow (file : Path) (kind : Kind) (ns ms : List Node) : Prop where
  record : (recordFields file ns).map Field.outlines = (recordFields file ms).map Field.outlines
  arguments : (dictEntries file ns).outline = (dictEntries file ms).outline
  spelled : kind.holdsEntries = false → ∀ role : Role, role.isSpelled →
    textIn? role ns = textIn? role ms
  value : kind.holdsEntries = false → ∀ role,
    (valueIn file role ns).map (Noted.map Expr.outline) =
      (valueIn file role ms).map (Noted.map Expr.outline)
  key : kind.holdsEntries = false →
    (ns.find? (·.role == .key)).map writtenKey? = (ms.find? (·.role == .key)).map writtenKey?
  dict : kind.holdsEntries = false →
    (dictFields file ns).map DictEntries.outline = (dictFields file ms).map DictEntries.outline

section Nodes

variable {file : Path} {kind : Kind} {ns ms : List Node} (row : SameRow file kind ns ms)
  (role : Role) (span : Span)
include row

theorem exprOf_sameRow {text text' : String} (texts : Node.isRead kind role → text = text') :
    (exprOf file (.mk kind role text span ns)).map Expr.outline =
      (exprOf file (.mk kind role text' span ms)).map Expr.outline := by
  unfold exprOf
  cases literal : literalKind? kind with
  | some found =>
    have same : text = text' := texts (by simp [Node.isRead, literal])
    rw [same]
  | none =>
    cases kind with
    | unaryOperator =>
      have operators := row.spelled rfl .operator rfl
      rcases outlines_related (row.value rfl .operand) with
        ⟨none, none'⟩ | ⟨operand, operand', found, found', same⟩
      · simp only [none, none', operators]
        cases textIn? .operator ms <;> rfl
      · obtain ⟨values, steps⟩ := Noted.map_inj.mp same
        simp only [found, found', operators]
        cases textIn? .operator ms with
        | none => rfl
        | some operator =>
          exact Noted.map_inj.mpr
            ⟨by simp only [Expr.outline, values], congrArg (ReadStep.around 1) steps⟩
    | dictionary =>
      obtain ⟨fields, steps⟩ := Noted.map_inj.mp row.record
      exact Noted.map_inj.mpr
        ⟨by simp only [Expr.outline, fields], congrArg (ReadStep.around 2) steps⟩
    | call =>
      simp only [row.spelled rfl .function rfl]
      split
      · rcases outlines_related (row.dict rfl) with
          ⟨none, none'⟩ | ⟨entries, entries', found, found', same⟩
        · rw [none, none']
          rfl
        · rw [found, found']
          injection same with fields steps complete
          simp only [complete]
          split
          · exact Noted.map_inj.mpr
              ⟨by simp only [Expr.outline, fields], congrArg (ReadStep.around 2) steps⟩
          · exact Noted.map_inj.mpr ⟨rfl, by rw [steps]⟩
      · rfl
    | _ => rfl

theorem recordField?_sameRow (text text' : String) :
    (recordField? file (.mk kind role text span ns)).map (Noted.map Field.outline) =
      (recordField? file (.mk kind role text' span ms)).map (Noted.map Field.outline) := by
  unfold recordField?
  cases kind with
  | pair =>
    rcases outlines_related (row.key rfl) with ⟨none, none'⟩ | ⟨key, key', found, found', written⟩
    · simp only [none, none']
    · rcases outlines_related (row.value rfl .value) with
        ⟨none, none'⟩ | ⟨value, value', there, there', same⟩
      · simp only [found, found', none, none']
      · obtain ⟨values, steps⟩ := Noted.map_inj.mp same
        simp only [found, found', there, there', written, Option.map_some, Option.some.injEq]
        exact Noted.map_inj.mpr ⟨by simp only [Field.outline, values], steps⟩
  | _ => rfl

theorem dictField?_sameRow (text text' : String) :
    (dictField? file (.mk kind role text span ns)).map (Noted.map Field.outline) =
      (dictField? file (.mk kind role text' span ms)).map (Noted.map Field.outline) := by
  unfold dictField?
  cases kind with
  | keywordArgument =>
    rw [row.spelled rfl .name rfl]
    rcases outlines_related (row.value rfl .value) with
      ⟨none, none'⟩ | ⟨value, value', there, there', same⟩
    · rw [none, none']
    · obtain ⟨values, steps⟩ := Noted.map_inj.mp same
      rw [there, there']
      cases textIn? .name ms with
      | none => rfl
      | some name =>
        exact congrArg some (Noted.map_inj.mpr ⟨by simp only [Field.outline, values], steps⟩)
  | _ => rfl

theorem argumentFields?_sameRow (text text' : String) :
    (argumentFields? file (.mk kind role text span ns)).map DictEntries.outline =
      (argumentFields? file (.mk kind role text' span ms)).map DictEntries.outline := by
  unfold argumentFields?
  cases kind with
  | argumentList => exact congrArg some row.arguments
  | _ => rfl

theorem argumentOf_sameRow {text text' : String}
    (texts : Node.isRead kind role → text = text') :
    (argumentOf file (.mk kind role text span ns)).map Argument.outline =
      (argumentOf file (.mk kind role text' span ms)).map Argument.outline := by
  obtain ⟨whole, notes⟩ := Noted.map_inj.mp (exprOf_sameRow row role span texts)
  have positional := congrArg₂ Noted.mk (congrArg Argument.positional whole) notes
  unfold argumentOf
  cases kind with
  | keywordArgument =>
    simp only [Node.children_mk, row.spelled rfl .name rfl]
    rcases outlines_related (row.value rfl .value) with
      ⟨none, none'⟩ | ⟨value, value', found, found', same⟩
    · rw [none, none']
      cases textIn? .name ms <;> exact positional
    · obtain ⟨values, steps⟩ := Noted.map_inj.mp same
      rw [found, found']
      cases textIn? .name ms with
      | none => exact positional
      | some name => exact congrArg₂ Noted.mk (congrArg (Argument.named name) values) steps
  | _ => exact positional

end Nodes

/-- Rows stay read alike behind a node that is itself read alike. -/
theorem SameRow.cons {file : Path} {parent kind : Kind} {role : Role} {text text' : String}
    {span : Span} {inside inside' ns ms : List Node}
    (texts : Node.isRead kind role → text = text') (parts : SameRow file kind inside inside')
    (rest : SameRow file parent ns ms) :
    SameRow file parent (.mk kind role text span inside :: ns)
      (.mk kind role text' span inside' :: ms) where
  record := by
    obtain ⟨fields, steps⟩ := Noted.map_inj.mp rest.record
    rw [recordFields, recordFields]
    rcases outlines_related (recordField?_sameRow parts role span text text') with
      ⟨none, none'⟩ | ⟨field, field', found, found', same⟩
    · rw [none, none']
      exact rest.record
    · obtain ⟨values, notes⟩ := Noted.map_inj.mp same
      rw [found, found']
      exact Noted.map_inj.mpr
        ⟨by simp only [Field.outlines, values, fields], by simp only [notes, steps]⟩
  arguments := by
    by_cases skipped : isSkipped kind
    · simp only [dictEntries, Node.kind_mk, skipped, if_true]
      exact rest.arguments
    · by_cases fitting : isNamedOrSpread kind
      · simp only [dictEntries, Node.kind_mk, skipped, fitting, if_true, Bool.false_eq_true,
          if_false]
        rcases outlines_related (dictField?_sameRow parts role span text text') with
          ⟨none, none'⟩ | ⟨field, field', found, found', same⟩
        · rw [none, none']
          exact rest.arguments
        · obtain ⟨values, notes⟩ := Noted.map_inj.mp same
          injection rest.arguments with fields steps complete
          rw [found, found']
          simp only [DictEntries.cons, DictEntries.outline, Field.outlines, values, fields, notes,
            steps, complete]
      · simp only [dictEntries, Node.kind_mk, skipped, fitting, Bool.false_eq_true, if_false]
  spelled plain spelledRole known := by
    have behind := rest.spelled plain spelledRole known
    unfold textIn? at behind ⊢
    rw [List.find?_cons, List.find?_cons]
    simp only [Node.role_mk]
    cases inRole : role == spelledRole with
    | true =>
      have same : text = text' := texts (by simp [Node.isRead, beq_iff_eq.mp inRole, known])
      simp [same]
    | false => exact behind
  value plain valueRole := by
    have behind := rest.value plain valueRole
    simp only [valueIn_eq, List.find?_cons, Node.role_mk] at behind ⊢
    cases role == valueRole with
    | true => exact congrArg some (exprOf_sameRow parts role span texts)
    | false => exact behind
  key plain := by
    rw [List.find?_cons, List.find?_cons]
    simp only [Node.role_mk]
    cases role == .key with
    | true =>
      simp only [Option.map_some, writtenKey?, Node.kind_mk, Node.text_mk, beq_iff_eq]
      split
      · rename_i quoted
        rw [texts (by simp [Node.isRead, quoted, literalKind?])]
      · rfl
    | false => exact rest.key plain
  dict plain := by
    have behind := rest.dict plain
    simp only [dictFields_eq, List.find?_cons, Node.role_mk] at behind ⊢
    cases role == .arguments with
    | true => exact argumentFields?_sameRow parts role span text text'
    | false => exact behind

/-- A comment among entries is passed over. -/
theorem SameRow.comment {file : Path} {parent : Kind} {role : Role} {text : String} {span : Span}
    {ns ms : List Node} (holds : parent.holdsEntries) (rest : SameRow file parent ns ms) :
    SameRow file parent (.mk .comment role text span [] :: ns) ms where
  record := by
    have passed : recordField? file (.mk .comment role text span []) = none := rfl
    rw [recordFields, passed]
    exact rest.record
  arguments := by
    rw [dictEntries]
    exact rest.arguments
  spelled plain := by
    rw [plain] at holds
    cases holds
  value plain := by
    rw [plain] at holds
    cases holds
  key plain := by
    rw [plain] at holds
    cases holds
  dict plain := by
    rw [plain] at holds
    cases holds

theorem sameRow_thinned (file : Path) {kind : Kind} {ns ms : List Node}
    (thinned : Node.AllThinned kind ns ms) : SameRow file kind ns ms := by
  -- a node is read alike once its parts are, and then so is the row that it stands in
  induction thinned with
  | nil => exact ⟨rfl, rfl, fun _ _ _ => rfl, fun _ _ => rfl, fun _ => rfl, fun _ => rfl⟩
  | cons texts _ _ ihIn ihRest => exact ihIn.cons texts ihRest
  | comment holds rest ih => exact ih.comment holds

section Sites

variable (file : Path) {n m : Node} (thinned : n.Thinned m)
include thinned

theorem exprOf_thinned :
    (exprOf file n).map Expr.outline = (exprOf file m).map Expr.outline := by
  obtain ⟨kind, role, text, span, inside⟩ := n
  obtain ⟨kind', role', text', span', inside'⟩ := m
  obtain ⟨rfl, rfl, rfl, texts, parts⟩ := thinned
  exact exprOf_sameRow (sameRow_thinned file parts) role span texts

theorem argumentOf_thinned :
    (argumentOf file n).map Argument.outline = (argumentOf file m).map Argument.outline := by
  obtain ⟨kind, role, text, span, inside⟩ := n
  obtain ⟨kind', role', text', span', inside'⟩ := m
  obtain ⟨rfl, rfl, rfl, texts, parts⟩ := thinned
  exact argumentOf_sameRow (sameRow_thinned file parts) role span texts

theorem argumentsOf_thinned (plain : n.kind.holdsEntries = false) :
    (argumentsOf file n).map (Noted.map Argument.outline) =
      (argumentsOf file m).map (Noted.map Argument.outline) := by
  unfold argumentsOf
  rcases Node.missing_or_related (thinned.child? .arguments plain) with
    ⟨none, none'⟩ | ⟨a, a', found, found', pair⟩
  · rw [none, none']
  · simp only [found, found', ← pair.kind]
    split
    · rw [List.map_map, List.map_map]
      exact Node.map_thinned pair.entries fun n _ m inside => argumentOf_thinned file inside
    · obtain ⟨whole, notes⟩ := Noted.map_inj.mp (exprOf_thinned file pair)
      have positional := congrArg₂ Noted.mk (congrArg Argument.positional whole) notes
      exact congrArg (fun value => [value]) positional

theorem callSiteOf_thinned (plain : n.kind.holdsEntries = false) :
    (callSiteOf file n).map CallSite.outline = (callSiteOf file m).map CallSite.outline := by
  obtain ⟨values, steps⟩ := Noted.gathered (argumentsOf_thinned file thinned plain)
  have callee := (sameRow_thinned file thinned.parts).spelled plain .function rfl
  refine Noted.map_inj.mpr ⟨?_, steps⟩
  simp only [callSiteOf, CallSite.outline, values, callee, thinned.span]

theorem callSites_thinned :
    (callSites file n).value.map CallSite.outline = (callSites file m).value.map CallSite.outline ∧
      (callSites file n).steps = (callSites file m).steps := by
  apply Noted.gathered
  rw [List.map_map, List.map_map]
  refine Node.map_thinned (thinned.ofKind (by decide)) fun call member _ pair => ?_
  have isCall : call.kind = .call := by simpa using (List.mem_filter.mp member).2
  exact callSiteOf_thinned file pair (by rw [isCall]; rfl)

end Sites

end Lowering

namespace Imports

variable {n m : Node}

theorem aliased?_thinned (thinned : n.Thinned m) (plain : n.kind.holdsEntries = false) :
    aliased? n = aliased? m := by
  unfold aliased?
  rcases thinned.spelled .name rfl plain with
    ⟨none, none'⟩ | ⟨name, name', found, found', same⟩
  · rw [none, none']
  · rcases thinned.spelled .newName rfl plain with
      ⟨none, none'⟩ | ⟨newName, newName', there, there', same'⟩
    · rw [found, found', none, none']
    · simp only [found, found', there, there', same, same']

theorem importBinding?_thinned (thinned : n.Thinned m) (named : n.role = .name) :
    importBinding? n = importBinding? m := by
  unfold importBinding?
  rw [← thinned.kind]
  split
  · rename_i aliased
    rw [aliased?_thinned thinned (by rw [beq_iff_eq.mp aliased]; rfl)]
  · rw [thinned.texts (by simp [Node.isRead, named, Role.isSpelled])]

theorem importFromBinding?_thinned (module : String) (thinned : n.Thinned m)
    (named : n.role = .name) : importFromBinding? module n = importFromBinding? module m := by
  unfold importFromBinding?
  rw [← thinned.kind]
  split
  · rename_i aliased
    rw [aliased?_thinned thinned (by rw [beq_iff_eq.mp aliased]; rfl)]
  · rw [thinned.texts (by simp [Node.isRead, named, Role.isSpelled])]

theorem filterMap_thinned {f : Node → Option Binding}
    (same : ∀ a b, a.Thinned b → a.role = .name → f a = f b) (thinned : n.Thinned m)
    (plain : n.kind.holdsEntries = false) :
    (n.childrenIn .name).filterMap f = (m.childrenIn .name).filterMap f := by
  have each : (n.childrenIn .name).map f = (m.childrenIn .name).map f := by
    refine Node.map_thinned (thinned.childrenIn .name plain) fun name member _ pair => ?_
    exact same _ _ pair (by simpa using (List.mem_filter.mp member).2)
  have gathered := congrArg (List.filterMap id) each
  rwa [List.filterMap_map, List.filterMap_map] at gathered

theorem bindingsOf_thinned (thinned : n.Thinned m) : bindingsOf n = bindingsOf m := by
  unfold bindingsOf
  rw [← thinned.kind]
  split
  · rename_i plain
    exact filterMap_thinned (fun _ _ => importBinding?_thinned) thinned (by rw [plain]; rfl)
  · rename_i plain
    have entryless : n.kind.holdsEntries = false := by rw [plain]; rfl
    rcases thinned.spelled .moduleName rfl entryless with
      ⟨none, none'⟩ | ⟨source, source', found, found', same⟩
    · rw [none, none']
    · simp only [found, found', same]
      exact filterMap_thinned (fun _ _ => importFromBinding?_thinned _) thinned entryless
  · rfl

theorem bindings_thinned {root root' : Node} (thinned : root.Thinned root') :
    bindings root = bindings root' := by
  have all (n : Node) : bindings n =
      ((Node.preorderAll (!isImport ·) [n]).filter (·.kind != .comment)).flatMap bindingsOf := by
    rw [bindings, Node.walk_eq_preorder, Node.preorderAll, Node.preorderAll, List.append_nil]
    generalize Node.preorder (!isImport ·) n = nodes
    induction nodes with
    | nil => rfl
    | cons n rest ih =>
      rw [List.flatMap_cons, ih, List.filter_cons]
      split
      · rw [List.flatMap_cons]
      · rename_i comment
        have kind : n.kind = .comment := by simpa using comment
        rw [bindingsOf, kind]
        rfl
  have nodes := (Node.AllThinned.single .module thinned).preorderAll (!isImport ·) (·.kind != .comment)
    (fun a b pair => by simp only [isImport, pair.kind]) (fun a comment => by simp [comment])
    (fun a b pair => by rw [pair.kind])
  rw [all, all, List.flatMap_def, List.flatMap_def,
    Node.map_thinned nodes fun _ _ _ => bindingsOf_thinned]

end Imports

namespace Scan
open Lowering

/-- Deleting comments among arguments and record entries keeps the call sites of a tree, up to excerpts
of the source, and with them everything that a scan notes and finds. -/
theorem comments_transparent (file : Path) {root root' : Node} (thinned : root.Thinned root') :
    (callSites file root).value.map CallSite.outline =
        (callSites file root').value.map CallSite.outline ∧
      ∀ config fault, ofTree config file fault root = ofTree config file fault root' := by
  obtain ⟨sites, steps⟩ := callSites_thinned file thinned
  refine ⟨sites, fun config fault => ?_⟩
  have facts : FileFacts.of file fault root = FileFacts.of file fault root' := by
    rw [FileFacts.of, FileFacts.of, Imports.bindings_thinned thinned]
  have checked : checkSites config (FileFacts.of file fault root') (callSites file root).value =
      checkSites config (FileFacts.of file fault root') (callSites file root').value := by
    rw [← checkSites_outline, sites, checkSites_outline]
  simp only [ofTree, readSites, Noted.within, facts, steps]
  cases (callSites file root').steps.all (ReadStep.isWithin maxLevel) with
  | true => simp only [if_true, checked]
  | false => rfl

/-- A call of a target with comments among its arguments, among the settings of its pool and in a
record that is spread there. -/
def commentedText : String :=
  "import jdbc\njdbc.Client(  # one\n  connectionPool=dict(maxOpenConnections=0,  # two\n" ++
    "    **\x7b\n# three\n\x7d))\n"

theorem commentedText_transparent : ∃ root, Node.ofText? commentedText.toList = some root ∧
    root.Thinned root.uncommented ∧ root.size = root.uncommented.size + 3 ∧
    (callSites ⟨0, ["app.py"]⟩ root).value.map CallSite.outline =
      (callSites ⟨0, ["app.py"]⟩ root.uncommented).value.map CallSite.outline ∧
    ofTree .standard ⟨0, ["app.py"]⟩ none root =
      ofTree .standard ⟨0, ["app.py"]⟩ none root.uncommented ∧
    (ofTree .standard ⟨0, ["app.py"]⟩ none root).result.toOption.map (·.map (·.code)) =
      some ["SQL_101"] := by
  have read : (Node.ofText? commentedText.toList).any fun root =>
      root.size == root.uncommented.size + 3 &&
        (ofTree .standard ⟨0, ["app.py"]⟩ none root).result.toOption.map (·.map (·.code)) ==
          some ["SQL_101"] := by
    decide +kernel
  obtain ⟨root, parsed, holds⟩ := (Option.any_eq_true _ _).mp read
  obtain ⟨sizes, codes⟩ := (Bool.and_eq_true _ _).mp holds
  have thinned := root.thinned_uncommented
  obtain ⟨sites, scans⟩ := comments_transparent ⟨0, ["app.py"]⟩ thinned
  exact ⟨root, parsed, thinned, beq_iff_eq.mp sizes, sites, scans .standard none,
    beq_iff_eq.mp codes⟩

end Scan
end PoolLint
