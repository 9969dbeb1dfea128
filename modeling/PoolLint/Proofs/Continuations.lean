import Mathlib.Data.List.Forall2
import PoolLint.Proofs.RewrappedBlocks
import PoolLint.Proofs.RewrappedFindings

/-! Where line continuations are layout only. Two texts of the same tokens, with other line
continuations between them, have findings of the same codes in the same order, as long as none
stands where it counts. One in an argument list without a named pool takes the place of an argument. -/
namespace PoolLint

namespace Syntax

/-- Texts of the same tokens, with other line continuations between them. -/
def DifferInContinuations (cs cs' : List Char) : Prop :=
  ∃ ts ts', Token.read? cs = some ts ∧ Token.read? cs' = some ts' ∧ List.Forall₂ Token.Alike ts ts'

theorem DifferInContinuations.trees {cs cs' : List Char} (texts : DifferInContinuations cs cs') :
    Option.Rel Node.Alike (Node.ofText? cs) (Node.ofText? cs') := by
  obtain ⟨ts, ts', read, read', tokens⟩ := texts
  rw [Node.ofText?, Node.ofText?, read, read']
  exact Node.ofTokens?_alike tokens

section Check

def Node.isContinuation : Node → Bool
  | .mk .lineContinuation .plain _ _ [] => true
  | _ => false

theorem Node.eq_continuation {n : Node} (is : n.isContinuation = Bool.true) :
    ∃ text span, n = continuation text span := by
  unfold Node.isContinuation at is
  split at is
  · exact ⟨_, _, rfl⟩
  · cases is

theorem Node.allAlike_of_continuations {ns ms : List Node} (left : ns.all isContinuation = Bool.true)
    (right : ms.all isContinuation = Bool.true) : AllAlike ns ms := by
  rw [List.all_eq_true] at left right
  induction ns with
  | nil =>
    induction ms with
    | nil => exact .nil
    | cons m ms ih =>
      obtain ⟨text, span, rfl⟩ := eq_continuation (right m List.mem_cons_self)
      exact .right (ih fun m member => right m (List.mem_cons_of_mem _ member))
  | cons n ns ih =>
    obtain ⟨text, span, rfl⟩ := eq_continuation (left n List.mem_cons_self)
    exact .left (ih fun n member => left n (List.mem_cons_of_mem _ member))

/-- Whether two tokens without comments in front of them differ only in line continuations. Texts
are compared by their characters, which are faster to evaluate. -/
def Token.isRewrapped (t u : Token) : Bool :=
  t.kind == u.kind && t.text.toList == u.text.toList && t.endsLine == u.endsLine &&
    t.indent == u.indent && (t.layout.toList == u.layout.toList ||
      !(t.kind == .stringContent || t.kind == .stringEnd) &&
        unwrapped t.layout.toList == unwrapped u.layout.toList) &&
    t.extras.all Node.isContinuation && u.extras.all Node.isContinuation

theorem Token.alike_of_isRewrapped {t u : Token} (is : t.isRewrapped u = true) : t.Alike u := by
  obtain ⟨kind, text, layout, extras, endsLine, indent, span⟩ := t
  obtain ⟨kind', text', layout', extras', endsLine', indent', span'⟩ := u
  simp only [Token.isRewrapped, Bool.and_eq_true, Bool.or_eq_true, beq_iff_eq,
    String.toList_inj] at is
  obtain ⟨⟨⟨⟨⟨⟨rfl, rfl⟩, rfl⟩, rfl⟩, layouts⟩, left⟩, right⟩ := is
  have comments := Node.allAlike_of_continuations left right
  rcases layouts with rfl | ⟨outside, layouts⟩
  · exact .intro (.refl _) (fun _ => rfl) comments
  · refine .intro (rewrapped_of_unwrapped layouts) ?_ comments
    rintro (rfl | rfl)
    · cases outside
    · cases outside

def Token.areRewrapped : List Token → List Token → Bool
  | [], [] => true
  | t :: ts, u :: us => t.isRewrapped u && areRewrapped ts us
  | _, _ => false

theorem Token.alike_of_areRewrapped {ts us : List Token} (are : areRewrapped ts us = true) :
    List.Forall₂ Token.Alike ts us := by
  induction ts, us using areRewrapped.induct with
  | case1 => exact .nil
  | case2 t ts u us ih =>
    obtain ⟨here, rest⟩ := (Bool.and_eq_true _ _).mp are
    exact .cons (alike_of_isRewrapped here) (ih rest)
  | case3 ts us unequal unequal' =>
    rw [areRewrapped.eq_3 _ _ unequal unequal'] at are
    cases are

/-- Whether two texts without comments differ only in line continuations. -/
def isRewrapped (cs cs' : List Char) : Bool :=
  (Token.read? cs).any fun ts => (Token.read? cs').any (Token.areRewrapped ts)

theorem differ_of_isRewrapped {cs cs' : List Char} (is : isRewrapped cs cs' = true) :
    DifferInContinuations cs cs' := by
  obtain ⟨ts, read, is⟩ := (Option.any_eq_true _ _).mp is
  obtain ⟨ts', read', are⟩ := (Option.any_eq_true _ _).mp is
  exact ⟨ts, ts', read, read', Token.alike_of_areRewrapped are⟩

end Check

end Syntax

namespace Shortfall
open Syntax

instance (s : String) : Decidable (Unbroken s) := inferInstanceAs (Decidable (¬ _ ∈ _))

instance (b : Binding) : Decidable (Imports.Whole b) :=
  decidable_of_iff (Unbroken b.localName ∧ Unbroken b.qualified)
    ⟨fun both => ⟨both.1, both.2⟩, fun whole => ⟨whole.localName, whole.qualified⟩⟩

instance (n : Node) : Decidable (Uninterrupted n) := inferInstanceAs (Decidable (∀ e ∈ _, _ ≠ _))

/-- Whether a call has its pool under a name, or nothing interrupts its arguments, and nothing
interrupts a pool that is a call. -/
def isIntactPool (config : RuleConfig) (call : Node) : Bool :=
  (call.child? .arguments).all (fun arguments =>
      arguments.entries.any (fun e => (poolNamed? config.poolNames e).isSome) ||
        decide (Uninterrupted arguments)) &&
    (poolNode? config call).all fun pool => decide (Unbroken (calleeText pool)) &&
      (pool.child? .arguments).all fun arguments => decide (Uninterrupted arguments)

/-- Whether no callee has a line continuation in it, and no call one where it counts. -/
def isIntact (config : RuleConfig) (root : Node) : Bool :=
  (Imports.bindings root).all (fun b => decide (Imports.Whole b)) &&
    (root.ofKind .call).all fun call =>
      decide (Unbroken (calleeText call)) && isIntactPool config call

theorem intactPool_of_check {config : RuleConfig} {call : Node}
    (is : isIntactPool config call = true) : IntactPool config call := by
  obtain ⟨given, pools⟩ := (Bool.and_eq_true _ _).mp is
  constructor
  · intro arguments found _
    rw [found] at given
    rcases (Bool.or_eq_true _ _).mp given with named | whole
    · obtain ⟨e, member, some_⟩ := List.any_eq_true.mp named
      obtain ⟨value, holds⟩ := Option.isSome_iff_exists.mp some_
      obtain ⟨name, named, chosen⟩ := (poolNamed?_eq_some config.poolNames e value).mp holds
      exact .inl ⟨e, member, name, value, named, chosen⟩
    · exact .inr (of_decide_eq_true whole)
  · intro pool isPool _
    rw [(poolNode_iff config call pool).mp isPool] at pools
    obtain ⟨callee, given⟩ := (Bool.and_eq_true _ _).mp pools
    intro _
    refine ⟨of_decide_eq_true callee, ?_⟩
    intro arguments found
    rw [found] at given
    exact of_decide_eq_true given

theorem intact_of_check {config : RuleConfig} {root : Node} (is : isIntact config root = true) :
    Intact config root := by
  obtain ⟨bindings, calls⟩ := (Bool.and_eq_true _ _).mp is
  rw [List.all_eq_true] at bindings calls
  constructor
  · intro b member
    exact of_decide_eq_true (bindings b member)
  · intro call member _ _ _
    exact of_decide_eq_true ((Bool.and_eq_true _ _).mp (calls call member)).1
  · intro call member _
    exact intactPool_of_check ((Bool.and_eq_true _ _).mp (calls call member)).2

end Shortfall

namespace Scan
open Syntax

/-- The tree of a text is shallow, if it has one. -/
def ShallowText (cs : List Char) : Prop := ∀ root ∈ Node.ofText? cs, root.Shallow

instance (cs : List Char) : Decidable (ShallowText cs) :=
  decidable_of_iff ((Node.ofText? cs).all fun root => decide root.Shallow) <| by
    simp [ShallowText, Option.all_eq_true]

theorem legal_codes {config : RuleConfig} (file : Path) {cs : List Char} {root : Node}
    (parsed : Node.ofText? cs = some root) (legal : Legality.check cs = .legal)
    (lower : 0 ≤ config.poolIndex) (upper : config.poolIndex < config.parameterCount) :
    (ofText config file cs).result.map (·.map (·.code)) =
      if ShallowText cs then
        .ok (((Shortfall.inTree config root).map (Shortfall.diagnostic file)).map (·.code))
      else .error .tooDeep := by
  have shallow : ShallowText cs ↔ root.Shallow := by simp [ShallowText, parsed]
  rw [ofText_legal config file cs root parsed legal, ofTree_shortfalls config file root lower upper]
  simp only [shallow]
  split <;> rfl

/-- Legal texts that differ in line continuations only are scanned to findings of the same codes, as
long as no line is continued where it counts. A text in which a value lies too deep has none. -/
theorem continuations_keep_codes (config : RuleConfig) (file : Path) (cs cs' : List Char)
    (lower : 0 ≤ config.poolIndex) (upper : config.poolIndex < config.parameterCount)
    (texts : DifferInContinuations cs cs') (legal : Legality.check cs = .legal)
    (legal' : Legality.check cs' = .legal)
    (left : ∀ root, Node.ofText? cs = some root → Shortfall.Intact config root)
    (right : ∀ root, Node.ofText? cs' = some root → Shortfall.Intact config root) :
    ∃ codes : List String,
      (ofText config file cs).result.map (·.map (·.code)) =
        (if ShallowText cs then .ok codes else .error .tooDeep) ∧
      (ofText config file cs').result.map (·.map (·.code)) =
        if ShallowText cs' then .ok codes else .error .tooDeep := by
  rcases Node.missing_or_related texts.trees with
    ⟨none, none'⟩ | ⟨root, root', parsed, parsed', alike⟩
  · have shallow : ShallowText cs := by simp [ShallowText, none]
    have shallow' : ShallowText cs' := by simp [ShallowText, none']
    refine ⟨[], ?_, ?_⟩
    · rw [if_pos shallow, ofText, none]
      rfl
    · rw [if_pos shallow', ofText, none']
      rfl
  · refine ⟨_, legal_codes file parsed legal lower upper, ?_⟩
    rw [Shortfall.codes_alike file file alike (left root parsed) (right root' parsed')]
    exact legal_codes file parsed' legal' lower upper

theorem any_returned {config : RuleConfig} {file : Path} {cs : List Char}
    {test : List Diagnostic → Bool} (legal : Legality.check cs = .legal)
    (passes : (Node.ofText? cs).any fun root =>
      (ofTree config file none root).result.toOption.any test) :
    ∃ ds, (ofText config file cs).result = .ok ds ∧ test ds = true := by
  obtain ⟨root, parsed, here⟩ := (Option.any_eq_true _ _).mp passes
  rw [← ofText_legal config file cs root parsed legal] at here
  exact exists_returned here

/-- A call with a named pool and a setting that is too low. -/
def namedPoolText : String :=
  "import jdbc\njdbc.Client(1, connectionPool=\x7b\"maxOpenConnections\": 0\x7d)\n"

/-- The same call with lines continued in front of the name of the pool and of the setting. -/
def continuedPoolText : String :=
  "import jdbc\njdbc.Client(1, \\\nconnectionPool=\x7b\"maxOpenConnections\": \\\n0\x7d)\n"

theorem namedPoolText_continued :
    DifferInContinuations namedPoolText.toList continuedPoolText.toList ∧
      (ofText RuleConfig.standard ⟨0, ["app.py"]⟩ namedPoolText.toList).result.map
        (·.map (·.code)) = .ok ["SQL_101"] ∧
      (ofText RuleConfig.standard ⟨0, ["app.py"]⟩ continuedPoolText.toList).result.map
        (·.map (·.code)) = .ok ["SQL_101"] := by
  have read : isRewrapped namedPoolText.toList continuedPoolText.toList ∧
      Legality.check namedPoolText.toList = .legal ∧
      Legality.check continuedPoolText.toList = .legal ∧
      (Node.ofText? namedPoolText.toList).all (Shortfall.isIntact RuleConfig.standard) ∧
      (Node.ofText? continuedPoolText.toList).all (Shortfall.isIntact RuleConfig.standard) ∧
      ShallowText namedPoolText.toList ∧ ShallowText continuedPoolText.toList ∧
      (Node.ofText? namedPoolText.toList).any fun root =>
        (ofTree RuleConfig.standard ⟨0, ["app.py"]⟩ none root).result.toOption.any
          (·.map (·.code) == ["SQL_101"]) := by
    decide +kernel
  obtain ⟨same, legal, legal', intact, intact', shallow, shallow', reported⟩ := read
  have texts := differ_of_isRewrapped same
  obtain ⟨codes, scanned, scanned'⟩ :=
    continuations_keep_codes RuleConfig.standard ⟨0, ["app.py"]⟩ _ _ (by decide) (by decide) texts
      legal legal'
      (fun root parsed => Shortfall.intact_of_check ((Option.all_eq_true _ _).mp intact root parsed))
      fun root parsed => Shortfall.intact_of_check ((Option.all_eq_true _ _).mp intact' root parsed)
  rw [if_pos shallow] at scanned
  rw [if_pos shallow'] at scanned'
  obtain ⟨ds, returned, code⟩ := any_returned legal reported
  have first : (ofText RuleConfig.standard ⟨0, ["app.py"]⟩ namedPoolText.toList).result.map
      (·.map (·.code)) = .ok ["SQL_101"] := by
    rw [returned, ← beq_iff_eq.mp code]
    rfl
  rw [scanned] at first
  cases first
  exact ⟨texts, scanned, scanned'⟩

/-- A finding in the first text is missed in the second one, which differs from it in line
continuations only. -/
structure Hidden (texts : String × String) : Prop where
  same : DifferInContinuations texts.1.toList texts.2.toList
  legal : Legality.check texts.1.toList = .legal
  legal' : Legality.check texts.2.toList = .legal
  reported : ∃ ds, (ofText RuleConfig.standard ⟨0, ["app.py"]⟩ texts.1.toList).result = .ok ds ∧
    ds.map (·.code) = ["SQL_101"]
  missed : (ofText RuleConfig.standard ⟨0, ["app.py"]⟩ texts.2.toList).result = .ok []

def isHidden (texts : String × String) : Bool :=
  isRewrapped texts.1.toList texts.2.toList &&
    Legality.check texts.1.toList == .legal && Legality.check texts.2.toList == .legal &&
    (Node.ofText? texts.1.toList).any (fun root =>
      (ofTree RuleConfig.standard ⟨0, ["app.py"]⟩ none root).result.toOption.any
        (·.map (·.code) == ["SQL_101"])) &&
    (Node.ofText? texts.2.toList).any fun root =>
      (ofTree RuleConfig.standard ⟨0, ["app.py"]⟩ none root).result.toOption.any (·.isEmpty)

theorem hidden_of_check {texts : String × String} (is : isHidden texts = true) : Hidden texts := by
  simp only [isHidden, Bool.and_eq_true, beq_iff_eq] at is
  obtain ⟨⟨⟨⟨same, legal⟩, legal'⟩, reported⟩, missed⟩ := is
  obtain ⟨ds, returned, code⟩ := any_returned legal reported
  obtain ⟨es, returned', none⟩ := any_returned legal' missed
  rw [List.isEmpty_iff.mp none] at returned'
  exact ⟨differ_of_isRewrapped same, legal, legal', ⟨ds, returned, beq_iff_eq.mp code⟩, returned'⟩

/-- A line is continued in front of the last argument of a call, which is its pool. -/
def brokenArguments : String × String :=
  ("import jdbc\njdbc.Client(1, 2, 3, 4, \x7b\"maxOpenConnections\": 0\x7d)\n",
    "import jdbc\njdbc.Client(1, 2, 3, 4, \\\n\x7b\"maxOpenConnections\": 0\x7d)\n")

/-- A line is continued inside a call of `dict`. -/
def brokenDict : String × String :=
  ("import jdbc\njdbc.Client(connectionPool=dict(maxOpenConnections=0))\n",
    "import jdbc\njdbc.Client(connectionPool=dict(\\\nmaxOpenConnections=0))\n")

/-- A line is continued in the name of a target. -/
def brokenName : String × String :=
  ("import jdbc\njdbc.Client(connectionPool=\x7b\"maxOpenConnections\": 0\x7d)\n",
    "import jdbc\njdbc.\\\nClient(connectionPool=\x7b\"maxOpenConnections\": 0\x7d)\n")

private theorem brokenArguments_hidden : Hidden brokenArguments :=
  hidden_of_check (by decide +kernel)

private theorem brokenDict_hidden : Hidden brokenDict := hidden_of_check (by decide +kernel)

private theorem brokenName_hidden : Hidden brokenName := hidden_of_check (by decide +kernel)

theorem continuations_hide : Hidden brokenArguments ∧ Hidden brokenDict ∧ Hidden brokenName :=
  ⟨brokenArguments_hidden, brokenDict_hidden, brokenName_hidden⟩

end Scan
end PoolLint
