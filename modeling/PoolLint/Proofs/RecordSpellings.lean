import PoolLint.Proofs.LoweredNodes
import PoolLint.Proofs.RelatedArguments
import PoolLint.Text.Identifier

/-! The two spellings of a record: a call of `dict` with nothing but named and spread arguments, and a
display in braces. Over the same names and values they have the same settings, so it makes no
difference to any check which one is written. A call of `dict` with any other argument is no record. -/
namespace PoolLint

namespace Text

/-- Characters that a token loses: blanks around it, quotes and line ends in it. -/
def isDecoration (c : Char) : Bool := isBlank c || (c == '"' || c == '\'' || c == '\n')

/-- The blanks beyond ASCII. -/
def wideBlanks : List Nat :=
  [0x85, 0xA0, 0x1680, 0x2000, 0x2001, 0x2002, 0x2003, 0x2004, 0x2005, 0x2006, 0x2007, 0x2008,
    0x2009, 0x200A, 0x2028, 0x2029, 0x202F, 0x205F, 0x3000]

theorem mem_wideBlanks {c : Char} (decoration : isDecoration c = true) (wide : 128 ≤ c.toNat) :
    c.toNat ∈ wideBlanks := by
  have noQuote : (c == '"' || c == '\'' || c == '\n') = false := by
    have apart (d : Char) (narrow : d.toNat < 128) : c ≠ d := by
      rintro rfl
      omega
    simp [apart '"' (by decide), apart '\'' (by decide), apart '\n' (by decide)]
  rw [isDecoration, noQuote, Bool.or_false] at decoration
  simp only [isBlank, Bool.or_eq_true, Bool.and_eq_true, decide_eq_true_eq, beq_iff_eq]
    at decoration
  simp only [wideBlanks, List.mem_cons, List.not_mem_nil, or_false]
  omega

/-- No identifier has anything in it that a token loses. -/
theorem isDecoration_outside {c : Char} (decoration : isDecoration c = true) :
    isIdentifierStart c = false ∧ isIdentifierContinue c = false := by
  by_cases narrow : c.toNat < 128
  · have all : ∀ n < 128, isDecoration (Char.ofNat n) = true →
        isIdentifierStart (Char.ofNat n) = false ∧ isIdentifierContinue (Char.ofNat n) = false := by
      decide
    simpa [Char.ofNat_toNat] using all c.toNat narrow (by simpa [Char.ofNat_toNat] using decoration)
  · have outside : ∀ n ∈ wideBlanks, inRanges identifierStartRanges n = false ∧
        inRanges identifierContinueRanges n = false := by
      decide +kernel
    have member := mem_wideBlanks decoration (Nat.le_of_not_lt narrow)
    simp [isIdentifierStart, isIdentifierContinue, narrow, outside _ member]

theorem identifier_undecorated {s : String} (identifier : isIdentifier s = true) :
    ∀ c ∈ s.toList, isDecoration c = false := by
  unfold isIdentifier at identifier
  split at identifier
  · cases identifier
  · rename_i c cs shape
    obtain ⟨start, rest⟩ := (Bool.and_eq_true _ _).mp identifier
    rw [shape, List.forall_mem_cons]
    constructor
    · rw [← Bool.not_eq_true]
      intro decoration
      rw [(isDecoration_outside decoration).1] at start
      cases start
    · intro d member
      rw [← Bool.not_eq_true]
      intro decoration
      have goesOn := List.all_eq_true.mp rest d member
      rw [(isDecoration_outside decoration).2] at goesOn
      cases goesOn

end Text

namespace PoolCheck
open Text

/-- A name is the same key with quotes around it and without. -/
theorem plainToken_identifier {name : String} (identifier : isIdentifier name = true) :
    plainToken name = name ∧ plainToken ("\"" ++ name ++ "\"") = name := by
  have bare : ∀ c ∈ name.toList, isBlank c = false ∧ !(c == '"' || c == '\'' || c == '\n') := by
    intro c member
    have undecorated := identifier_undecorated identifier c member
    rw [isDecoration, Bool.or_eq_false_iff] at undecorated
    exact ⟨undecorated.1, by rw [undecorated.2]; rfl⟩
  have kept := List.filter_eq_self.mpr fun c member => (bare c member).2
  constructor
  · have trimmed : trim name.toList = name.toList :=
      trimWhere_eq_self fun c member => (bare c member).1
    rw [plainToken, plainChars, trimmed, kept, String.ofList_toList]
  · have quoted : ("\"" ++ name ++ "\"").toList = '"' :: (name.toList ++ ['"']) := by simp
    have trimmed : trim ('"' :: (name.toList ++ ['"'])) = '"' :: (name.toList ++ ['"']) := by
      refine trimWhere_eq_self fun c member => ?_
      rcases List.mem_cons.mp member with rfl | member
      · rfl
      · rcases List.mem_append.mp member with inside | last
        · exact (bare c inside).1
        · rw [List.mem_singleton.mp last]
          rfl
    rw [plainToken, plainChars, quoted, trimmed, List.filter_cons_of_neg (by decide),
      List.filter_append, kept, List.filter_cons_of_neg (by decide), List.filter_nil,
      List.append_nil, String.ofList_toList]

end PoolCheck

namespace Lowering
open Syntax PoolCheck

/-- An argument of a call of `dict` and the entry of a display that says the same. -/
inductive SameEntry : Node → Node → Prop
  | setting {argument pair name key value : Node} (named : argument.kind = .keywordArgument)
      (nameFound : argument.child? .name = some name)
      (identifier : Text.isIdentifier name.text = true)
      (valueFound : argument.child? .value = some value) (isPair : pair.kind = .pair)
      (keyFound : pair.child? .key = some key) (plain : key.kind = .string)
      (quoted : key.text = "\"" ++ name.text ++ "\"")
      (sameValue : pair.child? .value = some value) : SameEntry argument pair
  | spread {argument entry : Node} (kind : argument.kind = .dictionarySplat)
      (kind' : entry.kind = .dictionarySplat) : SameEntry argument entry

structure DictCall (call arguments : Node) : Prop where
  kind : call.kind = .call
  function : ∃ function, call.child? .function = some function ∧ function.text = "dict"
  found : call.child? .arguments = some arguments
  list : arguments.kind = .argumentList

/-- A call of `dict` and a display over the same names and values. Comments may stand anywhere in
either, since they are no entries. -/
structure SameRecord (call arguments display : Node) : Prop where
  dict : DictCall call arguments
  braces : display.kind = .dictionary
  entries : List.Forall₂ SameEntry arguments.entries display.entries

def IsRecord (e : Expr) : Prop := ∃ fields text place, e = .record fields text place

theorem isRecord_iff (e : Expr) : IsRecord e ↔ (settings? e).isSome := by
  cases e with
  | record fields text place => exact ⟨fun _ => rfl, fun _ => ⟨fields, text, place, rfl⟩⟩
  | literal => simp [IsRecord, settings?]
  | unary => simp [IsRecord, settings?]
  | other => simp [IsRecord, settings?]

theorem DictCall.fields? {call arguments : Node} (dict : DictCall call arguments) :
    call.fields? = if arguments.entries.all (isNamedOrSpread ·.kind) then
      some (arguments.entries.filterMap Node.named?) else none := by
  obtain ⟨function, functionFound, text⟩ := dict.function
  simp [Node.fields?, Node.record?, dict.kind, Node.dictArguments?, functionFound, dict.found,
    dict.list, text]

theorem SameEntry.fitting {argument entry : Node} (same : SameEntry argument entry) :
    isNamedOrSpread argument.kind = true := by
  cases same with
  | setting named => rw [named]; rfl
  | spread kind => rw [kind]; rfl

/-- Entries that say the same have the same setting, if they have one. -/
theorem SameEntry.setting_eq (file : Path) {argument entry : Node}
    (same : SameEntry argument entry) :
    argument.named?.map (settingAt file) = entry.keyed?.map (settingAt file) := by
  cases same with
  | setting named nameFound identifier valueFound isPair keyFound plain quoted sameValue =>
    obtain ⟨bare, inQuotes⟩ := plainToken_identifier identifier
    simp [Node.named?, Node.keyed?, named, nameFound, valueFound, isPair, keyFound, plain, quoted,
      sameValue, settingAt, bare, inQuotes]
  | spread kind kind' => simp [Node.named?, Node.keyed?, kind, kind']

theorem SameEntry.all_eq (file : Path) {arguments entries : List Node}
    (same : List.Forall₂ SameEntry arguments entries) :
    arguments.all (isNamedOrSpread ·.kind) = true ∧
      (arguments.filterMap Node.named?).map (settingAt file) =
        (entries.filterMap Node.keyed?).map (settingAt file) := by
  rw [List.map_filterMap, List.map_filterMap]
  induction same with
  | nil => exact ⟨rfl, rfl⟩
  | cons pair rest ih =>
    rw [List.all_cons, pair.fitting, ih.1, List.filterMap_cons, List.filterMap_cons,
      pair.setting_eq file, ih.2]
    exact ⟨rfl, rfl⟩

theorem SameRecord.settings (file : Path) {call arguments display : Node}
    (same : SameRecord call arguments display) :
    (settings? (exprOf file call).value).isSome ∧
      settings? (exprOf file call).value = settings? (exprOf file display).value := by
  obtain ⟨fitting, settings⟩ := SameEntry.all_eq file same.entries
  have left : call.fields? = some (arguments.entries.filterMap Node.named?) := by
    rw [same.dict.fields?, if_pos fitting]
  have right : display.fields? = some (display.entries.filterMap Node.keyed?) := by
    simp [Node.fields?, Node.record?, same.braces]
  rw [settings?_exprOf, settings?_exprOf, left, right, Option.map_some, Option.map_some, settings]
  exact ⟨rfl, rfl⟩

/-- An argument of a call of `dict` that is neither named nor spread, which may be a comprehension
without parentheses of its own. -/
inductive OtherArgument (call : Node) : Prop
  | entry {arguments e : Node} (dict : DictCall call arguments) (member : e ∈ arguments.entries)
      (unnamed : e.kind ≠ .keywordArgument) (unspread : e.kind ≠ .dictionarySplat) :
      OtherArgument call
  | bare {arguments : Node} (kind : call.kind = .call)
      (found : call.child? .arguments = some arguments) (single : arguments.kind ≠ .argumentList) :
      OtherArgument call

theorem OtherArgument.fields? {call : Node} (other : OtherArgument call) : call.fields? = none := by
  cases other with
  | @entry arguments e dict member unnamed unspread =>
    have unfit : arguments.entries.all (isNamedOrSpread ·.kind) = false := by
      rw [List.all_eq_false]
      exact ⟨e, member, by simp [isNamedOrSpread, unnamed, unspread]⟩
    rw [dict.fields?, unfit]
    rfl
  | bare kind found single =>
    have noArguments : call.dictArguments? = none := by
      unfold Node.dictArguments?
      rw [found]
      cases call.child? .function <;> simp [single]
    simp [Node.fields?, Node.record?, kind, noArguments]

/-- The two spellings of a record are records with the same settings, and calls that differ only in
which of them they pass on are checked alike. A call of `dict` with another argument is no record. -/
theorem record_spellings_interchange (file : Path) :
    (∀ call arguments display, SameRecord call arguments display →
      IsRecord (exprOf file call).value ∧ IsRecord (exprOf file display).value ∧
        settings? (exprOf file call).value = settings? (exprOf file display).value ∧
        ∀ config prior isTarget site site', isTarget site = isTarget site' →
          List.Forall₂ (SameForm fun a b => a = b ∨
            a = (exprOf file call).value ∧ b = (exprOf file display).value)
            site.arguments site'.arguments →
          (perform config prior isTarget site).map (·.diagnostics) =
            (perform config prior isTarget site').map (·.diagnostics)) ∧
      ∀ call, OtherArgument call → ¬ IsRecord (exprOf file call).value := by
  constructor
  · intro call arguments display same
    obtain ⟨isSome, settings⟩ := same.settings file
    refine ⟨(isRecord_iff _).mpr isSome, (isRecord_iff _).mpr (settings ▸ isSome), settings, ?_⟩
    intro config prior isTarget site site' targets pairs
    refine perform_related (·.diagnostics) pairs ?_ config prior targets
    rintro a b (rfl | ⟨rfl, rfl⟩)
    · rfl
    · rw [checkPool_diagnostics, checkPool_diagnostics, settings]
  · intro call other
    rw [isRecord_iff, settings?_exprOf, other.fields?]
    simp

section Spelled

private def part (kind : Kind) (role : Role) (text : String) (children : List Node) : Node :=
  .mk kind role text default children

private def zero : Node := part .integer .value "0" []

private def spread : Node := part .dictionarySplat .plain "**rest" []

private def comment : Node := part .comment .plain "# at least one" []

private def setting : Node :=
  part .keywordArgument .plain "maxOpenConnections=0"
    [part .identifier .name "maxOpenConnections" [], zero]

private def entry : Node :=
  part .pair .plain "\"maxOpenConnections\": 0"
    [part .string .key "\"maxOpenConnections\"" [], zero]

def spelledArguments : Node := part .argumentList .arguments "" [spread, comment, setting]

/-- A call of `dict` with a spread argument, a comment and a named argument. -/
def spelledCall : Node :=
  part .call .value "" [part .identifier .function "dict" [], spelledArguments]

def spelledDisplay : Node := part .dictionary .value "" [spread, entry, comment]

/-- The same call with a list in front of the named argument. -/
def mixedCall : Node :=
  part .call .value "" [part .identifier .function "dict" [],
    part .argumentList .arguments "" [spread, part .list .plain "[]" [], setting]]

def siteWith (pool : Node) : CallSite :=
  ⟨"jdbc.Client", [.named "connectionPool" (exprOf ⟨0, ["app.py"]⟩ pool).value], default⟩

theorem spelledCall_interchanges :
    SameRecord spelledCall spelledArguments spelledDisplay ∧ OtherArgument mixedCall ∧
      IsRecord (exprOf ⟨0, ["app.py"]⟩ spelledCall).value ∧
      ¬ IsRecord (exprOf ⟨0, ["app.py"]⟩ mixedCall).value ∧
      (perform .standard [] (fun _ => true) (siteWith spelledCall)).map (·.diagnostics) =
        (perform .standard [] (fun _ => true) (siteWith spelledDisplay)).map (·.diagnostics) ∧
      (perform .standard [] (fun _ => true) (siteWith spelledCall)).map
        (·.diagnostics.map (·.code)) = .ok ["SQL_101"] := by
  have same : SameRecord spelledCall spelledArguments spelledDisplay := by
    refine ⟨⟨rfl, ⟨_, rfl, rfl⟩, rfl, rfl⟩, rfl, ?_⟩
    exact .cons (.spread rfl rfl)
      (.cons (.setting rfl rfl (by decide) rfl rfl rfl rfl (by decide) rfl) .nil)
  have other : OtherArgument mixedCall := by
    have dict : DictCall mixedCall _ := ⟨rfl, ⟨_, rfl, rfl⟩, rfl, rfl⟩
    exact .entry dict (List.mem_cons_of_mem _ List.mem_cons_self) (by decide) (by decide)
  obtain ⟨records, unlike⟩ := record_spellings_interchange ⟨0, ["app.py"]⟩
  obtain ⟨isRecord, -, -, checked⟩ := records _ _ _ same
  have alike := checked .standard [] (fun _ => true) (siteWith spelledCall)
    (siteWith spelledDisplay) rfl (.cons (.named _ (.inr ⟨rfl, rfl⟩)) .nil)
  exact ⟨same, other, isRecord, unlike mixedCall other, alike, by decide +kernel⟩

end Spelled

end Lowering
end PoolLint
